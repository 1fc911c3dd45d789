import Reckon.Proofs.Evaluation.Circular
import Reckon.Proofs.Text.LowerTexts

/-!
# Keys are names

A definition is stored under the key of its name, and keys are shown: in the listing of an
environment and in the path of a circular definition. Taken as a name, a key has itself as its key,
and so it is a name of what is stored under it.

* `nameKey_nameKey`: a key is its own key.
* `Environment.Write`, `Environment.write`: what changes an environment. `Environment.Keyed`:
  everything is stored under a key, as `Keyed.write` keeps it.
* `Environment.BindsVariable`, `Environment.BindsFunction`: a key is a name of what is stored under
  it.
* `Circular.binds`: the names on the way to a circular definition are such, unless a function makes
  up the path.
* `keys_resolve`: all keys that are stored and all that are shown are such.
-/

namespace Reckon

theorem nameKey_nameKey (name : String) : nameKey (nameKey name) = nameKey name :=
  Text.lowercase_lowercase name

namespace NameTable

variable {α : Type}

theorem exists_of_mem_names {t : NameTable α} {key : String} (h : key ∈ t.names) :
    ∃ value, t.find? key = some value := by
  obtain ⟨entry, hentry, hkey⟩ := List.mem_map.1 h
  apply Option.isSome_iff_exists.1
  exact List.lookup_isSome_iff.2 ⟨entry, hentry, beq_iff_eq.2 hkey.symm⟩

theorem mem_names_insert {t : NameTable α} {name key : String} {value : α}
    (h : key ∈ (t.insert name value).names) : key = name ∨ key ∈ t.names :=
  mem_names_insertEntry h

end NameTable

namespace Environment

variable {σ : Type} {env : Environment σ}

/-! ## Writes -/

/-- A write to an environment. -/
inductive Write (σ : Type) where
  | define (name : String) (e : Expr)
  | addFunction (name : String) (f : Function σ)
  | withContext (c : Context)

def write (env : Environment σ) : Write σ → Environment σ
  | .define name e => env.define name e
  | .addFunction name f => env.addFunction name f
  | .withContext c => env.withContext c

/-- Everything is stored under a name that is its own key. -/
structure Keyed (env : Environment σ) : Prop where
  definitions : ∀ key ∈ env.definitions.names, nameKey key = key
  functions : ∀ key ∈ env.functions.names, nameKey key = key

theorem keyed_empty : (empty : Environment σ).Keyed :=
  ⟨List.forall_mem_nil _, List.forall_mem_nil _⟩

theorem nameKey_of_mem_insert {α : Type} {t : NameTable α}
    (h : ∀ key ∈ t.names, nameKey key = key) (name : String) (value : α) :
    ∀ key ∈ (t.insert (nameKey name) value).names, nameKey key = key := by
  intro key hkey
  rcases NameTable.mem_names_insert hkey with rfl | hkey
  · exact nameKey_nameKey name
  · exact h key hkey

theorem Keyed.write (h : env.Keyed) (w : Write σ) : (env.write w).Keyed := by
  cases w with
  | define name e => exact ⟨nameKey_of_mem_insert h.definitions name e, h.functions⟩
  | addFunction name f => exact ⟨h.definitions, nameKey_of_mem_insert h.functions name f⟩
  | withContext c => exact ⟨h.definitions, h.functions⟩

theorem Keyed.foldl_write (h : env.Keyed) (writes : List (Write σ)) :
    (writes.foldl Environment.write env).Keyed := by
  induction writes generalizing env with
  | nil => exact h
  | cons w writes ih => exact ih (h.write w)

/-! ## Names of what is stored -/

theorem definition?_nameKey (env : Environment σ) (name : String) :
    env.definition? (nameKey name) = env.definition? name := by
  rw [definition?, definition?, nameKey_nameKey]

theorem function?_nameKey (env : Environment σ) (name : String) :
    env.function? (nameKey name) = env.function? name := by
  rw [function?, function?, nameKey_nameKey]

/-- Taken as a name, the key is bound to the definition that is stored under it, and a reference to
it is evaluated by that definition. -/
def BindsVariable (env : Environment σ) (key : String) : Prop :=
  ∃ e, env.definitions.find? key = some e ∧ env.definition? key = some e ∧
    env.eval (.reference key) = env.evalWithin (evalBudget - 1) [key] e

/-- Taken as a name, the key is bound to the function that is stored under it, and that function is
called by it. -/
def BindsFunction (env : Environment σ) (key : String) : Prop :=
  ∃ f, env.functions.find? key = some f ∧ env.function? key = some f ∧
    ∀ args, env.eval (.call key args) =
      (do f env.context (← args.mapM (env.evalWithin (evalBudget - 1) [])))

theorem bindsVariable_of_find? {key : String} {e : Expr} (hkey : nameKey key = key)
    (h : env.definitions.find? key = some e) : env.BindsVariable key := by
  have hbound : env.definition? key = some e := by rwa [definition?, hkey]
  refine ⟨e, h, hbound, ?_⟩
  have heval := evalWithin_reference_of_some env (evalBudget - 1) List.not_mem_nil hbound
  rw [hkey] at heval
  exact heval

theorem bindsFunction_of_find? {key : String} {f : Function σ} (hkey : nameKey key = key)
    (h : env.functions.find? key = some f) : env.BindsFunction key := by
  have hbound : env.function? key = some f := by rwa [function?, hkey]
  exact ⟨f, h, hbound, evalWithin_call_of_some env (evalBudget - 1) [] hbound⟩

theorem Keyed.bindsVariable (h : env.Keyed) {key : String} (hkey : key ∈ env.definitions.names) :
    env.BindsVariable key := by
  obtain ⟨e, hfound⟩ := NameTable.exists_of_mem_names hkey
  exact bindsVariable_of_find? (h.definitions key hkey) hfound

theorem Keyed.bindsFunction (h : env.Keyed) {key : String} (hkey : key ∈ env.functions.names) :
    env.BindsFunction key := by
  obtain ⟨f, hfound⟩ := NameTable.exists_of_mem_names hkey
  exact bindsFunction_of_find? (h.functions key hkey) hfound

/-! ## Names on the way to a circular definition -/

/-- A function reports the path on its own. -/
def MadeUp (env : Environment σ) (path : List String) : Prop :=
  ∃ name f xs s, env.function? name = some f ∧
    ((f env.context xs).run s).1 = .error (.circularDefinition path)

/-- The names on the way to a circular definition are bound to the definitions that the way leads
through, unless a function makes up the path. -/
theorem Circular.binds {path resolving : List String} {e : Expr}
    (h : env.Circular path resolving e) (hresolving : ∀ key ∈ resolving, env.BindsVariable key) :
    env.MadeUp path ∨ ∀ key ∈ path, env.BindsVariable key := by
  induction h with
  | @repeated resolving name hmem hpath =>
    refine .inr fun key hkey => hresolving key ?_
    rw [hpath, List.mem_append, List.mem_singleton] at hkey
    rcases hkey with hkey | rfl
    · exact hkey
    · exact hmem
  | @definition resolving name definition _ hbound _ ih =>
    apply ih
    intro key hkey
    rcases List.mem_append.1 hkey with hkey | hkey
    · exact hresolving key hkey
    · obtain rfl := List.mem_singleton.1 hkey
      exact bindsVariable_of_find? (nameKey_nameKey name) hbound
  | grouping _ ih => exact ih hresolving
  | negation _ ih => exact ih hresolving
  | argument _ _ _ ih => exact ih hresolving
  | @function _ name _ f xs s hsome _ hown =>
    exact .inl ⟨name, f, xs, s, hsome, hown⟩
  | left _ ih => exact ih hresolving
  | right _ _ _ ih => exact ih hresolving

/-! ## Keys that are stored or shown -/

/-- The key of a name is its own key and a name of the same variable and the same function. After
any writes, each key that is stored is a name of what is stored under it, and these are the names in
the listing. So are the names in the path of a circular definition, unless a function made it up. -/
theorem keys_resolve (name : String) (writes : List (Write σ)) :
    let env : Environment σ := writes.foldl write empty
    nameKey (nameKey name) = nameKey name ∧
      env.definition? (nameKey name) = env.definition? name ∧
      env.function? (nameKey name) = env.function? name ∧
      (∀ key ∈ env.definitions.names, env.BindsVariable key) ∧
      (∀ key ∈ env.functions.names, env.BindsFunction key) ∧
      env.label =
        s!"Evaluator \x7b variables: {labelNames env.definitions.names}, functions: " ++
          s!"{labelNames env.functions.names}, decimal_mode: {labelContext env.context} \x7d" ∧
      ∀ e s path, ((env.eval e).run s).1 = .error (.circularDefinition path) →
        env.MadeUp path ∨ ∀ key ∈ path, env.BindsVariable key := by
  intro env
  have hkeyed : env.Keyed := keyed_empty.foldl_write writes
  refine ⟨nameKey_nameKey name, env.definition?_nameKey name, env.function?_nameKey name,
    fun key => hkeyed.bindsVariable, fun key => hkeyed.bindsFunction, rfl, ?_⟩
  intro e s path hpath
  have hcircular := circular_of_run evalBudget e [] s _ path (Prod.ext hpath rfl)
  exact hcircular.binds (List.forall_mem_nil _)

/-- A capital `I` that keeps its dot, and a capital sigma that ends the word behind it. -/
theorem keys_resolve_sigma :
    let f : Function Unit := fun _ _ => pure .one
    let writes : List (Write Unit) := [.define "İΣ" (.reference "B"), .addFunction "MAX" f,
      .define "b" (.negation (.reference "İΣ"))]
    let env : Environment Unit := writes.foldl write empty
    let key := "i\u0307ς"
    nameKey "İΣ" = key ∧ nameKey key = key ∧ env.definition? key = env.definition? "İΣ" ∧
      env.definitions.names = ["b", key] ∧ (∀ k ∈ ["b", key], env.BindsVariable k) ∧
      env.functions.names = ["max"] ∧ env.BindsFunction "max" ∧
      ((env.eval (.reference "İΣ")).run ()).1 = .error (.circularDefinition [key, "b", key]) ∧
      ∀ k ∈ [key, "b", key], env.BindsVariable k := by
  intro f writes env key
  have hkey : nameKey "İΣ" = key := by decide +kernel
  have hdefinitions : env.definitions.names = ["b", key] := by decide +kernel
  have hfunctions : env.functions.names = ["max"] := by decide +kernel
  have hpath : ((env.eval (.reference "İΣ")).run ()).1 =
      .error (.circularDefinition [key, "b", key]) := by decide +kernel
  obtain ⟨hidempotent, hdefinition, -, hvariables, hnamed, -, hcircular⟩ :=
    keys_resolve "İΣ" writes
  rw [hkey] at hidempotent hdefinition
  refine ⟨hkey, hidempotent, hdefinition, hdefinitions, hdefinitions ▸ hvariables, hfunctions,
    hnamed "max" ?_, hpath, ?_⟩
  · rw [hfunctions]
    exact List.mem_singleton_self "max"
  · refine (hcircular _ _ _ hpath).resolve_left ?_
    rintro ⟨name, g, xs, s, hg, hrun⟩
    obtain rfl : f = g := by
      have hadded : ((empty.define "İΣ" (.reference "B")).addFunction "MAX" f).function? name =
          some g := hg
      rw [function?_addFunction] at hadded
      split at hadded
      · exact Option.some.inj hadded
      · cases hadded
    cases hrun

end Environment

end Reckon

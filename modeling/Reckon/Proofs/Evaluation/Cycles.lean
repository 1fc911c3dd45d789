import Mathlib.Data.List.Chain
import Reckon.Proofs.Evaluation.Circular
import Reckon.Proofs.Evaluation.References

/-!
# A reported cycle is a real one

The evaluator reports the names whose definitions it was evaluating, each within the one before
it, and the name that it met again. They are a path through the definitions that begins in the
tree and that ends at one of its own names.

* `Environment.Closes`, `Environment.LeadsBack`: from a tree, with `resolving` being evaluated,
  more names are followed and the next one is among all of these.
* `Circular.leadsBack`: so they are, wherever an evaluation leads to a circular definition.
* `trans_of_closed`: a path that ends at one of its own names makes that name refer to itself.
* `eval_cycle`: what is reported of a tree, and that nothing is where no name refers to itself.
-/

namespace Reckon.Environment

variable {σ : Type} {env : Environment σ}

/-! ## Paths through definitions -/

/-- The names `keys` and then `last` are a path that begins in the tree and goes from each
definition to a name that it mentions. It goes on from `resolving`, where nothing is repeated
before `last` is. -/
structure Closes (env : Environment σ) (resolving : List String) (e : Expr) (keys : List String)
    (last : String) : Prop where
  begins : ∀ key ∈ (keys ++ [last]).head?, e.Mentions key
  refers : (keys ++ [last]).IsChain env.Refers
  nodup : (resolving ++ keys).Nodup
  closes : last ∈ resolving ++ keys

/-- A path from a definition is one from its variable, with one name more. -/
theorem Closes.definition {resolving keys : List String} {name last : String} {definition : Expr}
    (h : env.Closes (resolving ++ [nameKey name]) definition keys last)
    (hbound : env.definition? name = some definition) :
    env.Closes resolving (.reference name) (nameKey name :: keys) last := by
  have happend : resolving ++ nameKey name :: keys = resolving ++ [nameKey name] ++ keys := by simp
  have hrefers : (nameKey name :: (keys ++ [last])).IsChain env.Refers :=
    List.isChain_cons.2
      ⟨fun key hkey => ⟨definition, hbound, h.begins key hkey⟩, h.refers⟩
  refine ⟨?_, hrefers, happend ▸ h.nodup, happend ▸ h.closes⟩
  intro key hkey
  exact .reference (Option.some.inj hkey)

/-- There is such a path from the tree, and `path` is what is reported of it. -/
def LeadsBack (env : Environment σ) (path resolving : List String) (e : Expr) : Prop :=
  ∃ keys last, path = resolving ++ (keys ++ [last]) ∧ env.Closes resolving e keys last

theorem LeadsBack.mono {path resolving : List String} {e e' : Expr}
    (h : env.LeadsBack path resolving e) (hmentions : ∀ key, e.Mentions key → e'.Mentions key) :
    env.LeadsBack path resolving e' := by
  obtain ⟨keys, last, hpath, hbegins, hrefers, hnodup, hlast⟩ := h
  have hbegins' : ∀ key ∈ (keys ++ [last]).head?, e'.Mentions key :=
    fun key hkey => hmentions key (hbegins key hkey)
  exact ⟨keys, last, hpath, hbegins', hrefers, hnodup, hlast⟩

/-- An evaluation that leads to a circular definition leads back. The induction is on the way: only
a variable makes the path longer. -/
theorem Circular.leadsBack
    (hfunctions : ∀ name f, env.function? name = some f →
      ∀ path, f.Avoids (.circularDefinition path))
    {path resolving : List String} {e : Expr} (h : env.Circular path resolving e)
    (hnodup : resolving.Nodup) : env.LeadsBack path resolving e := by
  induction h with
  | @repeated resolving name hmem hpath =>
    refine ⟨[], nameKey name, hpath, ?_, .singleton _, by simpa using hnodup, by simpa using hmem⟩
    intro key hkey
    exact .reference (Option.some.inj hkey)
  | @definition resolving name definition hfresh hbound _ ih =>
    have hnodup' : (resolving ++ [nameKey name]).Nodup :=
      List.nodup_append.2 ⟨hnodup, List.nodup_singleton _, by
        rintro key hkey _ hname rfl
        exact hfresh (List.mem_singleton.1 hname ▸ hkey)⟩
    obtain ⟨keys, last, rfl, hcloses⟩ := ih hnodup'
    exact ⟨nameKey name :: keys, last, by simp, hcloses.definition hbound⟩
  | grouping _ ih => exact (ih hnodup).mono fun _ => .grouping
  | negation _ ih => exact (ih hnodup).mono fun _ => .negation
  | argument _ _ _ ih => exact (ih hnodup).mono fun _ => .argument (by simp)
  | function hsome _ hown => exact absurd hown (hfunctions _ _ hsome _ _ _ _)
  | left _ ih => exact (ih hnodup).mono fun _ => .left
  | right _ _ _ ih => exact (ih hnodup).mono fun _ => .right

/-! ## Cycles -/

/-- A path of references that ends at one of its own names makes that name refer to itself. -/
theorem trans_of_closed {keys : List String} {last : String}
    (h : (keys ++ [last]).IsChain env.Refers) (hlast : last ∈ keys) :
    Relation.TransGen env.Refers last last := by
  have hchain : (keys ++ [last]).IsChain (Relation.TransGen env.Refers) :=
    h.imp fun _ _ => .single
  have hpairs := List.isChain_iff_pairwise.1 hchain
  exact (List.pairwise_append.1 hpairs).2.2 last hlast last List.mem_cons_self

/-- What is reported of a tree is a path of different names that begins in the tree, that goes from
each definition to a name in it, and that comes back to one of its names. So nothing is reported
where no name refers to itself. -/
theorem eval_cycle (env : Environment σ)
    (hfunctions : ∀ name f, env.function? name = some f →
      ∀ path, f.Avoids (.circularDefinition path)) (e : Expr) :
    (∀ s path, ((env.eval e).run s).1 = .error (.circularDefinition path) →
      ∃ first more last, path = first :: (more ++ [last]) ∧ e.Mentions first ∧
        path.IsChain env.Refers ∧ (first :: more).Nodup ∧ last ∈ first :: more) ∧
      (env.Acyclic → ∀ s path, ((env.eval e).run s).1 ≠ .error (.circularDefinition path)) := by
  have hreported : ∀ s path, ((env.eval e).run s).1 = .error (.circularDefinition path) →
      env.LeadsBack path [] e := by
    intro s path hpath
    have hcircular := circular_of_run evalBudget e [] s _ path (Prod.ext hpath rfl)
    exact hcircular.leadsBack hfunctions List.nodup_nil
  constructor
  · intro s path hpath
    obtain ⟨keys, last, rfl, hbegins, hrefers, hnodup, hlast⟩ := hreported s path hpath
    rw [List.nil_append] at hnodup hlast
    cases keys with
    | nil => cases hlast
    | cons first more =>
      exact ⟨first, more, last, rfl, hbegins first rfl, hrefers, hnodup, hlast⟩
  · intro hacyclic s path hpath
    obtain ⟨keys, last, -, hcloses⟩ := hreported s path hpath
    exact hacyclic last (trans_of_closed hcloses.refers hcloses.closes)

/-- A variable whose definition leads into a cycle of two others, through a call and a chain. -/
def roundOutside : Environment Unit :=
  ((Session.new.env.define "A" (.call "sum" [.literal .one, .reference "b"])).define "b"
    (.binary (.arithmetic .mul) (.literal .one) (.grouping (.reference "C")))).define "c"
    (.negation (.reference "B"))

theorem eval_roundOutside :
    ((roundOutside.eval (.negation (.reference "a"))).run ()).1 =
        .error (.circularDefinition ["a", "b", "c", "b"]) ∧
      ["a", "b", "c", "b"].IsChain roundOutside.Refers ∧ ¬ roundOutside.Acyclic := by
  have hfunctions : ∀ name f, roundOutside.function? name = some f →
      ∀ path, f.Avoids (.circularDefinition path) := by
    intro name f h path
    rw [roundOutside, function?_define, function?_define, function?_define] at h
    exact (Session.unguarded_function h).avoids rfl
  have hrun : ((roundOutside.eval (.negation (.reference "a"))).run ()).1 =
      .error (.circularDefinition ["a", "b", "c", "b"]) := by decide +kernel
  have h := eval_cycle roundOutside hfunctions (.negation (.reference "a"))
  obtain ⟨-, -, -, -, -, hchain, -⟩ := h.1 () _ hrun
  exact ⟨hrun, hchain, fun hacyclic => h.2 hacyclic () _ hrun⟩

end Reckon.Environment

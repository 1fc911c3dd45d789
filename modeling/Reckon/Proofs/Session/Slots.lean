import Reckon.Session

/-!
# What a session holds

* `Slot`, `Slot.Value`: the places that writes change: the definition and the function under each
  key, the precision, the rounding direction.
* `Session.read`: what stands in a slot. `Session.ext_read`: a session is what stands in its slots.
* `Slot.initial`, `Session.read_new`: a new session holds the standard constants and functions,
  sixteen digits, and ties to even.
-/

namespace Reckon

/-- A place that a write changes. -/
inductive Slot where
  | definition (key : String)
  | function (key : String)
  | precision
  | rounding
deriving DecidableEq

namespace Slot

variable {σ : Type}

/-- What may stand in a slot. -/
abbrev Value (σ : Type) : Slot → Type
  | definition _ => Expr
  | function _ => Function σ
  | precision => Nat
  | rounding => Rounding

/-- What stands in the slot of a new session. -/
def initial : (slot : Slot) → Option (slot.Value σ)
  | definition key =>
    (Standard.constants.find? fun c => nameKey c.1 = key).map fun c => Expr.literal c.2
  | function key => (Standard.functions.find? fun b => nameKey b.name = key).map (·.function)
  | precision => some 16
  | rounding => some .halfEven

end Slot

/-! ## Definitions one after the other -/

namespace Environment

variable {σ : Type}

theorem foldl_define (cs : List (String × Decimal)) (env : Environment σ) :
    cs.foldl (fun env c => env.define c.1 (.literal c.2)) env =
      { env with
        definitions :=
          cs.foldl (fun t c => t.insert (nameKey c.1) (.literal c.2)) env.definitions } := by
  induction cs generalizing env with
  | nil => rfl
  | cons c cs ih => exact ih _

theorem foldl_addFunction (bs : List Primitive) (env : Environment σ) :
    bs.foldl (fun env b => env.addFunction b.name b.function) env =
      { env with
        functions := bs.foldl (fun t b => t.insert (nameKey b.name) b.function) env.functions } := by
  induction bs generalizing env with
  | nil => rfl
  | cons b bs ih => exact ih _

end Environment

namespace Session

variable {σ : Type}

/-! ## What a session is -/

/-- What stands in a slot. -/
def read (s : Session σ) : (slot : Slot) → Option (slot.Value σ)
  | .definition key => s.env.definitions.find? key
  | .function key => s.env.functions.find? key
  | .precision => some s.context.precision
  | .rounding => some s.context.rounding

theorem read_define (s : Session σ) (name : String) (e : Expr) (key : String) :
    (Session.mk (s.env.define name e)).read (.definition key) =
      if key = nameKey name then some e else s.read (.definition key) :=
  s.env.definitions.find?_insert (nameKey name) key e

theorem read_addFunction (s : Session σ) (name : String) (f : Function σ) (key : String) :
    (Session.mk (s.env.addFunction name f)).read (.function key) =
      if key = nameKey name then some f else s.read (.function key) :=
  s.env.functions.find?_insert (nameKey name) key f

/-- A session is what stands in its slots. -/
theorem ext_read {s s' : Session σ} (h : ∀ slot, s.read slot = s'.read slot) : s = s' := by
  obtain ⟨definitions, functions, precision, rounding, _, _⟩ := s
  obtain ⟨definitions', functions', precision', rounding', _, _⟩ := s'
  obtain rfl : definitions = definitions' := NameTable.ext_find? fun key => h (.definition key)
  obtain rfl : functions = functions' := NameTable.ext_find? fun key => h (.function key)
  obtain rfl : precision = precision' := Option.some.inj (h .precision)
  obtain rfl : rounding = rounding' := Option.some.inj (h .rounding)
  rfl

theorem find?_definitions_new (key : String) : (new : Session σ).env.definitions.find? key =
    (Standard.constants.find? fun c => nameKey c.1 = key).map fun c => .literal c.2 := by
  have hnames : (Standard.constants.map fun c => nameKey c.1).Nodup := by decide +kernel
  have hfound := NameTable.find?_foldl_insert (fun c : String × Decimal => nameKey c.1)
    (fun c => Expr.literal c.2) hnames .empty key
  rw [new, Environment.foldl_define, Environment.foldl_addFunction]
  exact hfound.trans Option.or_none

theorem find?_functions_new (key : String) : (new : Session σ).env.functions.find? key =
    (Standard.functions.find? fun b => nameKey b.name = key).map (·.function) := by
  have hnames : (Standard.functions.map fun b => nameKey b.name).Nodup := by decide +kernel
  have hfound := NameTable.find?_foldl_insert (fun b : Primitive => nameKey b.name)
    (fun b => (b.function : Function σ)) hnames .empty key
  rw [new, Environment.foldl_define, Environment.foldl_addFunction]
  exact hfound.trans Option.or_none

/-- A new session holds what is standard. -/
theorem read_new (slot : Slot) : (new : Session σ).read slot = slot.initial := by
  cases slot with
  | definition key => exact find?_definitions_new key
  | function key => exact find?_functions_new key
  | precision =>
    rw [read, context, new, Environment.foldl_define, Environment.foldl_addFunction]
    rfl
  | rounding =>
    rw [read, context, new, Environment.foldl_define, Environment.foldl_addFunction]
    rfl

end Session

end Reckon

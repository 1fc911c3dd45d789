import Reckon.Expr
import Reckon.Proofs.Decimal.Equality

/-!
# Trees that differ in the forms of their numbers

* `Expr.Rel`: two trees of one shape with the same names, and literals in a relation.
* `Expr.Alike`: the literals are forms of the same numbers.
* `same_iff_alike`: trees are taken for equal exactly when they are alike, as long as no carry is
  lost in the comparison of their literals.
-/

namespace Reckon.Expr

/-- The trees differ in their literals at most, and these are in the relation. -/
inductive Rel (R : Decimal → Decimal → Prop) : Expr → Expr → Prop where
  | literal {x y} (number : R x y) : Rel R (.literal x) (.literal y)
  | reference name : Rel R (.reference name) (.reference name)
  | negation {d e} (operand : Rel R d e) : Rel R (.negation d) (.negation e)
  | binary {op l l' r r'} (left : Rel R l l') (right : Rel R r r') :
      Rel R (.binary op l r) (.binary op l' r')
  | grouping {d e} (inner : Rel R d e) : Rel R (.grouping d) (.grouping e)
  | call {name ds es} (args : List.Forall₂ (Rel R) ds es) : Rel R (.call name ds) (.call name es)

/-- The trees differ in the forms of their numbers at most. -/
def Alike (d e : Expr) : Prop := Rel (fun x y => x.toRat = y.toRat) d e

theorem Alike.refl (e : Expr) : e.Alike e := by
  induction e with
  | literal x => exact .literal rfl
  | reference name => exact .reference name
  | negation operand ih => exact .negation ih
  | binary op left right ihLeft ihRight => exact .binary ihLeft ihRight
  | grouping inner ih => exact .grouping ih
  | call name args ih => exact .call (List.forall₂_same.2 ih)

theorem rel_call_iff {R : Decimal → Decimal → Prop} {name : String} {ds es : List Expr} :
    Rel R (.call name ds) (.call name es) ↔ List.Forall₂ (Rel R) ds es := by
  constructor
  · intro h
    cases h with
    | call hargs => exact hargs
  · exact .call

/-- Trees are taken for equal exactly when they are alike, unless a carry is lost. -/
theorem same_iff_alike {d e : Expr} (h : Rel Decimal.Bridges d e) :
    same d e = true ↔ Alike d e := by
  induction d generalizing e with
  | literal x =>
    cases h with
    | literal hbridges =>
      rw [same, Decimal.same_iff hbridges]
      constructor
      · intro hnumber
        exact .literal hnumber
      · rintro ⟨hnumber⟩
        exact hnumber
  | reference name =>
    cases h
    simp only [same, beq_self_eq_true, true_iff]
    exact .reference name
  | negation d ih =>
    cases h with
    | negation hoperand =>
      rw [same, ih hoperand]
      constructor
      · exact .negation
      · rintro ⟨⟩
        assumption
  | grouping d ih =>
    cases h with
    | grouping hinner =>
      rw [same, ih hinner]
      constructor
      · exact .grouping
      · rintro ⟨⟩
        assumption
  | binary op l r ihLeft ihRight =>
    cases h with
    | binary hleft hright =>
      rw [same, beq_self_eq_true, Bool.true_and, Bool.and_eq_true, ihLeft hleft, ihRight hright]
      constructor
      · rintro ⟨hl, hr⟩
        exact .binary hl hr
      · rintro ⟨⟩
        constructor <;> assumption
  | call name ds ih =>
    cases h with
    | call hargs =>
      rw [same, beq_self_eq_true, Bool.true_and, Alike, rel_call_iff]
      clear * - ih hargs
      induction hargs with
      | nil => simp [sameAll]
      | cons hd _ ihs =>
        rw [sameAll, Bool.and_eq_true, ih _ List.mem_cons_self hd,
          ihs fun d hmem => ih d (List.mem_cons_of_mem _ hmem), List.forall₂_cons]
        rfl

end Reckon.Expr

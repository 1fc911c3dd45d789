import Reckon.Proofs.Grammar.Positions
import Reckon.Proofs.Scanning.Spacing
import Reckon.Session

/-!
# Spacing does not matter

* `Error.unplaced`: an error without the position in it.
* `eval_spaced`: the tokens of a text may be written with any blanks around them and any, but some,
  between them: every session answers the same, but for the positions in its errors.
-/

namespace Reckon

/-- The error without the position in it. -/
def Error.unplaced : Error → Error
  | scan e => .scan { e with position := 0 }
  | parse e => .parse e.unplaced
  | eval e => .eval e
  | precision got => .precision got

/-- Tokens of the same kinds with the same lexemes differ in their positions only. -/
theorem map_unplaced_eq {ts ts' : List Token}
    (hkinds : ts.map Token.kind = ts'.map Token.kind)
    (hlexemes : ts.map Token.lexeme = ts'.map Token.lexeme) :
    ts.map Token.unplaced = ts'.map Token.unplaced := by
  have hzip (ts : List Token) : ts.map Token.unplaced =
      List.zipWith (Token.mk · · 0) (ts.map Token.kind) (ts.map Token.lexeme) := by
    rw [List.zipWith_map, List.zipWith_self]
    rfl
  rw [hzip ts, hzip ts', hkinds, hlexemes]

theorem parseText_congr {text text' : String} {ts ts' : List Token} (h : scan text = .ok ts)
    (h' : scan text' = .ok ts') (hts : ts.map Token.unplaced = ts'.map Token.unplaced) :
    (parseText text).mapError Error.unplaced = (parseText text').mapError Error.unplaced := by
  have hparse := parse_congr hts
  simp only [parseText, h, h']
  cases hp : parse ts <;> cases hp' : parse ts' <;>
    simp_all [mapError_error, mapError_ok, Error.unplaced]

theorem Session.eval_congr {σ : Type} (s : Session σ) {text text' : String}
    (h : (parseText text).mapError Error.unplaced = (parseText text').mapError Error.unplaced)
    (state : σ) :
    ((s.eval text state).1.mapError Error.unplaced, (s.eval text state).2) =
      ((s.eval text' state).1.mapError Error.unplaced, (s.eval text' state).2) := by
  cases hp : parseText text <;> cases hp' : parseText text' <;>
    simp_all [Session.eval, mapError_error, mapError_ok]

/-- The tokens of a text may be written with any spacing: they are scanned again, with their kinds
and lexemes, and make up the same expression or the same error up to its position. Every session
gives the text the same value or error and leaves the same state. -/
theorem eval_spaced {text : String} {ts : List Token} {last : Token}
    (h : scan text = .ok (ts ++ [last])) (w : Spacing ts.length) :
    let text' := w.text (ts.map Token.lexeme)
    (∃ ts', scan text' = .ok (ts' ++ [.stopAt text'.length]) ∧
      ts'.map Token.kind = ts.map Token.kind ∧ ts'.map Token.lexeme = ts.map Token.lexeme) ∧
    (parseText text').mapError Error.unplaced = (parseText text).mapError Error.unplaced ∧
    ∀ {σ : Type} (s : Session σ) (state : σ),
      (s.eval text' state).1.mapError Error.unplaced =
        (s.eval text state).1.mapError Error.unplaced ∧
      (s.eval text' state).2 = (s.eval text state).2 := by
  intro text'
  obtain ⟨ts', hscan, hkinds, hlexemes⟩ := scan_spaced h w
  obtain ⟨ts₀, hall, -, -⟩ := covering_of_scan h
  obtain ⟨rfl, hlast⟩ := List.append_inj' hall rfl
  have hunplaced : (ts' ++ [Token.stopAt text'.length]).map Token.unplaced =
      (ts ++ [last]).map Token.unplaced := by
    rw [List.map_append, List.map_append, map_unplaced_eq hkinds hlexemes,
      List.singleton_inj.1 hlast]
    rfl
  have hparse := parseText_congr hscan h hunplaced
  refine ⟨⟨ts', hscan, hkinds, hlexemes⟩, hparse, fun s state => ?_⟩
  exact Prod.mk.inj (s.eval_congr hparse state)

/-- A grouping that is not closed is missed at another position. -/
theorem eval_spaced_open_grouping :
    let ts : List Token := [⟨.symbol .leftParen, "(", 0⟩, ⟨.number ⟨2, 0⟩, "2", 1⟩,
      ⟨.symbol .lessEqual, "<=", 2⟩, ⟨.name "π", "π", 4⟩]
    let w : Spacing ts.length := ⟨"\t", [" ", "\r\n", "\u00a0", ""], rfl, by decide, by decide,
      by decide⟩
    let text' := w.text (ts.map Token.lexeme)
    scan "(2<=π" = .ok (ts ++ [.stopAt 5]) ∧ text' = "\t( 2\r\n<=\u00a0π" ∧
      (∃ ts', scan text' = .ok (ts' ++ [.stopAt text'.length]) ∧
        ts'.map Token.kind = ts.map Token.kind ∧ ts'.map Token.lexeme = ts.map Token.lexeme) ∧
      (parseText text').mapError Error.unplaced = (parseText "(2<=π").mapError Error.unplaced ∧
      ∀ {σ : Type} (s : Session σ) (state : σ),
        (s.eval text' state).1.mapError Error.unplaced =
          (s.eval "(2<=π" state).1.mapError Error.unplaced ∧
        (s.eval text' state).2 = (s.eval "(2<=π" state).2 := by
  intro ts w text'
  have hreads : (Scanner.ofText "(2<=π").Reads (ts ++ [.stopAt 5]) :=
    .token rfl rfl <| .token rfl rfl <| .token rfl rfl <| .token rfl rfl <| .stop rfl
  have hscan := hreads.tokens_eq_ok
  exact ⟨hscan, by decide, eval_spaced hscan w⟩

end Reckon

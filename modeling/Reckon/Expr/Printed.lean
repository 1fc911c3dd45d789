import Reckon.Expr
import Reckon.Decimal.Plain

/-!
# Printed expressions

* `Expr.putChars`: the printed tree in front of a text, each operation in parentheses and each
  number in plain notation.
* `Expr.printed`: the printed tree.
-/

namespace Reckon.Expr

mutual

/-- Prints the tree in front of `rest`. -/
def putChars : Expr → List Char → List Char
  | literal x, rest => x.plainChars ++ rest
  | reference name, rest => name.toList ++ rest
  | negation e, rest => '(' :: '-' :: putChars e (')' :: rest)
  | binary op left right, rest =>
    '(' :: putChars left
      (' ' :: (op.symbol.chars ++ ' ' :: putChars right (')' :: rest)))
  | grouping e, rest => '(' :: putChars e (')' :: rest)
  | call name args, rest => name.toList ++ '(' :: putArgs args (')' :: rest)

/-- Prints the arguments of a call, with commas between them. -/
def putArgs : List Expr → List Char → List Char
  | [], rest => rest
  | [e], rest => putChars e rest
  | e :: f :: es, rest => putChars e (',' :: ' ' :: putArgs (f :: es) rest)

end

def printed (e : Expr) : String := String.ofList (e.putChars [])

end Reckon.Expr

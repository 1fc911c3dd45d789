import Reckon.Decimal

/-!
# Tokens

* `Symbol`: operators and delimiters; `Symbol.text`: how one is written.
* `TokenKind`, `Token`: a token is a number, a name, a symbol or the end of the text, with the
  characters it was cut from and the position of the first of them.
-/

namespace Reckon

/-- Operators and delimiters. -/
inductive Symbol where
  | plus
  | minus
  | star
  | slash
  | percent
  | caret
  | equal
  | notEqual
  | less
  | greater
  | lessEqual
  | greaterEqual
  | and
  | or
  | leftParen
  | rightParen
  | comma
deriving DecidableEq

namespace Symbol

def all : List Symbol :=
  [plus, minus, star, slash, percent, caret, equal, notEqual, less, greater, lessEqual,
    greaterEqual, and, or, leftParen, rightParen, comma]

def chars : Symbol → List Char
  | plus => ['+']
  | minus => ['-']
  | star => ['*']
  | slash => ['/']
  | percent => ['%']
  | caret => ['^']
  | equal => ['=', '=']
  | notEqual => ['!', '=']
  | less => ['<']
  | greater => ['>']
  | lessEqual => ['<', '=']
  | greaterEqual => ['>', '=']
  | and => ['&', '&']
  | or => ['|', '|']
  | leftParen => ['(']
  | rightParen => [')']
  | comma => [',']

def text (s : Symbol) : String := String.ofList s.chars

end Symbol

/-- What a token is. -/
inductive TokenKind where
  | number (value : Decimal)
  | name (text : String)
  | symbol (symbol : Symbol)
  /-- The end of the text. -/
  | stop
deriving DecidableEq

/-- A token with the characters it was cut from. Positions count characters from zero. -/
structure Token where
  kind : TokenKind
  lexeme : String
  position : Nat
deriving DecidableEq

namespace Token

def isStop (t : Token) : Bool := t.kind == .stop

/-- The end of a text of `position` characters. -/
def stopAt (position : Nat) : Token := ⟨.stop, "", position⟩

end Token

end Reckon

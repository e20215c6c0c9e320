import Scriptorium.Text.Numeral
import Scriptorium.Text.Quoted
import Scriptorium.Text.Search
set_option autoImplicit false

/-!
# Identifiers

Identifiers of 128 bits, written as 32 hexadecimal digits in groups of 8, 4, 4, 4 and 12.  New
identifiers are taken from a supply, one after the other.
-/

namespace Scriptorium

/-- An identifier. -/
structure Ident where
  bits : Nat
  deriving DecidableEq, Repr, Inhabited

namespace Ident

/-- The digits of an identifier without dashes. -/
def digits (i : Ident) : List Char := Text.hexDigits 32 i.bits

/-- The text of an identifier. -/
def text (i : Ident) : String :=
  let ds := i.digits
  String.ofList (ds.take 8 ++ ['-'] ++ (ds.drop 8).take 4 ++ ['-'] ++ (ds.drop 12).take 4 ++
    ['-'] ++ (ds.drop 16).take 4 ++ ['-'] ++ ds.drop 20)

/-- The identifier without any bit. -/
def nil : Ident := ⟨0⟩

/-- The `n`-th identifier of the supply. -/
def ofSupply (n : Nat) : Ident :=
  ⟨(n % Nat.pow 2 32) * Nat.pow 2 96 + 0x4000 * Nat.pow 2 64 + 0x8000 * Nat.pow 2 48 +
    n % Nat.pow 2 48⟩

end Ident

end Scriptorium

/-! ## Reading identifiers

An identifier is read from 32 hexadecimal digits; dashes, braces at the ends and the marks
`urn:` and `uuid:` are dropped first.
-/

namespace Scriptorium.Ident

/-- Why a text is no identifier. -/
inductive Flaw where
  | length
  | digits (text : String)
  deriving DecidableEq, Repr

/-- The wording of a flaw. -/
def Flaw.message [Halves] : Flaw → String
  | length => "badly formed hexadecimal UUID string"
  | digits text => Text.noNumeral 16 text

/-- Whether the character is a brace. -/
def isBrace (c : Char) : Bool := c == '{' || c == '}'

/-- The digits of a written identifier. -/
def bare (s : String) : String :=
  let cs := Text.replace "uuid:".toList [] (Text.replace "urn:".toList [] s.toList)
  let cs := ((cs.dropWhile isBrace).reverse.dropWhile isBrace).reverse
  String.ofList (cs.filter (· != '-'))

/-- The identifier that a text stands for. -/
def read (s : String) : Except Flaw Ident :=
  let digits := bare s
  if digits.length != 32 then .error .length
  else match Text.hexWhole? digits with
    | some n => .ok ⟨n.toNat⟩
    | none => .error (.digits digits)

end Scriptorium.Ident

import Scriptorium.Text.CaseTable
set_option autoImplicit false

/-!
# Lower and upper case of texts

Case is mapped character by character, with one exception: a capital sigma becomes the final
small sigma when a cased character stands before it, and none after it, with only characters
that case ignores in between.
-/

namespace Scriptorium.Text

/-- Whether the character has case. -/
def isCased (c : Char) : Bool := CodeSet.contains casedBounds c.toNat

/-- Whether the character is skipped when looking for case. -/
def isCaseIgnorable (c : Char) : Bool := CodeSet.contains caseIgnorableBounds c.toNat

/-- Whether the first character that case does not ignore has case. -/
def casedNext (cs : List Char) : Bool :=
  match cs.dropWhile isCaseIgnorable with
  | c :: _ => isCased c
  | [] => false

/-- The capital sigma. -/
def capitalSigma : Char := Char.ofNat 0x3A3

/-- The lower form of a character on its own. -/
def lowerChar (c : Char) : List Char :=
  if c.toNat = 0x130 then ['i', Char.ofNat 0x307]
  else [Char.ofNat (CaseRun.apply lowerRuns c.toNat)]

/-- The lower form of a text; `before` holds what stands before it in reverse. -/
def lowerFrom (before : List Char) : List Char → List Char
  | [] => []
  | c :: rest =>
    (if c = capitalSigma then
      [if casedNext before && !casedNext rest then Char.ofNat 0x3C2 else Char.ofNat 0x3C3]
    else lowerChar c) ++ lowerFrom (c :: before) rest

/-- The lower form of a text. -/
def lowerChars (cs : List Char) : List Char := lowerFrom [] cs

/-- The lower form of a text. -/
def lower (s : String) : String := String.ofList (lowerChars s.toList)

/-- The upper form of a character. -/
def upperChar (c : Char) : List Char :=
  match longUpper.find? (·.1 == c.toNat) with
  | some (_, codes) => codes.map Char.ofNat
  | none => [Char.ofNat (CaseRun.apply upperRuns c.toNat)]

/-- The upper form of a text. -/
def upper (s : String) : String := String.ofList (s.toList.flatMap upperChar)

end Scriptorium.Text

set_option autoImplicit false

/-!
# Units of texts and halves of pairs

Characters beyond the basic plane are written as two 16-bit units.  A text that was read from
such units can hold one half without the other, which is no character of its own.  So that it keeps
its place in the text and can be written back as the unit it came from, a half is kept as a
character of the private planes.  Which of their blocks is given up for this is a parameter: a text
that has characters of one block keeps its halves in another one, and in a plain text, which has no
halves, every character stands for itself.  Texts are ordered by their code points, among which a
half has the place of its unit.  Another character of the block marks names that are no texts.

A statement about every way of keeping halves is one about all texts: of plain texts it is read
with no block given up, and of a text with halves with a block that the text does not use.

Texts are also read from bytes that are joined to units of 16 or 32 bits, in one of two orders.
Halves that stand alone are kept.  What is left over when no whole unit is left, or a unit beyond
the last character, is no text.
-/

namespace Scriptorium

/-- The way in which texts keep halves. -/
class Halves where
  /-- The block of the private planes whose characters keep the halves; in plain texts no half is
  kept. -/
  block : Option (Fin 32)

namespace Halves.Plain

/-- Every character stands for itself. -/
scoped instance plain : Halves := ⟨none⟩

end Halves.Plain

namespace Halves.Kept

/-- The characters of the first block keep the halves. -/
scoped instance kept : Halves := ⟨some 0⟩

end Halves.Kept

end Scriptorium

namespace Scriptorium.Text.Half

/-- The least unit that is a half. -/
def first : Nat := 0xD800

/-- The first character of the private planes. -/
def privatePlanes : Nat := 0xF0000

/-- Whether a unit is the first half of a pair. -/
def isLeading (unit : Nat) : Bool := 0xD800 ≤ unit && unit ≤ 0xDBFF

/-- Whether a unit is the second half of a pair. -/
def isTrailing (unit : Nat) : Bool := 0xDC00 ≤ unit && unit ≤ 0xDFFF

/-- The first character of a block. -/
def start (b : Fin 32) : Nat := privatePlanes + b * 0x1000

/-- The character that keeps a half; where none is kept, the sign for what could not be read. -/
def toChar [Halves] (unit : Nat) : Char :=
  match Halves.block with
  | some b => Char.ofNat (start b + (unit - first))
  | none => '\uFFFD'

/-- The half that a character keeps.  No character before the private planes keeps one. -/
def unit? [Halves] (c : Char) : Option Nat :=
  if c.toNat < privatePlanes then none
  else do
    let b ← Halves.block
    if start b ≤ c.toNat ∧ c.toNat < start b + 0x800 then some (c.toNat - start b + first) else none

/-- Whether a character keeps a half. -/
def isHalf [Halves] (c : Char) : Bool := (unit? c).isSome

/-- The character of a code point, which may be a half. -/
def charOf [Halves] (code : Nat) : Char :=
  if isLeading code || isTrailing code then toChar code else Char.ofNat code

/-- The code point of a character; that of a half is its unit. -/
def code [Halves] (c : Char) : Nat := (unit? c).getD c.toNat

/-- The code point of two halves. -/
def join (leading trailing : Nat) : Nat :=
  0x10000 + (leading - 0xD800) * 0x400 + (trailing - 0xDC00)

/-- The 16-bit units of a character: two beyond the basic plane, unless it keeps a half. -/
def units [Halves] (c : Char) : List Nat :=
  match unit? c with
  | some unit => [unit]
  | none =>
    let n := c.toNat
    if n < 0x10000 then [n] else [0xD800 + (n - 0x10000) / 0x400, 0xDC00 + (n - 0x10000) % 0x400]

/-- The characters of a sequence of units: a first half and a second one that follows it are one
character. -/
def ofUnits [Halves] : List Nat → List Char
  | a :: b :: rest =>
    if isLeading a && isTrailing b then Char.ofNat (join a b) :: ofUnits rest
    else charOf a :: ofUnits (b :: rest)
  | [a] => [charOf a]
  | [] => []

end Scriptorium.Text.Half

namespace Scriptorium.Text

/-- The code points of a text. -/
def codes [Halves] (s : String) : List Nat := s.toList.map Half.code

/-- Whether a text comes before another one: the first different code point decides. -/
def precedes [Halves] (s t : String) : Bool := decide (codes s < codes t)

end Scriptorium.Text

namespace Scriptorium.Text.Wide

/-- The order of the bytes of a unit. -/
inductive Order where
  /-- The least significant byte comes first. -/
  | little
  /-- The most significant byte comes first. -/
  | big
  deriving DecidableEq, Repr

/-- The number of some bytes. -/
def unit (order : Order) (bytes : List UInt8) : Nat :=
  let ordered := match order with
    | .little => bytes.reverse
    | .big => bytes
  ordered.foldl (fun n b => n * 256 + b.toNat) 0

/-- The 16-bit units of bytes. -/
def units16? (order : Order) : List UInt8 → Option (List Nat)
  | a :: b :: rest => (unit order [a, b] :: ·) <$> units16? order rest
  | [] => some []
  | _ => none

/-- The 32-bit units of bytes. -/
def units32? (order : Order) : List UInt8 → Option (List Nat)
  | a :: b :: c :: d :: rest => (unit order [a, b, c, d] :: ·) <$> units32? order rest
  | [] => some []
  | _ => none

/-- The text of 16-bit units. -/
def decode16? [Halves] (order : Order) (bytes : List UInt8) : Option (List Char) :=
  Half.ofUnits <$> units16? order bytes

/-- The text of 32-bit units. -/
def decode32? [Halves] (order : Order) (bytes : List UInt8) : Option (List Char) := do
  (← units32? order bytes).mapM fun n => if n ≤ 0x10FFFF then some (Half.charOf n) else none

end Scriptorium.Text.Wide

set_option autoImplicit false

/-!
# Base64

Three bytes are written as four characters of an alphabet of 64.  Tokens use the alphabet
without `+` and `/` and leave the padding out.
-/

namespace Scriptorium.Text.Base64

/-- The character of a value below 64; `minus` and `slash` are the last two. -/
def symbol (minus slash : Char) (n : Nat) : Char :=
  if n < 26 then Char.ofNat (65 + n)
  else if n < 52 then Char.ofNat (71 + n)
  else if n < 62 then Char.ofNat (n - 4)
  else if n = 62 then minus else slash

/-- The value of a character of either alphabet. -/
def value? (c : Char) : Option Nat :=
  if 'A' ≤ c ∧ c ≤ 'Z' then some (c.toNat - 65)
  else if 'a' ≤ c ∧ c ≤ 'z' then some (c.toNat - 71)
  else if '0' ≤ c ∧ c ≤ '9' then some (c.toNat + 4)
  else if c = '-' ∨ c = '+' then some 62
  else if c = '_' ∨ c = '/' then some 63
  else none

/-- Bytes in the alphabet of tokens, without padding. -/
def encode : List UInt8 → List Char
  | a :: b :: c :: rest =>
    let n := (a.toNat * 256 + b.toNat) * 256 + c.toNat
    symbol '-' '_' (n / 262144) :: symbol '-' '_' (n / 4096 % 64) ::
      symbol '-' '_' (n / 64 % 64) :: symbol '-' '_' (n % 64) :: encode rest
  | [a, b] =>
    let n := (a.toNat * 256 + b.toNat) * 256
    [symbol '-' '_' (n / 262144), symbol '-' '_' (n / 4096 % 64), symbol '-' '_' (n / 64 % 64)]
  | [a] =>
    let n := a.toNat * 65536
    [symbol '-' '_' (n / 262144), symbol '-' '_' (n / 4096 % 64)]
  | [] => []

/-- The bytes of a list of values below 64; a last value alone holds no byte. -/
def bytesOf : List Nat → List UInt8
  | a :: b :: c :: d :: rest =>
    let n := ((a * 64 + b) * 64 + c) * 64 + d
    UInt8.ofNat (n / 65536) :: UInt8.ofNat (n / 256 % 256) :: UInt8.ofNat (n % 256) :: bytesOf rest
  | [a, b, c] =>
    let n := ((a * 64 + b) * 64 + c) * 64
    [UInt8.ofNat (n / 65536), UInt8.ofNat (n / 256 % 256)]
  | [a, b] => [UInt8.ofNat ((a * 64 + b) * 4096 / 65536)]
  | _ => []

/-- The values of the characters of a text: characters outside the alphabets are skipped, and
padding that completes a group of four ends the text.  `place` is the place in the group and
`pads` the padding seen there.  A group that stays open is a flaw. -/
def values? (place pads : Nat) : List Char → Option (List Nat)
  | [] => if place = 0 then some [] else none
  | c :: rest =>
    if c = '=' then
      if place < 2 then values? place pads rest
      else if 4 ≤ place + pads + 1 then some []
      else values? place (pads + 1) rest
    else match value? c with
      | none => values? place pads rest
      | some n => (n :: ·) <$> values? ((place + 1) % 4) 0 rest

/-- The bytes of a padded text. -/
def decode? (cs : List Char) : Option (List UInt8) := bytesOf <$> values? 0 0 cs

/-- The bytes of a text whose padding may be missing.  The missing padding is counted on the
bytes of the text. -/
def decodeOpen? (cs : List Char) : Option (List UInt8) :=
  let size := (String.ofList cs).utf8ByteSize
  decode? (cs ++ List.replicate ((4 - size % 4) % 4) '=')

end Scriptorium.Text.Base64

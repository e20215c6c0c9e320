set_option autoImplicit false

/-!
# Bytes, words and blocks

Digests work on 32-bit words in blocks of 64 bytes.  A message is closed with a one bit, zeros
and its length in bits, so that it fills whole blocks.
-/

namespace Scriptorium.Digest

/-- The bytes of a text in UTF-8. -/
def bytesOf (s : String) : List UInt8 := s.toUTF8.toList

/-- The `count` bytes of a number, least significant first. -/
def littleEndian : Nat → Nat → List UInt8
  | 0, _ => []
  | count + 1, n => UInt8.ofNat (n % 256) :: littleEndian count (n / 256)

/-- The `count` bytes of a number, most significant first. -/
def bigEndian (count n : Nat) : List UInt8 := (littleEndian count n).reverse

/-- The zeros that follow the one bit of a message of `size` bytes. -/
def padding (size : Nat) : List UInt8 := List.replicate ((119 - size % 64) % 64) 0

/-- A message closed with its length, which `encode` writes in eight bytes. -/
def close (encode : Nat → List UInt8) (message : List UInt8) : List UInt8 :=
  message ++ 0x80 :: padding message.length ++ encode (8 * message.length)

/-- Divides a list into parts of `size` items; the list gives fuel enough. -/
def chunks {α : Type} (size : Nat) : Nat → List α → List (List α)
  | 0, _ => []
  | fuel + 1, xs => if xs.isEmpty then [] else xs.take size :: chunks size fuel (xs.drop size)

/-- The word of four bytes, least significant first. -/
def wordLittle (bytes : List UInt8) : UInt32 :=
  bytes.foldr (fun b w => w * 256 + b.toUInt32) 0

/-- The word of four bytes, most significant first. -/
def wordBig (bytes : List UInt8) : UInt32 :=
  bytes.foldl (fun w b => w * 256 + b.toUInt32) 0

/-- Turns a word to the left. -/
def rotateLeft (w : UInt32) (n : Nat) : UInt32 :=
  (w <<< UInt32.ofNat n) ||| (w >>> UInt32.ofNat (32 - n))

/-- Turns a word to the right. -/
def rotateRight (w : UInt32) (n : Nat) : UInt32 :=
  (w >>> UInt32.ofNat n) ||| (w <<< UInt32.ofNat (32 - n))

/-- A byte as two hexadecimal digits. -/
def hexByte (b : UInt8) : List Char :=
  let digit (n : Nat) : Char := if n < 10 then Char.ofNat (48 + n) else Char.ofNat (87 + n)
  [digit (b.toNat / 16), digit (b.toNat % 16)]

/-- Bytes as hexadecimal text. -/
def hexText (bytes : List UInt8) : String := String.ofList (bytes.flatMap hexByte)

end Scriptorium.Digest

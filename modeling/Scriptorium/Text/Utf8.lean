import Scriptorium.Text.Half
import Scriptorium.Text.Quoted
set_option autoImplicit false

/-!
# UTF-8

Bytes are decoded strictly.  The first sequence that is no character ends the decoding with
the range of bytes at fault and what is wrong with them.  Texts are encoded strictly as well:
halves of pairs that stand alone have no bytes.
-/

namespace Scriptorium.Text.Utf8

variable [Halves]

/-- What is wrong with a sequence of bytes. -/
inductive Flaw where
  | startByte
  | continuationByte
  | endOfData
  deriving DecidableEq, Repr

/-- The bytes from `start` up to `stop` are no character; `lead` is the first of them. -/
structure DecodeError where
  lead : Nat
  start : Nat
  stop : Nat
  flaw : Flaw
  deriving DecidableEq, Repr

/-- The wording of a flaw. -/
def Flaw.message : Flaw → String
  | startByte => "invalid start byte"
  | continuationByte => "invalid continuation byte"
  | endOfData => "unexpected end of data"

/-- A byte in hexadecimal. -/
def byteText (b : Nat) : String :=
  let digit (n : Nat) : Char := if n < 10 then Char.ofNat (48 + n) else Char.ofNat (87 + n)
  String.ofList ['0', 'x', digit (b / 16), digit (b % 16)]

/-- The wording of a decoding error. -/
def DecodeError.message (e : DecodeError) : String :=
  if e.stop = e.start + 1 then
    s!"'utf-8' codec can't decode byte {byteText e.lead} in position {e.start}: {e.flaw.message}"
  else
    s!"'utf-8' codec can't decode bytes in position {e.start}-{e.stop - 1}: {e.flaw.message}"

/-- The number of continuation bytes after a lead byte, and the least and greatest value of the
first of them. -/
def lead? (b : Nat) : Option (Nat × Nat × Nat) :=
  if 0xC2 ≤ b ∧ b ≤ 0xDF then some (1, 0x80, 0xBF)
  else if b = 0xE0 then some (2, 0xA0, 0xBF)
  else if b = 0xED then some (2, 0x80, 0x9F)
  else if 0xE1 ≤ b ∧ b ≤ 0xEF then some (2, 0x80, 0xBF)
  else if b = 0xF0 then some (3, 0x90, 0xBF)
  else if 0xF1 ≤ b ∧ b ≤ 0xF3 then some (3, 0x80, 0xBF)
  else if b = 0xF4 then some (3, 0x80, 0x8F)
  else none

/-- Reads `count` continuation bytes, the first between `low` and `high`: the code they build
up from `code`, or the number of good bytes before the flaw. -/
def tail : Nat → Nat → Nat → Nat → Nat → List UInt8 → Except (Nat × Flaw) Nat
  | 0, _, _, code, _, _ => .ok code
  | _ + 1, _, _, _, good, [] => .error (good, .endOfData)
  | count + 1, low, high, code, good, b :: rest =>
    if low ≤ b.toNat ∧ b.toNat ≤ high then
      tail count 0x80 0xBF (code * 64 + b.toNat % 64) (good + 1) rest
    else .error (good, .continuationByte)

/-- Decodes from byte `start` on; the bytes give fuel enough. -/
def decodeFrom : Nat → Nat → List UInt8 → Except DecodeError (List Char)
  | 0, _, _ => .ok []
  | _, _, [] => .ok []
  | fuel + 1, start, b :: rest =>
    let n := b.toNat
    if n < 0x80 then (Char.ofNat n :: ·) <$> decodeFrom fuel (start + 1) rest
    else match lead? n with
      | none => .error ⟨n, start, start + 1, .startByte⟩
      | some (count, low, high) =>
        match tail count low high (n % (if count = 1 then 32 else if count = 2 then 16 else 8)) 1
            rest with
        | .ok code =>
          (Char.ofNat code :: ·) <$> decodeFrom fuel (start + count + 1) (rest.drop count)
        | .error (good, flaw) => .error ⟨n, start, start + good, flaw⟩

/-- The characters from `start` up to `stop` are halves of pairs; `lead` is the first of them. -/
structure EncodeError where
  lead : Char
  start : Nat
  stop : Nat
  deriving DecidableEq, Repr

/-- The wording of an encoding error. -/
def EncodeError.message (e : EncodeError) : String :=
  if e.stop = e.start + 1 then
    s!"'utf-8' codec can't encode character '{String.ofList (codeEscape e.lead)}' in position " ++
      s!"{e.start}: surrogates not allowed"
  else
    s!"'utf-8' codec can't encode characters in position {e.start}-{e.stop - 1}: " ++
      "surrogates not allowed"

/-- The first run of halves in a text, from its first half on that is not `free`. -/
def encodeErrorBeyond? (free : Char → Bool) (s : String) : Option EncodeError :=
  let (before, rest) := s.toList.span fun c => !Half.isHalf c || free c
  match rest with
  | [] => none
  | c :: _ =>
    some ⟨c, before.length, before.length + (rest.takeWhile Half.isHalf).length⟩

/-- The first run of halves in a text. -/
def encodeError? (s : String) : Option EncodeError := encodeErrorBeyond? (fun _ => false) s

/-- The bytes of a text. -/
def encode (s : String) : Except EncodeError (List UInt8) :=
  match encodeError? s with
  | some e => .error e
  | none => .ok s.toUTF8.toList

/-- The characters of a sequence of bytes. -/
def decode (bytes : List UInt8) : Except DecodeError (List Char) :=
  decodeFrom bytes.length 0 bytes

end Scriptorium.Text.Utf8

import Scriptorium.Decimal.Scan
import Scriptorium.Text.Half
import Scriptorium.Text.Numeral
import Scriptorium.Text.Utf8
import Scriptorium.Value
set_option autoImplicit false

/-!
# Reading JSON texts

`Json.read` turns a text into a `Value`, or says what is wrong and at which character.
Beside the standard grammar it takes `NaN`, `Infinity` and `-Infinity`.  A number with a point
or an exponent is the nearest float, and of repeated names the last value stands at the place of
the first.  Whole numbers of too many digits and values that are nested too deeply are refused,
whatever else is wrong behind them.
-/

namespace Scriptorium.Json

variable [Halves]

/-- What a reader can find wrong with a text. -/
inductive Complaint where
  | byteOrderMark
  | expectingValue
  | expectingName
  | expectingColon
  | expectingComma
  | unterminatedString
  | controlCharacter
  | badEscape
  | badUnicodeEscape
  | extraData
  deriving DecidableEq, Repr

/-- The wording of a complaint. -/
def Complaint.message : Complaint → String
  | byteOrderMark => "Unexpected UTF-8 BOM (decode using utf-8-sig)"
  | expectingValue => "Expecting value"
  | expectingName => "Expecting property name enclosed in double quotes"
  | expectingColon => "Expecting ':' delimiter"
  | expectingComma => "Expecting ',' delimiter"
  | unterminatedString => "Unterminated string starting at"
  | controlCharacter => "Invalid control character at"
  | badEscape => "Invalid \\escape"
  | badUnicodeEscape => "Invalid \\uXXXX escape"
  | extraData => "Extra data"

/-- A complaint and the index of the character it is about. -/
structure Misreading where
  complaint : Complaint
  index : Nat
  deriving DecidableEq, Repr

/-- What values are nested in. -/
inductive Nest where
  | list
  | record
  deriving DecidableEq, Repr

/-- Why a text is not read. -/
inductive ReadError where
  | malformed (fault : Misreading)
  /-- A whole number has too many digits. -/
  | digits (count : Nat)
  /-- Values are nested too deeply. -/
  | depth (nest : Nest)
  deriving DecidableEq, Repr

/-- The number of lists and records that may be nested in a text that is read.  It stands for the
room that is left on the stack when the reader is called, which depends on the callers: this is a
limit of the model, with one number for all of them. -/
def depthLimit : Nat := 980

/-- The wording for values that are nested too deeply. -/
def Nest.message (nest : Nest) : String :=
  "maximum recursion depth exceeded while decoding a JSON " ++
    (match nest with | .list => "array" | .record => "object") ++ " from a unicode string"

/-- What is left of a text, and the index of its first character. -/
structure Cursor where
  rest : List Char
  index : Nat
  deriving Repr

/-- Refuses a text at an index. -/
def refuse {α : Type} (complaint : Complaint) (index : Nat) : Except ReadError (α × Cursor) :=
  .error (.malformed ⟨complaint, index⟩)

/-- Blank characters between the parts of a JSON text. -/
def isBlank (c : Char) : Bool := c == ' ' || c == '\t' || c == '\n' || c == '\r'

/-- Skips blanks. -/
def Cursor.skip (at' : Cursor) : Cursor :=
  go at'.rest at'.index
where
  go : List Char → Nat → Cursor
    | c :: rest, i => if isBlank c then go rest (i + 1) else ⟨c :: rest, i⟩
    | [], i => ⟨[], i⟩

/-- The value of a hexadecimal digit. -/
def hexDigit? (c : Char) : Option Nat :=
  if '0' ≤ c ∧ c ≤ '9' then some (c.toNat - 48)
  else if 'a' ≤ c ∧ c ≤ 'f' then some (c.toNat - 87)
  else if 'A' ≤ c ∧ c ≤ 'F' then some (c.toNat - 55)
  else none

/-- The value of four hexadecimal digits. -/
def hexQuad? (a b c d : Char) : Option Nat := do
  let a ← hexDigit? a
  let b ← hexDigit? b
  let c ← hexDigit? c
  let d ← hexDigit? d
  return ((a * 16 + b) * 16 + c) * 16 + d

/-- The character that follows a backslash as a short escape. -/
def shortEscape? : Char → Option Char
  | '"' => some '"'
  | '\\' => some '\\'
  | '/' => some '/'
  | 'b' => some '\x08'
  | 'f' => some '\x0c'
  | 'n' => some '\n'
  | 'r' => some '\r'
  | 't' => some '\t'
  | _ => none

/-- What follows the escape of the first half of a pair. -/
inductive SecondHalf where
  | low (unit : Nat)
  | malformed
  | absent

/-- Looks for the escape of the second half of a pair; a closing quote has to be left. -/
def secondHalf : List Char → SecondHalf
  | '\\' :: 'u' :: a :: b :: c :: d :: _ :: _ =>
    match hexQuad? a b c d with
    | none => .malformed
    | some low => if Text.Half.isTrailing low then .low low else .absent
  | _ => .absent

/-- Reads the inside of a string whose opening quote is at `start`; `done` holds the
characters read so far in reverse. -/
def readString (start : Nat) : List Char → Nat → List Char →
    Except ReadError (String × Cursor)
  | '"' :: rest, i, done => .ok (String.ofList done.reverse, ⟨rest, i + 1⟩)
  | '\\' :: 'u' :: a :: b :: c :: d :: next :: rest, i, done =>
    match hexQuad? a b c d with
    | none => refuse .badUnicodeEscape (i + 1)
    | some unit =>
      if Text.Half.isLeading unit then
        match secondHalf (next :: rest) with
        | .low low => readString start (rest.drop 5) (i + 12)
            (Char.ofNat (Text.Half.join unit low) :: done)
        | .malformed => refuse .badUnicodeEscape (i + 7)
        | .absent => readString start (next :: rest) (i + 6) (Text.Half.charOf unit :: done)
      else readString start (next :: rest) (i + 6) (Text.Half.charOf unit :: done)
  | '\\' :: c :: rest, i, done =>
    if c = 'u' then refuse .badUnicodeEscape (i + 1)
    else match shortEscape? c with
      | some e => readString start rest (i + 2) (e :: done)
      | none => refuse .badEscape i
  | c :: rest, i, done =>
    if c = '\\' then refuse .unterminatedString start
    else if c.toNat ≤ 0x1F then refuse .controlCharacter i
    else readString start rest (i + 1) (c :: done)
  | [], _, _ => refuse .unterminatedString start
termination_by cs _ _ => cs.length
decreasing_by all_goals (simp only [List.length_cons, List.length_drop]; omega)

/-- Reads a point and the digits after it, if a digit follows the point. -/
def readPlaces (at' : Cursor) : List Nat × Bool × Cursor :=
  match at'.rest with
  | '.' :: d :: rest =>
    if Decimal.isDigit d then
      let (digits, after) := Decimal.spanDigits (d :: rest)
      (digits, true, ⟨after, at'.index + 1 + digits.length⟩)
    else ([], false, at')
  | _ => ([], false, at')

/-- Reads an exponent, if it has a digit. -/
def readExponent (at' : Cursor) : Int × Bool × Cursor :=
  match at'.rest with
  | e :: rest =>
    if e = 'e' || e = 'E' then
      let (sign, signed, body) : Int × Nat × List Char := match rest with
        | '-' :: more => (-1, 1, more)
        | '+' :: more => (1, 1, more)
        | _ => (1, 0, rest)
      let (digits, after) := Decimal.spanDigits body
      if digits.isEmpty then (0, false, at')
      else (sign * (Decimal.natOf digits : Int), true,
        ⟨after, at'.index + 1 + signed + digits.length⟩)
    else (0, false, at')
  | [] => (0, false, at')

/-- Reads a number that starts at the cursor. -/
def readNumber (at' : Cursor) : Except ReadError (Value × Cursor) :=
  let (negative, body) := match at'.rest with
    | '-' :: rest => (true, Cursor.mk rest (at'.index + 1))
    | _ => (false, at')
  let (digits, after) := match body.rest with
    | '0' :: rest => ([0], Cursor.mk rest (body.index + 1))
    | rest =>
      let (digits, after) := Decimal.spanDigits rest
      (digits, Cursor.mk after (body.index + digits.length))
  if digits.isEmpty then refuse .expectingValue at'.index
  else
    let (places, hasPlaces, after) := readPlaces after
    let (exponent, hasExponent, after) := readExponent after
    if hasPlaces || hasExponent then
      let x := Decimal.nearest (digits ++ places) (exponent - places.length)
      .ok (.float (if negative then -x else x), after)
    else if Text.digitLimit < digits.length then .error (.digits digits.length)
    else
      let n : Int := Decimal.natOf digits
      .ok (.int (if negative then -n else n), after)

/-- Reads a word that stands for a value, or else a number. -/
def readWord (at' : Cursor) : Except ReadError (Value × Cursor) :=
  match at'.rest with
  | 'n' :: 'u' :: 'l' :: 'l' :: rest => .ok (.null, ⟨rest, at'.index + 4⟩)
  | 't' :: 'r' :: 'u' :: 'e' :: rest => .ok (.bool true, ⟨rest, at'.index + 4⟩)
  | 'f' :: 'a' :: 'l' :: 's' :: 'e' :: rest => .ok (.bool false, ⟨rest, at'.index + 5⟩)
  | 'N' :: 'a' :: 'N' :: rest => .ok (.float (0 / 0), ⟨rest, at'.index + 3⟩)
  | 'I' :: 'n' :: 'f' :: 'i' :: 'n' :: 'i' :: 't' :: 'y' :: rest =>
    .ok (.float (1 / 0), ⟨rest, at'.index + 8⟩)
  | '-' :: 'I' :: 'n' :: 'f' :: 'i' :: 'n' :: 'i' :: 't' :: 'y' :: rest =>
    .ok (.float (-1 / 0), ⟨rest, at'.index + 9⟩)
  | _ => readNumber at'

mutual

/-- Reads a value that starts at the cursor, in which `room` more values may be nested. -/
def readValue : Nat → Nat → Cursor → Except ReadError (Value × Cursor)
  | 0, _, at' => refuse .expectingValue at'.index
  | fuel + 1, room, at' =>
    match at'.rest with
    | '"' :: rest => do
      let (s, after) ← readString at'.index rest (at'.index + 1) []
      return (.text s, after)
    | '{' :: rest =>
      let inside := (Cursor.mk rest (at'.index + 1)).skip
      match room, inside.rest with
      | 0, _ => .error (.depth .record)
      | _ + 1, '}' :: more => .ok (.record [], ⟨more, inside.index + 1⟩)
      | room + 1, _ => readFields fuel room inside []
    | '[' :: rest =>
      let inside := (Cursor.mk rest (at'.index + 1)).skip
      match room, inside.rest with
      | 0, _ => .error (.depth .list)
      | _ + 1, ']' :: more => .ok (.list [], ⟨more, inside.index + 1⟩)
      | room + 1, _ => readItems fuel room inside []
    | _ => readWord at'

/-- Reads the items of a list up to its closing bracket; `done` holds those read in reverse. -/
def readItems : Nat → Nat → Cursor → List Value → Except ReadError (Value × Cursor)
  | 0, _, at', _ => refuse .expectingValue at'.index
  | fuel + 1, room, at', done => do
    let (item, after) ← readValue fuel room at'
    let after := after.skip
    match after.rest with
    | ']' :: more => return (.list (item :: done).reverse, ⟨more, after.index + 1⟩)
    | ',' :: more => readItems fuel room (Cursor.mk more (after.index + 1)).skip (item :: done)
    | _ => refuse .expectingComma after.index

/-- Reads the fields of a record up to its closing brace. -/
def readFields : Nat → Nat → Cursor → Fields → Except ReadError (Value × Cursor)
  | 0, _, at', _ => refuse .expectingName at'.index
  | fuel + 1, room, at', done =>
    match at'.rest with
    | '"' :: rest => do
      let (name, after) ← readString at'.index rest (at'.index + 1) []
      let after := after.skip
      match after.rest with
      | ':' :: more =>
        let (value, after) ← readValue fuel room (Cursor.mk more (after.index + 1)).skip
        let done := Fields.put done name value
        let after := after.skip
        match after.rest with
        | '}' :: more => return (.record done, ⟨more, after.index + 1⟩)
        | ',' :: more => readFields fuel room (Cursor.mk more (after.index + 1)).skip done
        | _ => refuse .expectingComma after.index
      | _ => refuse .expectingColon after.index
    | _ => refuse .expectingName at'.index

end

/-- Reads all characters of a text. -/
def readChars (cs : List Char) : Except ReadError Value := do
  let (value, after) ← readValue (2 * cs.length + 2) depthLimit (Cursor.mk cs 0).skip
  let after := after.skip
  if after.rest.isEmpty then return value else throw (.malformed ⟨.extraData, after.index⟩)

/-- Reads a whole text, which must not begin with a mark of the byte order. -/
def read (s : String) : Except ReadError Value :=
  if s.toList.head? = some (Char.ofNat 0xFEFF) then .error (.malformed ⟨.byteOrderMark, 0⟩)
  else readChars s.toList

/-- The line, from 1, of the character at an index of a text. -/
def lineOf (cs : List Char) (index : Nat) : Nat := (cs.take index).count '\n' + 1

/-- The column, from 1, of the character at an index of a text. -/
def columnOf (cs : List Char) (index : Nat) : Nat :=
  ((cs.take index).reverse.takeWhile (· != '\n')).length + 1

/-! ## The encoding of JSON bytes

A JSON text begins with an ASCII character, so that the zeros among its first bytes show the size
and the order of its units.  A mark of the byte order may stand before it.
-/

open Text (Utf8.decode)
open Text.Wide (Order decode16? decode32?)

/-- How characters are written as bytes. -/
inductive Encoding where
  | bytes
  | pairs (order : Order)
  | fours (order : Order)
  deriving DecidableEq, Repr

/-- The encoding that the zeros among the first bytes show. -/
def Encoding.ofZeros : List UInt8 → Encoding
  | 0 :: b :: _ :: _ :: _ => if b = 0 then .fours .big else .pairs .big
  | _ :: 0 :: c :: d :: _ => if c = 0 && d = 0 then .fours .little else .pairs .little
  | [0, _] => .pairs .big
  | [_, 0] => .pairs .little
  | _ => .bytes

/-- The encoding of a text, and its bytes behind the mark of the byte order. -/
def Encoding.detect : List UInt8 → Encoding × List UInt8
  | 0x00 :: 0x00 :: 0xFE :: 0xFF :: rest => (.fours .big, rest)
  | 0xFF :: 0xFE :: 0x00 :: 0x00 :: rest => (.fours .little, rest)
  | 0xFE :: 0xFF :: rest => (.pairs .big, rest)
  | 0xFF :: 0xFE :: rest => (.pairs .little, rest)
  | 0xEF :: 0xBB :: 0xBF :: rest => (.bytes, rest)
  | all => (.ofZeros all, all)

/-- The characters of bytes. -/
def textOf? (all : List UInt8) : Option (List Char) :=
  match Encoding.detect all with
  | (.bytes, rest) => (Utf8.decode rest).toOption
  | (.pairs order, rest) => decode16? order rest
  | (.fours order, rest) => decode32? order rest

end Scriptorium.Json

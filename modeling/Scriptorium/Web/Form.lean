import Scriptorium.Text.Numeral
import Scriptorium.Text.Search
import Scriptorium.Text.Utf8
import Scriptorium.Web.Options
set_option autoImplicit false

/-!
# Addresses and forms

In addresses a percent sign and two hexadecimal digits stand for a byte.  Bytes that are no
text are read as the replacement character.

A form is written as pairs between separators or as parts between boundaries.  Parts have headers
that name them.
-/

namespace Scriptorium.Web

/-! ## Percent signs -/

/-- The characters of bytes, of which any may be no text. -/
def lossy : Nat → List UInt8 → List Char
  | 0, _ => []
  | fuel + 1, bytes => match Text.Utf8.decode bytes with
    | .ok cs => cs
    | .error e =>
      ((Text.Utf8.decode (bytes.take e.start)).toOption.getD []) ++
        Char.ofNat 0xFFFD :: lossy fuel (bytes.drop (max e.stop (e.start + 1)))

/-- The bytes of a text, its percent signs read. -/
def percentBytes : List Char → List UInt8
  | '%' :: a :: b :: rest =>
    match Text.hexValue? a, Text.hexValue? b with
    | some x, some y => UInt8.ofNat (x * 16 + y) :: percentBytes rest
    | _, _ => 0x25 :: percentBytes (a :: b :: rest)
  | c :: rest => (String.singleton c).toUTF8.toList ++ percentBytes rest
  | [] => []

/-- A text with its percent signs read. -/
def unquote (s : String) : String :=
  let bytes := percentBytes s.toList
  String.ofList (lossy (bytes.length + 1) bytes)

/-- A text from a form, where a plus sign stands for a blank. -/
def unquotePlus (s : String) : String :=
  unquote (String.ofList (s.toList.map fun c => if c = '+' then ' ' else c))

/-- The pairs of a text in the form of a query. -/
def pairsOf (s : String) : List (String × String) :=
  (Text.splitAtChar '&' s.toList).filterMap fun piece =>
    if piece.isEmpty then none
    else some (unquotePlus (String.ofList (piece.takeWhile (· != '='))),
      unquotePlus (String.ofList ((piece.dropWhile (· != '=')).drop 1)))

/-- Whether a character stands for itself in an address. -/
def isPlain (c : Char) : Bool :=
  c.isAlphanum || "-._~:/%#?=@[]!$&'()*+,;".toList.contains c

/-- A byte behind a percent sign. -/
def percentByte (b : UInt8) : List Char :=
  let digit (n : Nat) : Char := if n < 10 then Char.ofNat (48 + n) else Char.ofNat (55 + n)
  ['%', digit (b.toNat / 16), digit (b.toNat % 16)]

/-- An address with all other characters written with percent signs. -/
def quoteAddress (s : String) : String :=
  String.ofList (s.toList.flatMap fun c =>
    if isPlain c then [c] else (String.singleton c).toUTF8.toList.flatMap percentByte)

/-- A text in a query: blanks are plus signs, and few other characters stand for themselves. -/
def quotePlus (s : String) : String :=
  String.ofList (s.toList.flatMap fun c =>
    if c = ' ' then ['+']
    else if c.isAlphanum || "-._~".toList.contains c then [c]
    else (String.singleton c).toUTF8.toList.flatMap percentByte)

/-- Pairs in the form of a query. -/
def queryText (pairs : List (String × String)) : String :=
  "&".intercalate (pairs.map fun (name, value) => quotePlus name ++ "=" ++ quotePlus value)

/-! ## Pairs -/

/-- A text up to its first separator, and the rest from there on.  Ampersands separate; semicolons
do where no ampersand follows. -/
def untilSeparator (cs : List Char) : List Char × List Char :=
  let separator := if cs.contains '&' then '&' else ';'
  cs.span (· != separator)

/-- The pairs of a form.  A name without an equals sign has no value, and is left out at the end. -/
def formPairs : Nat → List Char → List (List Char × List Char)
  | 0, _ => []
  | fuel + 1, cs =>
    match cs.dropWhile fun c => c == '&' || c == ';' with
    | [] => []
    | cs =>
      let (field, _) := untilSeparator cs
      let (name, value) := field.span (· != '=')
      match value with
      | [] =>
        let (_, rest) := untilSeparator cs
        if rest.isEmpty then [] else (name, []) :: formPairs fuel rest
      | _ :: _ =>
        let (value, rest) := untilSeparator (cs.drop (name.length + 1))
        (name, value) :: formPairs fuel rest

/-- The pairs of a form in the form of a query. -/
def formOf (text : String) : List (String × String) :=
  let cs := latin text
  (formPairs (cs.length + 1) cs).map fun (name, value) =>
    (unquotePlus (String.ofList name), unquotePlus (String.ofList value))

/-! ## Parts -/

/-- A part as it is written: its headers and its content. -/
structure WrittenPart where
  headers : List (List Char × List Char)
  content : List Char
  deriving Repr

/-- What is read up to the end of a part. -/
inductive Reading (α : Type) where
  | done (value : α) (rest : List Char)
  /-- The text ends before. -/
  | open_
  | malformed
  deriving Repr

/-- Takes a text from the front of another. -/
def expect : List Char → List Char → Reading Unit
  | [], cs => .done () cs
  | _ :: _, [] => .open_
  | c :: word, d :: cs => if c = d then expect word cs else .malformed

/-- Whether a character may stand in the name of a header. -/
def isHeaderChar (c : Char) : Bool := c == '-' || c.isAlpha

/-- Reads the headers of a part up to the empty line behind them; a line that ends before its
colon is taken for the empty one. -/
def readHeaders : Nat → List Char → Reading (List (List Char × List Char))
  | 0, _ => .open_
  | fuel + 1, cs =>
    let (name, rest) := cs.span isHeaderChar
    match rest with
    | [] => .open_
    | '\r' :: rest => match expect ['\n'] rest with
      | .done _ rest => .done [] rest
      | .open_ => .open_
      | .malformed => .malformed
    | ':' :: rest =>
      if name.isEmpty then .malformed
      else
        let (value, rest) := (rest.dropWhile (· == ' ')).span (· != '\r')
        match expect ['\r', '\n'] rest with
        | .done _ rest => match readHeaders fuel rest with
          | .done more rest => .done ((name.map Char.toLower, value) :: more) rest
          | .open_ => .open_
          | .malformed => .malformed
        | .open_ => .open_
        | .malformed => .malformed
    | _ => .malformed

/-- The content up to a boundary, and what follows it: a line end before a further part, or two
hyphens behind the last one. -/
def readContentTo (boundary : List Char) : List Char → Option (List Char × Bool × List Char)
  | [] => none
  | c :: rest =>
    let behind := if boundary.isPrefixOf (c :: rest) then (c :: rest).drop boundary.length else []
    match behind with
    | '\r' :: '\n' :: more => some ([], true, more)
    | '-' :: '-' :: more => some ([], false, more)
    | _ => (fun (a, b) => (c :: a, b)) <$> readContentTo boundary rest

/-- Reads parts from behind a boundary; a part that does not end is left out. -/
def readParts (boundary : List Char) : Nat → List Char → Option (List WrittenPart)
  | 0, _ => some []
  | fuel + 1, cs =>
    match readHeaders (cs.length + 1) cs with
    | .malformed => none
    | .open_ => some []
    | .done headers rest =>
      let disposition := (headers.reverse.find? (·.1 = "content-disposition".toList)).map (·.2)
      if ((Header.read (disposition.getD [])).option? "name").isNone then none
      else match readContentTo boundary rest with
        | none => some []
        | some (content, more, rest) =>
          if more then (⟨headers, content⟩ :: ·) <$> readParts boundary fuel rest
          else some [⟨headers, content⟩]

/-- Reads all parts between boundaries; line ends may stand before the first one. -/
def readWrittenParts (boundary : List Char) (cs : List Char) : Option (List WrittenPart) :=
  let line := ['-', '-'] ++ boundary
  match expect (line ++ ['\r', '\n']) (cs.dropWhile fun c => c == '\r' || c == '\n') with
  | .malformed => none
  | .open_ => some []
  | .done _ rest => readParts (['\r', '\n'] ++ line) (rest.length + 1) rest

end Scriptorium.Web

import Scriptorium.Text.Utf8
set_option autoImplicit false

/-!
# Headers with options

A header is a word and, behind semicolons, options of a name and a value, which may stand in
quotes.  Headers are bytes; each is taken for the character of the same number.
-/

namespace Scriptorium.Web

/-- The character of the same number as a byte. -/
def charOfByte (b : UInt8) : Char := Char.ofNat b.toNat

/-- The characters of the same numbers as the bytes of a text. -/
def latin (s : String) : List Char := s.toUTF8.toList.map charOfByte

/-- The text of bytes: UTF-8, or else one character for each byte. -/
def decodeLoosely (bytes : List UInt8) : List Char :=
  match Text.Utf8.decode bytes with
  | .ok cs => cs
  | .error _ => bytes.map charOfByte

/-- The text of bytes that are given as characters. -/
def ofLatin (cs : List Char) : String :=
  String.ofList (decodeLoosely (cs.map fun c => UInt8.ofNat c.toNat))

namespace Options

/-- Characters that neither a name nor a value without quotes can hold. -/
def isSpecial (c : Char) : Bool := "()<>@,;:\\\"/[]?=\x7b\x7d \t".toList.contains c

/-- Blanks around names and values. -/
def isGap (c : Char) : Bool :=
  c == ' ' || (0x09 ≤ c.toNat && c.toNat ≤ 0x0D)

/-- The inside of quotes and what follows them.  A backslash takes the next character with it,
unless no closing quote would be left. -/
def readQuoted? : List Char → Option (List Char × List Char)
  | [] => none
  | '"' :: rest => some ([], rest)
  | '\\' :: c :: rest =>
    let pair := if c = '\n' then none else
      (fun (a, b) => ('\\' :: c :: a, b)) <$> readQuoted? rest
    pair <|> (fun (a, b) => ('\\' :: a, b)) <$> readQuoted? (c :: rest)
  | c :: rest => (fun (a, b) => (c :: a, b)) <$> readQuoted? rest
termination_by cs => cs.length

/-- The inside of quotes without its escapes: first double backslashes become single ones, then
escaped quotes become quotes. -/
def unescape (cs : List Char) : List Char := quotes (backslashes cs)
where
  backslashes : List Char → List Char
    | '\\' :: '\\' :: rest => '\\' :: backslashes rest
    | c :: rest => c :: backslashes rest
    | [] => []
  quotes : List Char → List Char
    | '\\' :: '"' :: rest => '"' :: quotes rest
    | c :: rest => c :: quotes rest
    | [] => []

/-- The value of an option and what follows it. -/
def readValue? (cs : List Char) : Option (List Char × List Char) :=
  match cs with
  | '"' :: rest => (fun (a, b) => (unescape a, b)) <$> readQuoted? rest
  | _ =>
    let (value, rest) := cs.span (!isSpecial ·)
    if value.isEmpty then none else some (value, rest)

/-- A name and its value, and what follows them. -/
def readOption? (cs : List Char) : Option ((List Char × List Char) × List Char) := do
  let (name, rest) := (cs.dropWhile isGap).span (!isSpecial ·)
  if name.isEmpty then none
  match rest.dropWhile isGap with
  | '=' :: rest =>
    let (value, rest) ← readValue? (rest.dropWhile isGap)
    return ((name.map Char.toLower, value), rest)
  | _ => none

/-- The options of a text: each stands at its start or behind a semicolon. -/
def readAll : Nat → Bool → List Char → List (List Char × List Char)
  | 0, _, _ => []
  | fuel + 1, atStart, cs =>
    let begun := if atStart then some cs else match cs with
      | ';' :: rest => some rest
      | _ => none
    match begun.bind readOption?, cs with
    | some (found, rest), _ => found :: readAll fuel false rest
    | none, _ :: rest => if atStart then readAll fuel false cs else readAll fuel false rest
    | none, [] => []

end Options

/-- A header: its word and its options. -/
structure Header where
  word : List Char
  options : List (List Char × List Char)
  deriving Repr

namespace Header

/-- Reads a header.  A word without options is written in any case and between blanks. -/
def read (cs : List Char) : Header :=
  let (word, rest) := cs.span (· != ';')
  match rest with
  | [] =>
    let plain := (word.map Char.toLower).dropWhile Options.isGap
    ⟨(plain.reverse.dropWhile Options.isGap).reverse, []⟩
  | _ :: rest => ⟨word, Options.readAll (rest.length + 2) true rest⟩

/-- The last option of a name. -/
def option? (h : Header) (name : String) : Option (List Char) :=
  (h.options.reverse.find? (·.1 = name.toList)).map (·.2)

/-- The file name among the options.  Of a path that begins with a drive or with two backslashes
only the last part is kept. -/
def filename? (h : Header) : Option (List Char) :=
  (h.option? "filename").map fun value =>
    if (value.drop 1).take 2 = [':', '\\'] || value.take 2 = ['\\', '\\'] then
      (value.reverse.takeWhile (· != '\\')).reverse
    else value

end Header

end Scriptorium.Web

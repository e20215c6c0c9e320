import Scriptorium.Text.Half
import Scriptorium.Text.Printable
set_option autoImplicit false

/-!
# Quoted texts

A text is quoted with single quotes, unless it holds a single quote and no double one.
Backslashes, the quote itself and characters that are not shown as they are get an escape:
a short one for tab, line feed and carriage return, and otherwise the code in two, four or
eight hexadecimal digits.
-/

namespace Scriptorium.Text

variable [Halves]

/-- A lower-case hexadecimal digit. -/
def hexDigit (n : Nat) : Char := if n < 10 then Char.ofNat (48 + n) else Char.ofNat (87 + n)

/-- The last `width` hexadecimal digits of a number. -/
def hexDigits : Nat → Nat → List Char
  | 0, _ => []
  | width + 1, n => hexDigits width (n / 16) ++ [hexDigit (n % 16)]

/-- The escape of a character by its code; that of a half is its unit. -/
def codeEscape (c : Char) : List Char :=
  let n := (Half.unit? c).getD c.toNat
  if n < 0x100 then '\\' :: 'x' :: hexDigits 2 n
  else if n < 0x10000 then '\\' :: 'u' :: hexDigits 4 n
  else '\\' :: 'U' :: hexDigits 8 n

/-- The written form of a character between two `quote`s; `shown` says which characters
outside ASCII stand for themselves. -/
def quotedChar (shown : Char → Bool) (quote c : Char) : List Char :=
  if c = quote ∨ c = '\\' then ['\\', c]
  else if c = '\t' then ['\\', 't']
  else if c = '\n' then ['\\', 'n']
  else if c = '\r' then ['\\', 'r']
  else if shown c then [c]
  else codeEscape c

/-- The quote a text gets. -/
def quoteFor (cs : List Char) : Char :=
  if cs.contains '\'' && !cs.contains '"' then '"' else '\''

/-- A text in quotes. -/
def quotedBy (shown : Char → Bool) (s : String) : String :=
  let q := quoteFor s.toList
  String.ofList (q :: s.toList.flatMap (quotedChar shown q) ++ [q])

/-- A text in quotes, with printable characters shown as they are. -/
def quoted (s : String) : String := quotedBy isPrintable s

/-- The escapes of all characters of a text outside ASCII. -/
def escapeBeyondAscii (s : String) : String :=
  String.ofList (s.toList.flatMap fun c => if c.toNat < 0x80 then [c] else codeEscape c)

end Scriptorium.Text

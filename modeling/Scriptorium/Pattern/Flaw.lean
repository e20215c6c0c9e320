import Scriptorium.Value
set_option autoImplicit false

/-!
# Flaws of patterns

Everything that can be wrong with a pattern, or with laying out a value as it asks, and the
wording of each.
-/

namespace Scriptorium.Pattern

/-- What is wrong with a pattern. -/
inductive Flaw where
  | loneOpen
  | loneClose
  | openInName
  | noConversion
  | noColon
  | openLayout
  | unclosed
  | afterBracket
  | emptyStep
  | noBracket
  | manyDigits
  | tooDeep
  /-- A field is named by its position. -/
  | position (index : Nat)
  | conversion (c : Char)
  | layout (spec : String) (kind : Kind)
  | code (c : Char) (kind : Kind)
  | separator (mark type : Char)
  | twoSeparators
  | noPrecision
  | largePrecision
  | textSpace
  | textSign
  | textZero
  | textAlternate
  | textInner
  | wholePrecision
  | wholeZero
  | charSign
  | charAlternate
  /-- A value of this kind cannot be laid out. -/
  | noLayout (kind : Kind)
  | charRange
  | charSize
  | noFloat
  /-- A name is bound twice. -/
  | boundTwice (name : String)
  /-- The bindings are not a record. -/
  | noBindings (kind : Kind)
  deriving DecidableEq, Repr

namespace Flaw

/-- A character in a message: by its code unless it lies strictly between the bounds. -/
def named (c : Char) (bound : Nat) : String :=
  if 32 < c.toNat ∧ c.toNat < bound then String.singleton c
  else "\\x" ++ String.ofList (Nat.toDigits 16 c.toNat)

/-- The wording of a flaw. -/
def message : Flaw → String
  | loneOpen => "Single '\x7b' encountered in format string"
  | loneClose => "Single '\x7d' encountered in format string"
  | openInName => "unexpected '\x7b' in field name"
  | noConversion => "end of string while looking for conversion specifier"
  | noColon => "expected ':' after conversion specifier"
  | openLayout => "unmatched '\x7b' in format spec"
  | unclosed => "expected '\x7d' before end of string"
  | afterBracket => "Only '.' or '[' may follow ']' in format field specifier"
  | emptyStep => "Empty attribute in format string"
  | noBracket => "Missing ']' in format string"
  | manyDigits => "Too many decimal digits in format string"
  | tooDeep => "Max string recursion exceeded"
  | position index => s!"Replacement index {index} out of range for positional args tuple"
  | conversion c => "Unknown conversion specifier " ++ named c 127
  | layout spec kind => s!"Invalid format specifier '{spec}' for object of type '{kind.label}'"
  | code c kind => s!"Unknown format code '{named c 128}' for object of type '{kind.label}'"
  | separator mark c => s!"Cannot specify '{mark}' with '{named c 128}'."
  | twoSeparators => "Cannot specify both ',' and '_'."
  | noPrecision => "Format specifier missing precision"
  | largePrecision => "precision too big"
  | textSpace => "Space not allowed in string format specifier"
  | textSign => "Sign not allowed in string format specifier"
  | textZero => "Negative zero coercion (z) not allowed in string format specifier"
  | textAlternate => "Alternate form (#) not allowed in string format specifier"
  | textInner => "'=' alignment not allowed in string format specifier"
  | wholePrecision => "Precision not allowed in integer format specifier"
  | wholeZero => "Negative zero coercion (z) not allowed in integer format specifier"
  | charSign => "Sign not allowed with integer format specifier 'c'"
  | charAlternate => "Alternate form (#) not allowed with integer format specifier 'c'"
  | noLayout kind => s!"unsupported format string passed to {kind.label}.__format__"
  | charRange => "%c arg not in range(0x110000)"
  | charSize => "Python int too large to convert to C long"
  | noFloat => "int too large to convert to float"
  | boundTwice name => s!"str.format() got multiple values for keyword argument '{name}'"
  | noBindings kind => s!"str.format() argument after ** must be a mapping, not {kind.label}"

end Flaw

end Scriptorium.Pattern

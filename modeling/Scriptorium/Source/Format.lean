import Scriptorium.Fault
import Scriptorium.Text.Blank
import Scriptorium.Text.Case
import Scriptorium.Text.Utf8
set_option autoImplicit false

/-!
# Files and their formats

The formats of files that documentation is written for, the suffix that tells them apart, and how
files are opened and read.
-/

namespace Scriptorium.Source

/-- A supported file format. -/
inductive Format where
  | python
  | javascript
  | typescript
  | markdown
  | restructured
  | plain
  | json
  deriving DecidableEq, Repr

namespace Format

/-- The name of a format in reports. -/
def name : Format → String
  | python => "python"
  | javascript => "javascript"
  | typescript => "typescript"
  | markdown => "markdown"
  | restructured => "restructuredtext"
  | plain => "text"
  | json => "json"

/-- The format that a suffix stands for (`supported_formats`). -/
def ofSuffix? : String → Option Format
  | ".py" => some python
  | ".js" => some javascript
  | ".ts" => some typescript
  | ".md" => some markdown
  | ".rst" => some restructured
  | ".txt" => some plain
  | ".json" => some json
  | _ => none

end Format

/-- The parts of a path between its slashes, empty ones and single points left out. -/
def pathParts (path : String) : List String :=
  (path.splitOn "/").filter fun part => part != "" && part != "."

/-- The suffix of a path: from the last point of its last part on.  A point at either end of
the part starts no suffix. -/
def suffix (path : String) : String :=
  let name := ((pathParts path).getLast?.getD "").toList
  let tail := name.reverse.takeWhile (· != '.')
  let before := name.length - tail.length - 1
  if tail.isEmpty || name.length == tail.length || before == 0 then ""
  else String.ofList ('.' :: tail.reverse)

/-- The suffix of a path in lower case. -/
def normalSuffix (path : String) : String := Text.lower (suffix path)

/-! ## Files

A file is opened by its path and read as text in UTF-8.  A path is handed on as bytes: a second
half of a pair stands for a byte of its own if it is one of those that keep undecodable bytes,
and no other half has bytes.  The name of a file and the whole path are limited in size.
-/

/-- The greatest number of bytes of a name. -/
def nameLimit : Nat := 255

/-- A path has fewer bytes than this. -/
def pathLimit : Nat := 4096

/-- Whether a character keeps an undecodable byte. -/
def keepsByte [Halves] (c : Char) : Bool :=
  match Text.Half.unit? c with
  | some unit => 0xDC80 ≤ unit && unit ≤ 0xDCFF
  | none => false

/-- The number of bytes of a part of a path. -/
def byteCount [Halves] (part : String) : Nat :=
  part.toList.foldl (fun n c => n + if keepsByte c then 1 else c.utf8Size) 0

/-- Why the file at a path cannot be opened, if there is none. -/
def absence [Halves] (path : String) : Fault :=
  match Text.Utf8.encodeErrorBeyond? keepsByte path with
  | some e => .notEncodable e
  | none =>
    if path.toList.contains '\x00' then .unaccepted "embedded null byte"
    else
      let first := (pathParts path).find? (· != "..")
      if pathLimit ≤ byteCount path || nameLimit < byteCount (first.getD "") then
        .reported ("[Errno 36] File name too long: " ++ Text.quoted path)
      else .reported ("[Errno 2] No such file or directory: " ++ Text.quoted path)

/-- The text of the file at a path; `file` holds its bytes if there is one. -/
def readFile [Halves] (path : String) (file : Option (List UInt8)) : Outcome String :=
  match file with
  | none => .error (absence path)
  | some bytes => match Text.Utf8.decode bytes with
    | .ok cs => .ok (String.ofList (Text.unifyLineEnds cs))
    | .error e => .error (.notUtf8 e)

end Scriptorium.Source

import Scriptorium.Fault
import Scriptorium.Json.Reader
import Scriptorium.Text.Blank
import Scriptorium.Text.Case
import Scriptorium.Web.Form
set_option autoImplicit false

/-!
# Requests

A request has a method, a path, a query, and content of one of several kinds.  What the content
means depends on whether data or a form is expected.
-/

namespace Scriptorium.Web

/-- A part of a form; its content is so many copies of some bytes. -/
structure Part where
  name : String
  filename : Option String := none
  unit : List UInt8 := []
  copies : Nat := 1
  deriving Repr

namespace Part

/-- The number of bytes of a part. -/
def size (p : Part) : Nat := p.unit.length * p.copies

/-- The bytes of a part. -/
def bytes (p : Part) : List UInt8 := (List.replicate p.copies p.unit).flatten

/-- The text of a part.  What is wrong with the bytes shows in the first two copies. -/
def text (p : Part) : Except Text.Utf8.DecodeError (List Char) :=
  Text.Utf8.decode { p with copies := min p.copies 2 }.bytes

/-- The number of bytes up to which a file is kept in memory. -/
def memoryLimit : Nat := 1048576

/-- Whether a file is kept on disk. -/
def isOnDisk (p : Part) : Bool := decide (memoryLimit < p.size)

end Part

/-- The content of a request. -/
inductive Content where
  | nothing
  | json (v : Value)
  | raw (text : String) (type : String)
  | form (fields : List (String × String))
  | parts (parts : List Part)
  deriving Repr

/-- A request. -/
structure Request where
  method : String
  path : String
  query : List (String × String) := []
  content : Content := .nothing
  authorization : Option String := none
  deriving Repr

namespace Request

/-- The address without the part behind the sign of a fragment. -/
def address (r : Request) : List Char := r.path.toList.takeWhile (· != '#')

/-- The path of a request, its percent signs read. -/
def realPath (r : Request) : String :=
  unquote (String.ofList (r.address.takeWhile (· != '?')))

/-- The query that an address has behind its path. -/
def inlineQuery (r : Request) : String :=
  String.ofList ((r.address.dropWhile (· != '?')).drop 1)

/-- The pairs of a request's query. -/
def pairs (r : Request) : List (String × String) := pairsOf r.inlineQuery ++ r.query

/-- The text of a request's query. -/
def queryText (r : Request) : String :=
  "&".intercalate ([r.inlineQuery, Web.queryText r.query].filter (!·.isEmpty))

/-- The last value of a query under a name. -/
def queried? (r : Request) (name : String) : Option String :=
  (r.pairs.reverse.find? (·.1 = name)).map (·.2)

end Request

/-! ## Content that is read -/

/-- An item of a form. -/
inductive Item where
  | text (s : String)
  | file (part : Part)
  deriving Repr

/-- A part with its name and its file name as they arrive in a header. -/
def Part.received (p : Part) : Part :=
  let quoted (s : String) : List Char := '"' :: latin s ++ ['"']
  let file := (p.filename.map fun f => "; filename=".toList ++ quoted f).getD []
  let header := Header.read ("form-data; name=".toList ++ quoted p.name ++ file)
  { p with name := ofLatin ((header.option? "name").getD [])
           filename := header.filename?.map ofLatin }

/-- The item of a form that a part is: a text unless it has a file name. -/
def Part.item (p : Part) : Item :=
  match p.filename with
  | some _ => .file p
  | none => .text (String.ofList (decodeLoosely p.bytes))

/-- A part that was read. -/
def WrittenPart.toPart (w : WrittenPart) : Part :=
  let disposition := (w.headers.reverse.find? (·.1 = "content-disposition".toList)).map (·.2)
  let header := Header.read (disposition.getD [])
  { name := ofLatin ((header.option? "name").getD [])
    filename := header.filename?.map ofLatin
    unit := w.content.map fun c => UInt8.ofNat c.toNat }

/-- What has been read from content. -/
inductive Payload where
  | absent
  | data (v : Value)
  | bytes
  | form (items : List (String × Item))
  deriving Repr

/-- Why content cannot be read. -/
inductive Unread where
  | notJson (error : Json.Misreading) (document : String)
  | unparsable
  deriving Repr

/-- The media type of a content type: what stands before a semicolon, in lower case; a text with
a number of slashes other than one is plain text. -/
def mediaType (type : String) : String × String :=
  let plain := Text.lowerChars (Text.trimChars (type.toList.takeWhile (· != ';')))
  match Text.splitAtChar '/' plain with
  | [main, sub] => (String.ofList main, String.ofList sub)
  | _ => ("text", "plain")

/-- Whether a content type is one of data. -/
def isData (type : String) : Bool :=
  let (main, sub) := mediaType type
  type.isEmpty || (main = "application" && (sub = "json" || "+json".toList.isSuffixOf sub.toList))

/-- Reads data. -/
def readData [Halves] (text : String) : Except Unread Payload :=
  match Json.textOf? text.toUTF8.toList with
  | none => .error .unparsable
  | some cs => match Json.readChars cs with
    | .ok v => .ok (.data v)
    | .error (.malformed e) => .error (.notJson e (String.ofList cs))
    | .error _ => .error .unparsable

/-- Reads content where data is expected. -/
def Content.readBody [Halves] : Content → Except Unread Payload
  | .nothing => .ok .absent
  | .json v => .ok (.data v)
  | .raw text type =>
    if text.isEmpty then .ok .absent else if isData type then readData text else .ok .bytes
  | .form fields => .ok (if fields.isEmpty then .absent else .bytes)
  | .parts _ => .ok .bytes

/-- The items of parts. -/
def itemsOf (parts : List Part) : List (String × Item) := parts.map fun p => (p.name, p.item)

/-- Reads a text that is written as a form. -/
def readWrittenForm (text type : String) : Except Unread Payload :=
  let header := Header.read (latin type)
  if header.word = "application/x-www-form-urlencoded".toList then
    .ok (.form ((formOf text).map fun (n, s) => (n, .text s)))
  else if header.word = "multipart/form-data".toList then
    match (header.option? "boundary").bind (readWrittenParts · (latin text)) with
    | some parts => .ok (.form (itemsOf (parts.map (·.toPart))))
    | none => .error .unparsable
  else .ok (.form [])

/-- Reads content where a form is expected; other content is a form without items. -/
def Content.readForm : Content → Except Unread Payload
  | .nothing | .json _ => .ok (.form [])
  | .raw text type => readWrittenForm text type
  | .form fields => .ok (.form (fields.map fun (n, s) => (n, .text s)))
  | .parts pieces =>
    if pieces.isEmpty then .error .unparsable else .ok (.form (itemsOf (pieces.map (·.received))))

end Scriptorium.Web

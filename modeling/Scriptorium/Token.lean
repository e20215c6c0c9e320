import Scriptorium.Digest.Sha256
import Scriptorium.Duration
import Scriptorium.Json.Writer
import Scriptorium.Text.Base64
set_option autoImplicit false

/-!
# Access tokens

A token is three segments joined by points: a header, the claims, and a keyed digest of the
two.  Each segment is written in the alphabet of tokens, without padding.

The claims that are issued are the expiry, in whole seconds, and the subject as text.
-/

namespace Scriptorium.Token

variable [Halves]

/-- What signs a token, and how long a token lives if nothing else is said. -/
structure Signer where
  secret : String
  minutes : Int := 11520
  deriving Repr

/-- The name of the digest in the header. -/
def algorithm : String := "HS256"

/-- The header of every issued token. -/
def header : Fields := [("alg", .text algorithm), ("typ", .text "JWT")]

/-- A record as a segment. -/
def segment (fields : Fields) : List Char :=
  Text.Base64.encode (Digest.bytesOf (Json.write Json.compact (.record fields)))

/-- The digest of a signed text. -/
def Signer.digest (signer : Signer) (signed : List Char) : List UInt8 :=
  Digest.Sha256.keyed (Digest.bytesOf signer.secret) (Digest.bytesOf (String.ofList signed))

/-- The token of these claims. -/
def Signer.sign (signer : Signer) (claims : Fields) : String :=
  let signed := segment header ++ '.' :: segment claims
  String.ofList (signed ++ '.' :: Text.Base64.encode (signer.digest signed))

/-- How long a token lives: a life of no length counts as none given. -/
def Signer.life (signer : Signer) (given : Option Duration) : Duration :=
  match given with
  | some d => if d.micros = 0 then ⟨signer.minutes * Duration.minute⟩ else d
  | none => ⟨signer.minutes * Duration.minute⟩

/-- The claims of a token that expires at `expiry`. -/
def claims (subject : String) (expiry : Stamp) : Fields :=
  [("exp", .int expiry.seconds), ("sub", .text subject)]

/-- A token for a subject, issued at `now` (`create_access_token`). -/
def Signer.issue (signer : Signer) (now : Stamp) (subject : Value) (given : Option Duration) :
    Outcome String := do
  let expiry ← now.after (signer.life given)
  return signer.sign (claims subject.shown expiry)

end Scriptorium.Token

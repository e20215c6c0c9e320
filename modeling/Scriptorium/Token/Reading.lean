import Scriptorium.Json.Reader
import Scriptorium.Token
import Scriptorium.Value.Arithmetic
set_option autoImplicit false

/-!
# Reading tokens

A token is accepted if its segments can be read, its digest is right and its claims hold at
the time of reading.  A token that is not accepted gives no reason: `none` is the refusal.  A
time claim that stands for no whole number at all is a fault.
-/

namespace Scriptorium.Token

variable [Halves]

/-- The segments of a token and the text that is signed. -/
structure Parts where
  header : List Char
  claims : List Char
  digest : List Char
  signed : List Char
  deriving Repr

/-- A text cut at the first point. -/
def atFirstPoint? : List Char → Option (List Char × List Char)
  | [] => none
  | c :: rest =>
    if c = '.' then some ([], rest)
    else (fun (a, b) => (c :: a, b)) <$> atFirstPoint? rest

/-- A text cut at the last point. -/
def atLastPoint? (cs : List Char) : Option (List Char × List Char) :=
  (fun (a, b) => (b.reverse, a.reverse)) <$> atFirstPoint? cs.reverse

/-- The segments of a token: the header ends at the first point, the digest starts behind the
last one. -/
def Parts.of? (token : String) : Option Parts := do
  let (signed, digest) ← atLastPoint? token.toList
  let (header, claims) ← atFirstPoint? signed
  return ⟨header, claims, digest, signed⟩

/-- The record that bytes stand for, `none` if they stand for something else. -/
def recordOf (bytes : List UInt8) : Outcome (Option Fields) :=
  match Text.Utf8.decode bytes with
  | .error _ => .ok none
  | .ok cs => match Json.read (String.ofList cs) with
    | .ok (.record fields) => .ok (some fields)
    | .error (.depth nest) => .error (.tooDeep nest)
    | _ => .ok none

/-- The claims of a token whose digest is right. -/
def Signer.unseal (signer : Signer) (token : String) : Outcome (Option Fields) := do
  if let some e := Text.Utf8.encodeError? token then throw (.notEncodable e)
  let some parts := Parts.of? token | return none
  let some header := Text.Base64.decodeOpen? parts.header | return none
  let some header ← recordOf header | return none
  let some payload := Text.Base64.decodeOpen? parts.claims | return none
  let some digest := Text.Base64.decodeOpen? parts.digest | return none
  let some named := (Fields.get? header "alg").bind Value.text? | return none
  if named = algorithm ∧ digest = signer.digest parts.signed then recordOf payload else return none

/-- The whole number of a time claim, `none` if it has the right kind and cannot be read. -/
def timeClaim (v : Value) : Outcome (Option Int) :=
  match v.toWhole with
  | .ok n => .ok (some n)
  | .error f => if f.family = .badValue then .ok none else .error f

/-- Whether a time claim is absent or passes a test. -/
def timeHolds (fields : Fields) (name : String) (test : Int → Bool) : Outcome Bool :=
  match Fields.get? fields name with
  | none => .ok true
  | some v => do return ((← timeClaim v).map test).getD false

/-- Whether a claim is absent or a text. -/
def textOrAbsent (fields : Fields) (name : String) : Bool :=
  match Fields.get? fields name with
  | none => true
  | some v => v.text?.isSome

/-- Whether the claims hold at `now`.  Nobody is addressed by name and no other token is
referred to, so that a claim of either is refused. -/
def claimsHold (now : Stamp) (fields : Fields) : Outcome Bool := do
  if !(← timeHolds fields "iat" fun _ => true) then return false
  if !(← timeHolds fields "nbf" fun n => decide (n ≤ now.seconds)) then return false
  if !(← timeHolds fields "exp" fun n => decide (now.seconds ≤ n)) then return false
  return !Fields.has fields "aud" && textOrAbsent fields "sub" && textOrAbsent fields "jti" &&
    !Fields.has fields "at_hash"

/-- The claims of a token that is accepted at `now`. -/
def Signer.read (signer : Signer) (now : Stamp) (token : String) : Outcome (Option Fields) := do
  let some fields ← signer.unseal token | return none
  return if ← claimsHold now fields then some fields else none

end Scriptorium.Token

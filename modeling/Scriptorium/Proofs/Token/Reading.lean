import Scriptorium.Proofs.Json.Records
import Scriptorium.Proofs.Outcome
import Scriptorium.Proofs.Text.Base64
import Scriptorium.Token.Reading
set_option autoImplicit false

/-!
# Tokens that are read back

A signed token is taken apart at its two points, since no segment holds a point.  Each segment is
decoded to the text it was made of, and the text to its record; the digest of the two is the digest
that was appended.  So the claims of a token come back as they were signed, and an issued token is
accepted up to its expiry and not after it.  The segments hold letters, digits, `-` and `_` only.
A token lives as long as it is asked to, except that no time at all is taken for no wish.
-/

namespace Scriptorium.Token

open Text.Half (joined joined_of_isAscii)

/-! ## Segments -/

/-- A record of pieces is decoded from its segment. -/
theorem recordOf_bytesOf [Halves] {fields back : Fields} (h : Json.Pieces fields back)
    (hsome : fields ≠ []) :
    recordOf (Digest.bytesOf (Json.write Json.compact (.record fields))) =
      .ok (some (Fields.merge [] back)) := by
  have hdecode := Text.decode_bytesOf h.isAscii
  rw [String.ofList_toList] at hdecode
  simp only [recordOf, hdecode, String.ofList_toList, Json.read_write_record h hsome]

theorem decodeOpen?_segment [Halves] (fields : Fields) :
    Text.Base64.decodeOpen? (segment fields) =
      some (Digest.bytesOf (Json.write Json.compact (.record fields))) :=
  Text.Base64.decodeOpen?_encode _

theorem isSymbol_of_mem_segment [Halves] {fields : Fields} {c : Char} (hc : c ∈ segment fields) :
    Text.Base64.IsSymbol c :=
  Text.Base64.isSymbol_of_mem_encode hc

/-! ## Points -/

theorem atFirstPoint?_append {before : List Char} (hbefore : ∀ c ∈ before, c ≠ '.')
    (after : List Char) : atFirstPoint? (before ++ '.' :: after) = some (before, after) := by
  induction before with
  | nil => rfl
  | cons c rest ih =>
      obtain ⟨hc, hrest⟩ := List.forall_mem_cons.mp hbefore
      rw [List.cons_append, atFirstPoint?, if_neg hc, ih hrest]
      rfl

theorem atLastPoint?_append (before : List Char) {after : List Char}
    (hafter : ∀ c ∈ after, c ≠ '.') :
    atLastPoint? (before ++ '.' :: after) = some (before, after) := by
  have hreverse : ∀ c ∈ after.reverse, c ≠ '.' := fun c hc => hafter c (List.mem_reverse.mp hc)
  rw [atLastPoint?, List.reverse_append, List.reverse_cons, List.append_assoc,
    List.singleton_append, atFirstPoint?_append hreverse]
  simp

/-- A signed token is taken apart into its segments. -/
theorem parts_sign [Halves] (signer : Signer) (claims : Fields) :
    Parts.of? (signer.sign claims) =
      some ⟨segment header, segment claims,
        Text.Base64.encode (signer.digest (segment header ++ '.' :: segment claims)),
        segment header ++ '.' :: segment claims⟩ := by
  have hheader : ∀ c ∈ segment header, c ≠ '.' := fun c hc => (isSymbol_of_mem_segment hc).ne_point
  have hdigest : ∀ c ∈ Text.Base64.encode
      (signer.digest (segment header ++ '.' :: segment claims)), c ≠ '.' :=
    fun c hc => (Text.Base64.isSymbol_of_mem_encode hc).ne_point
  simp only [Parts.of?, Signer.sign, String.toList_ofList, atLastPoint?_append _ hdigest,
    atFirstPoint?_append hheader, bind, Option.bind, pure]

/-- A signed token has bytes. -/
theorem encodeError?_sign [Halves] (signer : Signer) (claims : Fields) :
    Text.Utf8.encodeError? (signer.sign claims) = none := by
  rw [Text.Utf8.encodeError?_eq_none_iff, Signer.sign, String.toList_ofList]
  intro c hc
  apply Text.Half.isHalf_ascii
  simp only [List.mem_append, List.mem_cons] at hc
  rcases hc with (hc | rfl | hc) | rfl | hc
  · exact (isSymbol_of_mem_segment hc).ascii
  · decide
  · exact (isSymbol_of_mem_segment hc).ascii
  · decide
  · exact (Text.Base64.isSymbol_of_mem_encode hc).ascii

/-! ## Signed claims -/

/-- The header is read back as it is written. -/
theorem pieces_header [Halves] : Json.Pieces header header := by
  have halg : joined (Key.written "alg") = "alg" := Key.joined_written (by decide +kernel)
  have htyp : joined (Key.written "typ") = "typ" := Key.joined_written (by decide +kernel)
  have halgorithm : joined algorithm = algorithm := joined_of_isAscii (by decide +kernel)
  have hkind : joined "JWT" = "JWT" := joined_of_isAscii (by decide +kernel)
  have hpieces := Json.Pieces.cons "alg" (.text algorithm)
    (.cons "typ" (.text "JWT") .nil)
  rwa [halg, htyp, halgorithm, hkind] at hpieces

/-- The claims of a signed token come back. -/
theorem unseal_sign [Halves] (signer : Signer) {claims back : Fields} (h : Json.Pieces claims back)
    (hsome : claims ≠ []) :
    signer.unseal (signer.sign claims) = .ok (some (Fields.merge [] back)) := by
  have hheader := recordOf_bytesOf pieces_header (by decide)
  have hnamed : (Fields.get? (Fields.merge [] header) "alg").bind Value.text? = some algorithm :=
    rfl
  simp only [Signer.unseal, encodeError?_sign, parts_sign, decodeOpen?_segment, hheader,
    Text.Base64.decodeOpen?_encode, hnamed, bind, Except.bind, pure, Except.pure, and_self, if_true]
  exact recordOf_bytesOf h hsome

/-! ## Faults of reading -/

/-- What goes wrong in reading a token instead of a refusal: the token has no bytes, its header or
its claims are nested too deeply, or a time of a token with the right digest stands for no whole
number. -/
inductive Unreadable [Halves] (signer : Signer) (token : String) : Fault → Prop
  | bytes {e : Text.Utf8.EncodeError} : Text.Utf8.encodeError? token = some e →
      Unreadable signer token (.notEncodable e)
  | depth {parts : Parts} {part : List Char} {bytes : List UInt8} {nest : Json.Nest} :
      Parts.of? token = some parts → part ∈ [parts.header, parts.claims] →
      Text.Base64.decodeOpen? part = some bytes → recordOf bytes = .error (.tooDeep nest) →
      Unreadable signer token (.tooDeep nest)
  | time {fields : Fields} {name : String} {v : Value} {fault : Fault} :
      signer.unseal token = .ok (some fields) → name ∈ ["iat", "nbf", "exp"] →
      Fields.get? fields name = some v → v.toWhole = .error fault → fault.family ≠ .badValue →
      Unreadable signer token fault

theorem depth_of_recordOf [Halves] {bytes : List UInt8} {fault : Fault}
    (h : recordOf bytes = .error fault) : ∃ nest, fault = .tooDeep nest := by
  unfold recordOf at h
  split at h
  · cases h
  · split at h
    · cases h
    · rename_i nest _
      exact ⟨nest, (Except.error.inj h).symm⟩
    · cases h

/-- A part of a token whose record is not read is nested too deeply. -/
theorem Unreadable.of_part [Halves] {signer : Signer} {token : String} {parts : Parts}
    {part : List Char} {bytes : List UInt8} {fault : Fault} (hparts : Parts.of? token = some parts)
    (hpart : part ∈ [parts.header, parts.claims])
    (hbytes : Text.Base64.decodeOpen? part = some bytes) (h : recordOf bytes = .error fault) :
    Unreadable signer token fault := by
  obtain ⟨nest, rfl⟩ := depth_of_recordOf h
  exact .depth hparts hpart hbytes h

theorem unreadable_of_unseal [Halves] {signer : Signer} {token : String} {fault : Fault}
    (h : signer.unseal token = .error fault) : Unreadable signer token fault := by
  unfold Signer.unseal at h
  cases hencode : Text.Utf8.encodeError? token with
  | some e =>
      rw [hencode] at h
      obtain rfl := Except.error.inj h
      exact .bytes hencode
  | none =>
      simp only [hencode] at h
      split at h
      · rename_i parts hparts
        split at h
        · rename_i bytes hbytes
          rcases Outcome.bind_eq_error_iff.mp h with hheader | ⟨_, _, hstages⟩
          · exact .of_part hparts (by simp) hbytes hheader
          · split at hstages
            · split at hstages
              · rename_i payload hpayload
                -- the digest decides whether the claims are read at all
                repeat' split at hstages
                all_goals first
                  | cases hstages
                  | exact .of_part hparts (by simp) hpayload hstages
              · cases hstages
            · cases hstages
        · cases h
      · cases h

/-- A time that is not read is there and has the wrong kind, or no place among whole numbers. -/
theorem value_of_timeHolds [Halves] {fields : Fields} {name : String} {test : Int → Bool}
    {fault : Fault} (h : timeHolds fields name test = .error fault) :
    ∃ v, Fields.get? fields name = some v ∧ v.toWhole = .error fault ∧
      fault.family ≠ .badValue := by
  unfold timeHolds at h
  split at h
  · cases h
  · rename_i v hv
    refine ⟨v, hv, ?_⟩
    rcases Outcome.bind_eq_error_iff.mp h with hclaim | ⟨_, _, hpure⟩
    · unfold timeClaim at hclaim
      split at hclaim
      · cases hclaim
      · rename_i f hf
        split at hclaim
        · cases hclaim
        · rename_i hfamily
          obtain rfl := Except.error.inj hclaim
          exact ⟨hf, hfamily⟩
    · cases hpure

section Conditions

variable {first rest : Outcome Bool}

/-- A condition in front of the others fails by itself, or holds and the others fail. -/
theorem error_of_conditions {fault : Fault}
    (h : (first >>= fun holds => if !holds then pure false else rest) = .error fault) :
    first = .error fault ∨ rest = .error fault := by
  rcases Outcome.bind_eq_error_iff.mp h with hfirst | ⟨holds, -, hrest⟩
  · exact .inl hfirst
  · cases holds with
    | false => cases hrest
    | true => exact .inr hrest

theorem true_of_conditions
    (h : (first >>= fun holds => if !holds then pure false else rest) = .ok true) :
    rest = .ok true := by
  obtain ⟨holds, -, hrest⟩ := Outcome.bind_eq_ok_iff.mp h
  cases holds with
  | false => cases hrest
  | true => exact hrest

end Conditions

theorem value_of_claimsHold [Halves] {now : Stamp} {fields : Fields} {fault : Fault}
    (h : claimsHold now fields = .error fault) :
    ∃ name ∈ ["iat", "nbf", "exp"], ∃ v, Fields.get? fields name = some v ∧
      v.toWhole = .error fault ∧ fault.family ≠ .badValue := by
  rcases error_of_conditions h with hissued | h
  · exact ⟨"iat", by decide, value_of_timeHolds hissued⟩
  rcases error_of_conditions h with hstart | h
  · exact ⟨"nbf", by decide, value_of_timeHolds hstart⟩
  rcases error_of_conditions h with hexpiry | h
  · exact ⟨"exp", by decide, value_of_timeHolds hexpiry⟩
  · cases h

/-- Reading fails in no other way. -/
theorem unreadable_of_read [Halves] {signer : Signer} {now : Stamp} {token : String} {fault : Fault}
    (h : signer.read now token = .error fault) : Unreadable signer token fault := by
  rcases Outcome.bind_eq_error_iff.mp h with hunseal | ⟨fields, hunseal, hclaims⟩
  · exact unreadable_of_unseal hunseal
  · cases fields with
    | none => cases hclaims
    | some fields =>
        rcases Outcome.bind_eq_error_iff.mp hclaims with hholds | ⟨_, _, hpure⟩
        · obtain ⟨name, hname, v, hv, hwhole, hfamily⟩ := value_of_claimsHold hholds
          exact .time hunseal hname hv hwhole hfamily
        · cases hpure

/-- The subject of an accepted token is a text, if there is one. -/
theorem subject_of_read [Halves] {signer : Signer} {now : Stamp} {token : String} {claims : Fields}
    {v : Value} (h : signer.read now token = .ok (some claims))
    (hv : Fields.get? claims "sub" = some v) : ∃ subject, v = .text subject := by
  obtain ⟨fields, -, hclaims⟩ := Outcome.bind_eq_ok_iff.mp h
  cases fields with
  | none => cases hclaims
  | some fields =>
      obtain ⟨holds, hholds, hpure⟩ := Outcome.bind_eq_ok_iff.mp hclaims
      cases holds with
      | false => cases hpure
      | true =>
          obtain rfl : fields = claims := Option.some.inj (Except.ok.inj hpure)
          have hall := true_of_conditions (true_of_conditions (true_of_conditions hholds))
          have htext : textOrAbsent fields "sub" = true := by
            have hconj := Except.ok.inj hall
            simp only [Bool.and_eq_true] at hconj
            exact hconj.1.1.2
          rw [textOrAbsent, hv] at htext
          cases v with
          | text subject => exact ⟨subject, rfl⟩
          | _ => cases htext

/-! ## Issued tokens -/

/-- The days of a year of four digits.  The year is known up to a cycle of 400 years. -/
theorem days_of_year {days : Int} (hfirst : 1 ≤ (Date.ofDays days).year)
    (hlast : (Date.ofDays days).year ≤ 9999) : -1000000 < days ∧ days < 3000000 := by
  simp only [Date.ofDays, Int.fdiv_eq_ediv_of_nonneg _ (show (0 : Int) ≤ 146097 by decide)]
    at hfirst hlast
  have hcycle : ((days + 719468 - (days + 719468) / 146097 * 146097).toNat) < 146097 := by omega
  generalize (days + 719468 - (days + 719468) / 146097 * 146097).toNat = doe at hfirst hlast hcycle
  have hyears : (doe - doe / 1460 + doe / 36524 - doe / 146096) / 365 ≤ 400 := by omega
  generalize (doe - doe / 1460 + doe / 36524 - doe / 146096) / 365 = yoe at hfirst hlast hyears
  split at hfirst <;> split at hlast <;> omega

/-- An expiry has few digits, since its year can be written. -/
theorem length_digits_seconds {now expiry : Stamp} {life : Duration} (hzone : now.zone = none)
    (hafter : now.after life = .ok expiry) :
    (Nat.toDigits 10 expiry.seconds.natAbs).length ≤ Text.digitLimit := by
  have hsmall : expiry.seconds.natAbs < 10 ^ 12 := by
    simp only [Stamp.after, hzone] at hafter
    split at hafter
    · rename_i hyear
      obtain ⟨hlow, hhigh⟩ := days_of_year hyear.1 hyear.2
      obtain rfl := Except.ok.inj hafter
      simp only [Stamp.seconds, Option.getD_none, Duration.day,
        Int.fdiv_eq_ediv_of_nonneg _ (show (0 : Int) ≤ 86400000000 by decide),
        Int.fdiv_eq_ediv_of_nonneg _ (show (0 : Int) ≤ 1000000 by decide)] at hlow hhigh ⊢
      omega
    · cases hafter
  exact Nat.le_trans ((Nat.length_toDigits_le_iff (by decide) (by decide)).mpr hsmall) (by decide)

/-- The claims of an issued token hold up to the expiry. -/
theorem claimsHold_claims [Halves] (now expiry : Stamp) (subject : String) :
    claimsHold now (claims subject expiry) = .ok (decide (now.seconds ≤ expiry.seconds)) := by
  have hissued : timeHolds (claims subject expiry) "iat" (fun _ => true) = .ok true := rfl
  have hstart : timeHolds (claims subject expiry) "nbf" (fun n => decide (n ≤ now.seconds)) =
      .ok true := rfl
  have hexpiry : timeHolds (claims subject expiry) "exp" (fun n => decide (now.seconds ≤ n)) =
      .ok (decide (now.seconds ≤ expiry.seconds)) := rfl
  have hrest : (!Fields.has (claims subject expiry) "aud" &&
      textOrAbsent (claims subject expiry) "sub" && textOrAbsent (claims subject expiry) "jti" &&
      !Fields.has (claims subject expiry) "at_hash") = true := rfl
  simp only [claimsHold, hissued, hstart, hexpiry, hrest, bind, Except.bind, pure, Except.pure]
  cases decide (now.seconds ≤ expiry.seconds) <;> rfl

/-- An issued token holds its expiry and the subject that it was issued for. -/
theorem unseal_issue [Halves] (signer : Signer) {issued expiry : Stamp} {subject : Value}
    {given : Option Duration} {token : String} (hzone : issued.zone = none)
    (hafter : issued.after (signer.life given) = .ok expiry)
    (hissue : signer.issue issued subject given = .ok token) :
    signer.unseal token = .ok (some (claims (joined subject.shown) expiry)) := by
  have hsign : signer.sign (claims subject.shown expiry) = token := by
    simpa [Signer.issue, hafter, bind, Except.bind, pure, Except.pure] using hissue
  have hexpiry : joined (Key.written "exp") = "exp" := Key.joined_written (by decide +kernel)
  have hsubject : joined (Key.written "sub") = "sub" := Key.joined_written (by decide +kernel)
  have hpieces : Json.Pieces (claims subject.shown expiry)
      (claims (joined subject.shown) expiry) := by
    have hcons := Json.Pieces.cons "exp" (.whole (length_digits_seconds hzone hafter))
      (.cons "sub" (.text subject.shown) .nil)
    rwa [hexpiry, hsubject] at hcons
  have hmerge : Fields.merge [] (claims (joined subject.shown) expiry) =
      claims (joined subject.shown) expiry := rfl
  rw [← hsign, unseal_sign signer hpieces (List.cons_ne_nil _ _), hmerge]

/-- An issued token is accepted up to its expiry, with the subject that it was issued for. -/
theorem read_issue [Halves] (signer : Signer) {issued expiry : Stamp} {subject : Value}
    {given : Option Duration} {token : String} (hzone : issued.zone = none)
    (hafter : issued.after (signer.life given) = .ok expiry)
    (hissue : signer.issue issued subject given = .ok token) (now : Stamp) :
    signer.read now token =
      .ok (if now.seconds ≤ expiry.seconds then some (claims (joined subject.shown) expiry)
        else none) := by
  simp only [Signer.read, unseal_issue signer hzone hafter hissue, claimsHold_claims, bind,
    Except.bind, pure, Except.pure, decide_eq_true_eq]

/-! ## The form of issued tokens -/

/-- A keyed digest has eight words of four bytes. -/
theorem length_digest (signer : Signer) (signed : List Char) :
    (signer.digest signed).length = 32 := rfl

/-- A record has bytes. -/
theorem bytesOf_record_ne_nil [Halves] (fields : Fields) :
    Digest.bytesOf (Json.write Json.compact (.record fields)) ≠ [] := by
  rw [← String.ofList_toList (s := Json.write Json.compact (.record fields)),
    Json.toList_write_record, Text.bytesOf_ofList, List.flatMap_cons,
    Text.utf8EncodeChar_ascii (by decide)]
  exact List.cons_ne_nil _ _

theorem isSegment_segment [Halves] (fields : Fields) : Text.Base64.IsSegment (segment fields) :=
  Text.Base64.isSegment_encode (bytesOf_record_ne_nil fields)

/-- A signed token is three segments with points between them. -/
theorem toList_sign [Halves] (signer : Signer) (fields : Fields) :
    ∃ digest, (signer.sign fields).toList =
        segment header ++ '.' :: segment fields ++ '.' :: digest ∧
      Text.Base64.IsSegment digest := by
  refine ⟨_, String.toList_ofList, Text.Base64.isSegment_encode ?_⟩
  apply List.ne_nil_of_length_pos
  rw [length_digest]
  decide

theorem seconds_eq_ediv (micros : Int) : (⟨micros, none⟩ : Stamp).seconds = micros / 1000000 := by
  rw [Stamp.seconds, Option.getD_none, Int.fdiv_eq_ediv_of_nonneg _ (by decide)]
  simp

theorem seconds_after {issued : Int} {life : Duration} {expiry : Stamp}
    (h : (⟨issued, none⟩ : Stamp).after life = .ok expiry) :
    expiry.seconds = (issued + life.micros) / 1000000 := by
  simp only [Stamp.after] at h
  split at h
  · obtain rfl := Except.ok.inj h
    exact seconds_eq_ediv _
  · cases h

section

open scoped Halves.Plain

/-- In plain texts, a token that is issued to live for some time is three segments with points
between them, and up to its expiry it is read as just the expiry, in whole seconds, and the subject.
From the next whole second on it is refused. -/
theorem issue_reads_back_until_expiry (signer : Signer) (issued : Int) {life : Duration}
    {expiry : Stamp} {subject : String} (hlife : 0 < life.micros)
    (hexpiry : (⟨issued, none⟩ : Stamp).after life = .ok expiry) :
    ∃ token header claims digest,
      signer.issue ⟨issued, none⟩ (.text subject) (some life) = .ok token ∧
      token.toList = header ++ '.' :: claims ++ '.' :: digest ∧
      Text.Base64.IsSegment header ∧ Text.Base64.IsSegment claims ∧
      Text.Base64.IsSegment digest ∧
      expiry.seconds = (issued + life.micros) / 1000000 ∧
      (∀ now ≤ issued + life.micros, signer.read ⟨now, none⟩ token =
        .ok (some [("exp", .int expiry.seconds), ("sub", .text subject)])) ∧
      ∀ now, (expiry.seconds + 1) * 1000000 ≤ now →
        signer.read ⟨now, none⟩ token = .ok none := by
  have hseconds := seconds_after hexpiry
  have hgiven : signer.life (some life) = life := if_neg (by omega)
  rw [← hgiven] at hexpiry
  have hissue : signer.issue ⟨issued, none⟩ (.text subject) (some life) =
      .ok (signer.sign (claims subject expiry)) := by
    simp only [Signer.issue, hexpiry]
    rfl
  have hread : ∀ now : Int, signer.read ⟨now, none⟩ (signer.sign (claims subject expiry)) =
      .ok (if now / 1000000 ≤ expiry.seconds then some (claims subject expiry) else none) := by
    intro now
    rw [read_issue signer rfl hexpiry hissue, seconds_eq_ediv, Value.shown,
      Text.Half.joined_plain]
  obtain ⟨digest, htoken, hdigest⟩ := toList_sign signer (claims subject expiry)
  refine ⟨_, _, _, digest, hissue, htoken, isSegment_segment _, isSegment_segment _, hdigest,
    hseconds, ?_, ?_⟩
  · intro now hnow
    rw [hread, if_pos (by omega)]
    rfl
  · intro now hnow
    rw [hread, if_neg (by omega)]

/-- A token of a minute for a subject beyond ASCII. -/
theorem issue_reads_back_for_a_minute :
    (0 < (⟨60000000⟩ : Duration).micros ∧
      (⟨500000, none⟩ : Stamp).after ⟨60000000⟩ = .ok ⟨60500000, none⟩) ∧
    ∃ token, (Signer.mk "secret" 30).issue ⟨500000, none⟩ (.text "Zoë 𝔖") (some ⟨60000000⟩) =
        .ok token ∧
      (Signer.mk "secret" 30).read ⟨60500000, none⟩ token =
        .ok (some [("exp", .int 60), ("sub", .text "Zoë 𝔖")]) := by
  have hlife : 0 < (⟨60000000⟩ : Duration).micros := by decide
  have hexpiry : (⟨500000, none⟩ : Stamp).after ⟨60000000⟩ = .ok ⟨60500000, none⟩ := by
    rfl
  refine ⟨⟨hlife, hexpiry⟩, ?_⟩
  obtain ⟨token, _, _, _, hissue, _, _, _, _, _, hread, _⟩ :=
    issue_reads_back_until_expiry (Signer.mk "secret" 30) 500000 hlife hexpiry
  exact ⟨token, hissue, hread 60500000 (by decide)⟩

end

/-! ## How long issued tokens live -/

/-- The expiry that a token with the right digest names. -/
def Signer.expiry? [Halves] (signer : Signer) (token : String) : Outcome (Option Int) := do
  let claims ← signer.unseal token
  return (claims.bind fun fields => Fields.get? fields "exp").bind Value.int?

/-- An issued token names its expiry in whole seconds. -/
theorem expiry?_issue [Halves] (signer : Signer) {issued : Int} {subject : Value}
    {given : Option Duration}
    {expiry : Stamp} (hafter : (⟨issued, none⟩ : Stamp).after (signer.life given) = .ok expiry) :
    (signer.issue ⟨issued, none⟩ subject given >>= signer.expiry?) =
      .ok (some ((issued + (signer.life given).micros) / 1000000)) := by
  have hissue : signer.issue ⟨issued, none⟩ subject given =
      .ok (signer.sign (claims subject.shown expiry)) := by
    simp only [Signer.issue, hafter]
    rfl
  have hunseal := unseal_issue signer rfl hafter hissue
  have hnamed : (some (claims (joined subject.shown) expiry)).bind
      (fun fields => Fields.get? fields "exp") = some (.int expiry.seconds) := rfl
  rw [hissue, ← seconds_after hafter]
  simp only [Signer.expiry?, hunseal, bind, Except.bind, pure, Except.pure, hnamed]
  rfl

theorem Signer.life_of_ne (signer : Signer) {life : Duration} (h : life.micros ≠ 0) :
    signer.life (some life) = life := if_neg h

theorem Signer.life_of_eq (signer : Signer) {life : Duration} (h : life.micros = 0) :
    signer.life (some life) = signer.life none := if_pos h

/-- A token names the time at which it is issued plus the life that is asked for, in whole seconds,
if and only if this life has a length, be it negative.  For a life of no length the token is the one
that is issued if no life is asked for. -/
theorem expiry_as_asked_iff [Halves] (signer : Signer) (hminutes : signer.minutes ≠ 0)
    (issued : Int) {life : Duration} {expiry : Stamp}
    (hexpiry : (⟨issued, none⟩ : Stamp).after life = .ok expiry) (subject : Value) :
    ((signer.issue ⟨issued, none⟩ subject (some life) >>= signer.expiry?) =
        .ok (some ((issued + life.micros) / 1000000)) ↔ life.micros ≠ 0) ∧
      (life.micros = 0 → signer.issue ⟨issued, none⟩ subject (some life) =
        signer.issue ⟨issued, none⟩ subject none) := by
  refine ⟨⟨?_, ?_⟩, fun hzero => by simp only [Signer.issue, signer.life_of_eq hzero]⟩
  · intro hnamed hzero
    cases hdefault : (⟨issued, none⟩ : Stamp).after (signer.life (some life)) with
    | error f => simp [Signer.issue, hdefault, bind, Except.bind] at hnamed
    | ok later =>
        rw [expiry?_issue signer hdefault, signer.life_of_eq hzero] at hnamed
        have hseconds := Option.some.inj (Except.ok.inj hnamed)
        simp only [Signer.life, Duration.minute] at hseconds
        omega
  · intro hlife
    have hgiven := signer.life_of_ne hlife
    rw [← hgiven] at hexpiry
    rw [expiry?_issue signer hexpiry, hgiven]

section

open scoped Halves.Plain

/-- A token that has expired ten seconds before it is issued. -/
theorem expired_token_named_so :
    (Signer.mk "secret" 11520).minutes ≠ 0 ∧
      (⟨500000, none⟩ : Stamp).after ⟨-10000000⟩ = .ok ⟨-9500000, none⟩ ∧
      ((Signer.mk "secret" 11520).issue ⟨500000, none⟩ (.text "ann") (some ⟨-10000000⟩) >>=
        (Signer.mk "secret" 11520).expiry?) = .ok (some (-10)) := by
  have hminutes : (Signer.mk "secret" 11520).minutes ≠ 0 := by decide
  have hexpiry : (⟨500000, none⟩ : Stamp).after ⟨-10000000⟩ = .ok ⟨-9500000, none⟩ := rfl
  refine ⟨hminutes, hexpiry, ?_⟩
  exact (expiry_as_asked_iff _ hminutes 500000 hexpiry (.text "ann")).1.mpr (by decide)

/-- A token of no life lives for eight days. -/
theorem token_of_no_life_lives_eight_days :
    (⟨0, none⟩ : Stamp).after ⟨0⟩ = .ok ⟨0, none⟩ ∧
      ((Signer.mk "secret" 11520).issue ⟨0, none⟩ (.text "ann") (some ⟨0⟩) >>=
        (Signer.mk "secret" 11520).expiry?) = .ok (some (8 * 86400)) := by
  have hafter : (⟨0, none⟩ : Stamp).after ((Signer.mk "secret" 11520).life (some ⟨0⟩)) =
      .ok ⟨691200000000, none⟩ := rfl
  exact ⟨rfl, expiry?_issue _ hafter⟩

end

end Scriptorium.Token

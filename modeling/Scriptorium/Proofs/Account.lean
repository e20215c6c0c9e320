import Scriptorium.Account
import Scriptorium.Proofs.Number
import Scriptorium.Proofs.Text.Numeral
import Scriptorium.Proofs.Token.Reading
set_option autoImplicit false

/-!
# Whom a token stands for

The subject of a token is read as a numeral, and accounts are looked up by the number.  So whoever
is returned is a stored account with the number that the token names, and an account with a number
is returned for every token that was issued for it and has not expired.  An account that goes by an
identifier never is: no identifier is a numeral, and its own token fails in a way that is not
answered as a refusal.
-/

namespace Scriptorium.Account

open Text.Half (joined alone)

variable {signer : Token.Signer} {now : Stamp} {accounts : Table} {token : String}

/-! ## Accounts of tokens -/

/-- A row has a number. -/
def hasNumber (n : Int) (row : Row) : Bool := (Row.get row "id").same (.int n)

/-- The account with a number, if there is one. -/
def numbered (accounts : Table) (n : Int) : Outcome Row :=
  match accounts.find? (hasNumber n) with
  | some row => .ok row
  | none => .error notValidated

/-- The account of an accepted token with a subject. -/
theorem ofToken_of_read [Halves] {claims : Fields} {subject : String}
    (hread : signer.read now token = .ok (some claims))
    (hsubject : Fields.get? claims "sub" = some (.text subject)) :
    ofToken signer now accounts token = (Value.text subject).toWhole >>= numbered accounts := by
  simp only [ofToken, hread, hsubject, bind, Except.bind]
  rfl

/-- A token is refused, or reading it fails, or it is accepted and its subject is a text. -/
theorem ofToken_cases [Halves] (signer : Token.Signer) (now : Stamp) (accounts : Table)
    (token : String) :
    ofToken signer now accounts token = .error notValidated ∨
      (∃ fault, signer.read now token = .error fault ∧
        ofToken signer now accounts token = .error fault) ∨
      ∃ claims subject, signer.read now token = .ok (some claims) ∧
        Fields.get? claims "sub" = some (.text subject) := by
  cases hread : signer.read now token with
  | error fault =>
      refine .inr (.inl ⟨fault, rfl, ?_⟩)
      simp only [ofToken, hread, bind, Except.bind]
  | ok accepted =>
      cases accepted with
      | none =>
          left
          simp only [ofToken, hread, bind, Except.bind]
          rfl
      | some claims =>
          cases hsubject : Fields.get? claims "sub" with
          | none =>
              left
              simp only [ofToken, hread, hsubject, bind, Except.bind]
              rfl
          | some v =>
              obtain ⟨subject, rfl⟩ := Token.subject_of_read hread hsubject
              exact .inr (.inr ⟨claims, subject, rfl, hsubject⟩)

theorem stored_of_numbered {n : Int} {row : Row} (h : numbered accounts n = .ok row) :
    row ∈ accounts ∧ hasNumber n row = true := by
  unfold numbered at h
  split at h
  · rename_i found hfind
    obtain rfl := Except.ok.inj h
    exact ⟨List.mem_of_find?_eq_some hfind, List.find?_some hfind⟩
  · cases h

theorem refused_of_numbered {n : Int} {fault : Fault} (h : numbered accounts n = .error fault) :
    fault = notValidated := by
  unfold numbered at h
  split at h
  · cases h
  · exact (Except.error.inj h).symm

/-- A subject with a whole number is the numeral of one. -/
theorem readWhole_of_toWhole [Halves] {subject : String} {n : Int}
    (h : (Value.text subject).toWhole = .ok n) : Text.readWhole subject = .ok n := by
  rw [Value.toWhole] at h
  split at h
  · rename_i hread
    obtain rfl := Except.ok.inj h
    exact hread
  · cases h
  · cases h

theorem not_text_of_hasNumber {n : Int} {row : Row} (h : hasNumber n row = true) (s : String) :
    Row.get row "id" ≠ .text s := by
  intro htext
  rw [hasNumber, htext] at h
  cases h

/-- Whoever is returned is stored under the number that the token names. -/
theorem stored_of_ofToken [Halves] {row : Row} (h : ofToken signer now accounts token = .ok row) :
    row ∈ accounts ∧ ∃ claims subject n, signer.read now token = .ok (some claims) ∧
      Fields.get? claims "sub" = some (.text subject) ∧ Text.readWhole subject = .ok n ∧
      hasNumber n row = true := by
  rcases ofToken_cases signer now accounts token with
    hrefused | ⟨fault, -, hfault⟩ | ⟨claims, subject, hread, hsubject⟩
  · rw [hrefused] at h
    cases h
  · rw [hfault] at h
    cases h
  · rw [ofToken_of_read hread hsubject] at h
    obtain ⟨n, hwhole, hnumbered⟩ := Outcome.bind_eq_ok_iff.mp h
    obtain ⟨hmem, hn⟩ := stored_of_numbered hnumbered
    exact ⟨hmem, claims, subject, n, hread, hsubject, readWhole_of_toWhole hwhole, hn⟩

/-- A token fails otherwise than by a refusal exactly if reading it does, or if its subject is no
numeral. -/
theorem ofToken_eq_error_iff [Halves] {fault : Fault} (hother : fault ≠ notValidated) :
    ofToken signer now accounts token = .error fault ↔
      signer.read now token = .error fault ∨
      ∃ claims subject, signer.read now token = .ok (some claims) ∧
        Fields.get? claims "sub" = some (.text subject) ∧
        (Value.text subject).toWhole = .error fault := by
  constructor
  · intro h
    rcases ofToken_cases signer now accounts token with
      hrefused | ⟨other, hread, hfault⟩ | ⟨claims, subject, hread, hsubject⟩
    · rw [hrefused] at h
      exact absurd (Except.error.inj h).symm hother
    · rw [hfault] at h
      obtain rfl := Except.error.inj h
      exact .inl hread
    · rw [ofToken_of_read hread hsubject] at h
      rcases Outcome.bind_eq_error_iff.mp h with hwhole | ⟨n, -, hnumbered⟩
      · exact .inr ⟨claims, subject, hread, hsubject, hwhole⟩
      · exact absurd (refused_of_numbered hnumbered) hother
  · rintro (hread | ⟨claims, subject, hread, hsubject, hwhole⟩)
    · simp only [ofToken, hread, bind, Except.bind]
    · rw [ofToken_of_read hread hsubject, hwhole]
      rfl

/-! ## Issued tokens -/

/-- A token that was issued for a value and has not expired. -/
def Current [Halves] (signer : Token.Signer) (now : Stamp) (subject : Value) (token : String) :
    Prop :=
  ∃ issued given expiry, issued.zone = none ∧
    issued.after (signer.life given) = .ok expiry ∧
    signer.issue issued subject given = .ok token ∧ now.seconds ≤ expiry.seconds

/-- A current token is read as a token for its subject. -/
theorem ofToken_of_current [Halves] {subject : Value} (h : Current signer now subject token) :
    ofToken signer now accounts token =
      (Value.text (joined subject.shown)).toWhole >>= numbered accounts := by
  obtain ⟨issued, given, expiry, hzone, hafter, hissue, hcurrent⟩ := h
  have hread := Token.read_issue signer hzone hafter hissue now
  rw [if_pos hcurrent] at hread
  exact ofToken_of_read hread rfl

theorem joined_visible [Halves] {s : String} (hs : ∀ c ∈ s.toList, Text.IsVisible c) :
    joined s = s :=
  Text.Half.joined_of_isAscii fun c hc => (hs c hc).2

/-- An account with a number gets through by its own token. -/
theorem ofToken_of_number [Halves] {user : Row} {n : Int} (hnumber : Row.get user "id" = .int n)
    (hdigits : (Nat.toDigits 10 n.natAbs).length ≤ Text.digitLimit) (hmem : user ∈ accounts)
    (hunique : ∀ row ∈ accounts, hasNumber n row = true → row = user)
    (h : Current signer now (.text (Row.get user "id").shown) token) :
    ofToken signer now accounts token = .ok user := by
  have hshown : (Value.text (Row.get user "id").shown).shown = Decimal.wholeText n := by
    rw [hnumber]
    rfl
  have hjoined : joined (Decimal.wholeText n) = Decimal.wholeText n :=
    joined_visible fun c => Text.isVisible_of_mem_wholeText
  have hself : hasNumber n user = true := by
    rw [hasNumber, hnumber]
    exact (Number.same_whole_iff (.whole n) n).mpr ⟨n, 1, rfl, by simp⟩
  have hfind : accounts.find? (hasNumber n) = some user := by
    obtain ⟨row, hrow⟩ := Option.isSome_iff_exists.mp
      (List.find?_isSome.mpr ⟨user, hmem, hself⟩)
    rw [hrow, hunique row (List.mem_of_find?_eq_some hrow) (List.find?_some hrow)]
  rw [ofToken_of_current h, hshown, hjoined, Value.toWhole, Text.readWhole_wholeText hdigits]
  change numbered accounts n = _
  rw [numbered, hfind]

/-- An account with an identifier does not. -/
theorem ofToken_of_ident [Halves] {user : Row} {i : Ident}
    (hident : (Row.get user "id").shown = i.text)
    (h : Current signer now (.text (Row.get user "id").shown) token) :
    ofToken signer now accounts token = .error (.unaccepted (Text.noNumeral 10 i.text)) := by
  have hjoined : joined i.text = i.text := joined_visible fun c => Text.isVisible_of_mem_ident
  have hshown : (Value.text (Row.get user "id").shown).shown = i.text := hident
  rw [ofToken_of_current h, hshown, hjoined, Value.toWhole, Text.readWhole_ident]
  rfl

/-! ## Who gets through -/

/-- Exactly the accounts with numbers get through.  Whoever is returned is stored under the number
that the subject of an accepted token is the numeral of, and has no text in place of it.  Whatever
is no refusal is a fault of reading the token, of which there are three, or of its subject, which
then is no numeral.  A token that was issued for an account and has not expired gives the account
back if the account has a number of its own, and always fails if it has an identifier. -/
theorem only_numbered_accounts_get_through [Halves] (signer : Token.Signer) (now : Stamp)
    (accounts : Table) :
    (∀ token row, ofToken signer now accounts token = .ok row →
      row ∈ accounts ∧ (∀ s, Row.get row "id" ≠ .text s) ∧
      ∃ claims subject n, signer.read now token = .ok (some claims) ∧
        Fields.get? claims "sub" = some (.text subject) ∧ Text.readWhole subject = .ok n ∧
        hasNumber n row = true) ∧
    (∀ token fault, fault ≠ notValidated →
      (ofToken signer now accounts token = .error fault ↔
        signer.read now token = .error fault ∨
        ∃ claims subject, signer.read now token = .ok (some claims) ∧
          Fields.get? claims "sub" = some (.text subject) ∧
          (Value.text subject).toWhole = .error fault)) ∧
    (∀ token fault, signer.read now token = .error fault →
      Token.Unreadable signer token fault) ∧
    ∀ user token, Current signer now (.text (Row.get user "id").shown) token →
      (∀ n, Row.get user "id" = .int n →
        (Nat.toDigits 10 n.natAbs).length ≤ Text.digitLimit → user ∈ accounts →
        (∀ row ∈ accounts, hasNumber n row = true → row = user) →
        ofToken signer now accounts token = .ok user) ∧
      ∀ i : Ident, (Row.get user "id").shown = i.text →
        ofToken signer now accounts token =
          .error (.unaccepted (Text.noNumeral 10 i.text)) := by
  refine ⟨?_, ?_, ?_, ?_⟩
  · intro token row h
    obtain ⟨hmem, claims, subject, n, hread, hsubject, hwhole, hn⟩ := stored_of_ofToken h
    exact ⟨hmem, not_text_of_hasNumber hn, claims, subject, n, hread, hsubject, hwhole, hn⟩
  · exact fun token fault hother => ofToken_eq_error_iff hother
  · exact fun token fault h => Token.unreadable_of_read h
  · intro user token hcurrent
    exact ⟨fun n hnumber hdigits hmem hunique =>
      ofToken_of_number hnumber hdigits hmem hunique hcurrent,
      fun i hident => ofToken_of_ident hident hcurrent⟩

/-- What signs the tokens below. -/
def scribe : Token.Signer := ⟨"secret", 11520⟩

/-- A token of the scribe for a text, good for eight days. -/
def scribed [Halves] (subject : String) : String :=
  scribe.sign (Token.claims subject (Stamp.ofSeconds 691200))

theorem current_scribed [Halves] (subject : String) :
    Current scribe (Stamp.ofSeconds 0) (.text subject) (scribed subject) :=
  ⟨Stamp.ofSeconds 0, none, Stamp.ofSeconds 691200, rfl, rfl, rfl, by decide⟩

/-- An only account with a number gets through by its token. -/
theorem ofToken_scribed [Halves] {user : Row} {n : Int} {subject : String}
    (hnumber : Row.get user "id" = .int n)
    (hdigits : (Nat.toDigits 10 n.natAbs).length ≤ Text.digitLimit)
    (hsubject : (Value.int n).shown = subject) :
    ofToken scribe (Stamp.ofSeconds 0) [user] (scribed subject) = .ok user := by
  refine ofToken_of_number hnumber hdigits List.mem_cons_self ?_ ?_
  · intro row hrow _
    exact List.mem_singleton.mp hrow
  · rw [hnumber, hsubject]
    exact current_scribed subject

/-- An account with a number. -/
def seventh : Row := [("id", .int 7)]

/-- An identifier as new accounts get it. -/
def identifier : Ident := ⟨0x4f3c0d2e8a1b4c5d9e6f7a8b9c0d1e2f⟩

/-- An account with an identifier. -/
def identified : Row := [("id", .text identifier.text)]

section

open scoped Halves.Kept

/-- The seventh account gets through by its token, while a token that is half a pair has no bytes
and is not refused. -/
theorem seventh_account_gets_through :
    ofToken scribe (Stamp.ofSeconds 0) [seventh] (scribed "7") = .ok seventh ∧
    (∀ s, Row.get seventh "id" ≠ .text s) ∧
    ∃ e, ofToken scribe (Stamp.ofSeconds 0) [seventh] alone = .error (.notEncodable e) ∧
      Token.Unreadable scribe alone (.notEncodable e) := by
  obtain ⟨hreturned, hfailed, hunreadable, hissued⟩ :=
    only_numbered_accounts_get_through scribe (Stamp.ofSeconds 0) [seventh]
  have hseventh : ofToken scribe (Stamp.ofSeconds 0) [seventh] (scribed "7") = .ok seventh :=
    (hissued seventh (scribed "7") (current_scribed "7")).1 7 rfl (by decide) List.mem_cons_self
      fun row hrow _ => List.mem_singleton.mp hrow
  have halone : Text.Utf8.encodeError? alone = some ⟨Text.Half.toChar 0xD83D, 0, 1⟩ := by
    decide +kernel
  have hhalf : scribe.read (Stamp.ofSeconds 0) alone =
      .error (.notEncodable ⟨Text.Half.toChar 0xD83D, 0, 1⟩) := by
    rw [Token.Signer.read, Token.Signer.unseal, halone]
    rfl
  refine ⟨hseventh, (hreturned _ _ hseventh).2.1, _, ?_, hunreadable _ _ hhalf⟩
  exact (hfailed alone _ (by simp [notValidated])).mpr (.inl hhalf)

end

section

open scoped Halves.Plain

/-- An account with an identifier is stored and its token has not expired, and yet it is not
returned. -/
theorem identified_account_shut_out :
    ∃ token, Current scribe (Stamp.ofSeconds 0) (.text (Row.get identified "id").shown) token ∧
      ofToken scribe (Stamp.ofSeconds 0) [identified] token ≠ .ok identified := by
  have hshown : (Row.get identified "id").shown = identifier.text := rfl
  have hcurrent := current_scribed (Row.get identified "id").shown
  refine ⟨_, hcurrent, ?_⟩
  rw [ofToken_of_ident hshown hcurrent]
  intro hreturned
  cases hreturned

end

end Scriptorium.Account

import Scriptorium.Json.Reader
import Scriptorium.Proofs.Decimal
import Scriptorium.Proofs.Json.Strings
set_option autoImplicit false

/-!
# Records that are written and read

Reading a number takes a sign, the digits in front of a point, and then whatever places and exponent
follow.  A whole number is written as a sign and digits, and behind it stands a comma or a brace, so
that nothing follows; it is read back if it has not too many digits.

A record whose values are whole numbers and texts is read back from its text, its fields in the same
order.  Names and texts come back with their halves put together.
-/

namespace Scriptorium.Json

open Text.Half (joined)

/-! ## Whole numbers -/

/-- What stands behind a value ends it. -/
def EndsValue (rest : List Char) : Prop := ∀ c ∈ rest.head?, c = ',' ∨ c = '}'

theorem readPlaces_ends {rest : List Char} (hends : EndsValue rest) (i : Nat) :
    readPlaces ⟨rest, i⟩ = ([], false, ⟨rest, i⟩) := by
  unfold readPlaces
  split
  · rename_i hhead
    have hpoint : '.' = ',' ∨ '.' = '}' := hends '.' (by simp_all)
    exact absurd hpoint (by decide)
  · rfl

theorem readExponent_ends {rest : List Char} (hends : EndsValue rest) (i : Nat) :
    readExponent ⟨rest, i⟩ = (0, false, ⟨rest, i⟩) := by
  cases rest with
  | nil => rfl
  | cons c more =>
      have hc := hends c rfl
      have hnot : (c = 'e' || c = 'E') = false := by
        rcases hc with rfl | rfl <;> rfl
      simp only [readExponent, hnot, Bool.false_eq_true, if_false]

/-- The digits in front of the point; a zero stands alone. -/
def leadingDigits (body : Cursor) : List Nat × Cursor :=
  match body.rest with
  | '0' :: rest => ([0], ⟨rest, body.index + 1⟩)
  | rest =>
    let (digits, after) := Decimal.spanDigits rest
    (digits, ⟨after, body.index + digits.length⟩)

/-- The number that starts with these digits. -/
def numberFrom (start : Nat) (negative : Bool) (leading : List Nat × Cursor) :
    Except ReadError (Value × Cursor) :=
  let (digits, after) := leading
  if digits.isEmpty then refuse .expectingValue start
  else
    let (places, hasPlaces, after) := readPlaces after
    let (exponent, hasExponent, after) := readExponent after
    if hasPlaces || hasExponent then
      let x := Decimal.nearest (digits ++ places) (exponent - places.length)
      .ok (.float (if negative then -x else x), after)
    else if Text.digitLimit < digits.length then .error (.digits digits.length)
    else
      let n : Int := Decimal.natOf digits
      .ok (.int (if negative then -n else n), after)

theorem readNumber_minus (cs : List Char) (i : Nat) :
    readNumber ⟨'-' :: cs, i⟩ = numberFrom i true (leadingDigits ⟨cs, i + 1⟩) := rfl

theorem readNumber_plain {c : Char} (hc : c ≠ '-') (cs : List Char) (i : Nat) :
    readNumber ⟨c :: cs, i⟩ = numberFrom i false (leadingDigits ⟨c :: cs, i⟩) := by
  unfold readNumber
  split
  rename_i negative body hbody
  split at hbody
  · rename_i hhead
    exact absurd (List.cons.inj hhead).1 hc
  · cases hbody
    rfl

theorem leadingDigits_toDigits (n : Nat) {rest : List Char} (hends : EndsValue rest) (i : Nat) :
    ∃ j, leadingDigits ⟨Nat.toDigits 10 n ++ rest, i⟩ =
      ((Nat.toDigits 10 n).map (fun c => c.toNat - 48), ⟨rest, j⟩) := by
  have hstop : ∀ c ∈ rest.head?, Decimal.isDigit c = false := by
    intro c hc
    rcases hends c hc with rfl | rfl <;> rfl
  by_cases hzero : n = 0
  · subst hzero
    exact ⟨i + 1, rfl⟩
  · refine ⟨i + (Nat.toDigits 10 n).length, ?_⟩
    unfold leadingDigits
    split
    · rename_i more hhead
      obtain ⟨d, ds, hcons⟩ := List.exists_cons_of_ne_nil (Nat.toDigits_ne_nil (n := n) (b := 10))
      have hfirst := Decimal.head?_toDigits_ne_zero hzero
      rw [hcons] at hfirst hhead
      exact absurd (congrArg some (List.cons.inj hhead).1) hfirst
    · simp only [Decimal.spanDigits_toDigits n hstop, List.length_map]

theorem numberFrom_digits (start : Nat) (negative : Bool) (n : Nat) {rest : List Char}
    (hends : EndsValue rest) (hdigits : (Nat.toDigits 10 n).length ≤ Text.digitLimit) (j : Nat) :
    numberFrom start negative ((Nat.toDigits 10 n).map (fun c => c.toNat - 48), ⟨rest, j⟩) =
      .ok (.int (if negative then -n else n), ⟨rest, j⟩) := by
  have hsome : ((Nat.toDigits 10 n).map (fun c => c.toNat - 48)).isEmpty = false := by
    simp [Nat.toDigits_ne_nil]
  have hlimit : ¬ Text.digitLimit < ((Nat.toDigits 10 n).map (fun c => c.toNat - 48)).length := by
    rw [List.length_map]
    omega
  simp only [numberFrom, hsome, readPlaces_ends hends, readExponent_ends hends, hlimit,
    Decimal.natOf_toDigits, Bool.or_self, Bool.false_eq_true, if_false]

/-- A whole number is read back, if it has not too many digits. -/
theorem readNumber_whole (n : Int) {rest : List Char} (hends : EndsValue rest)
    (hdigits : (Nat.toDigits 10 n.natAbs).length ≤ Text.digitLimit) (i : Nat) :
    ∃ j, readNumber ⟨(Decimal.wholeText n).toList ++ rest, i⟩ = .ok (.int n, ⟨rest, j⟩) := by
  rcases Decimal.wholeText_cases n with ⟨hneg, htext⟩ | ⟨hnonneg, htext⟩
  · have hvalue : (if true then -(n.natAbs : Int) else n.natAbs) = n := by
      rw [if_pos rfl]
      omega
    obtain ⟨j, hleading⟩ := leadingDigits_toDigits n.natAbs hends (i + 1)
    refine ⟨j, ?_⟩
    rw [htext, List.cons_append, readNumber_minus, hleading, numberFrom_digits _ _ _ hends hdigits,
      hvalue]
  · have hvalue : (if false then -(n.natAbs : Int) else n.natAbs) = n := by
      rw [if_neg Bool.false_ne_true]
      omega
    obtain ⟨j, hleading⟩ := leadingDigits_toDigits n.natAbs hends i
    obtain ⟨d, ds, hcons⟩ := List.exists_cons_of_ne_nil
      (Nat.toDigits_ne_nil (n := n.natAbs) (b := 10))
    have hd : d ≠ '-' := by
      rintro rfl
      have hdigit := Decimal.isDigit_of_mem_toDigits (hcons ▸ List.mem_cons_self)
      cases hdigit
    refine ⟨j, ?_⟩
    rw [htext, hcons, List.cons_append, readNumber_plain hd, ← List.cons_append, ← hcons, hleading,
      numberFrom_digits _ _ _ hends hdigits, hvalue]

/-- The text of a whole number starts with a digit, or with a minus and a digit. -/
theorem wholeText_head (n : Int) :
    ∃ d ds, Decimal.isDigit d = true ∧
      ((Decimal.wholeText n).toList = d :: ds ∨ (Decimal.wholeText n).toList = '-' :: d :: ds) := by
  obtain ⟨d, ds, hcons⟩ := List.exists_cons_of_ne_nil
    (Nat.toDigits_ne_nil (n := n.natAbs) (b := 10))
  refine ⟨d, ds, Decimal.isDigit_of_mem_toDigits (hcons ▸ List.mem_cons_self), ?_⟩
  rcases Decimal.wholeText_cases n with ⟨-, htext⟩ | ⟨-, htext⟩
  · exact .inr (htext.trans (by rw [hcons]))
  · exact .inl (htext.trans hcons)

theorem ne_of_isDigit {d c : Char} (hd : Decimal.isDigit d = true)
    (hc : Decimal.isDigit c = false) : d ≠ c := by
  rintro rfl
  exact Bool.false_ne_true (hc.symm.trans hd)

theorem readWord_digit {d : Char} (hd : Decimal.isDigit d = true) (cs : List Char) (i : Nat) :
    readWord ⟨d :: cs, i⟩ = readNumber ⟨d :: cs, i⟩ := by
  unfold readWord
  split
  · rename_i hhead
    exact absurd (List.cons.inj hhead).1 (ne_of_isDigit hd rfl)
  · rename_i hhead
    exact absurd (List.cons.inj hhead).1 (ne_of_isDigit hd rfl)
  · rename_i hhead
    exact absurd (List.cons.inj hhead).1 (ne_of_isDigit hd rfl)
  · rename_i hhead
    exact absurd (List.cons.inj hhead).1 (ne_of_isDigit hd rfl)
  · rename_i hhead
    exact absurd (List.cons.inj hhead).1 (ne_of_isDigit hd rfl)
  · rename_i hhead
    exact absurd (List.cons.inj hhead).1 (ne_of_isDigit hd rfl)
  · rfl

theorem readWord_minus {d : Char} (hd : Decimal.isDigit d = true) (cs : List Char) (i : Nat) :
    readWord ⟨'-' :: d :: cs, i⟩ = readNumber ⟨'-' :: d :: cs, i⟩ := by
  unfold readWord
  split
  · rename_i hhead
    cases (List.cons.inj hhead).1
  · rename_i hhead
    cases (List.cons.inj hhead).1
  · rename_i hhead
    cases (List.cons.inj hhead).1
  · rename_i hhead
    cases (List.cons.inj hhead).1
  · rename_i hhead
    cases (List.cons.inj hhead).1
  · rename_i hhead
    exact absurd (List.cons.inj (List.cons.inj hhead).2).1 (ne_of_isDigit hd rfl)
  · rfl

theorem readValue_word [Halves] {c : Char}
    (hquote : c ≠ '"') (hbrace : c ≠ '{') (hbracket : c ≠ '[')
    (cs : List Char) (fuel room i : Nat) :
    readValue (fuel + 1) room ⟨c :: cs, i⟩ = readWord ⟨c :: cs, i⟩ := by
  rw [readValue]
  split
  · rename_i hhead
    exact absurd (List.cons.inj hhead).1 hquote
  · rename_i hhead
    exact absurd (List.cons.inj hhead).1 hbrace
  · rename_i hhead
    exact absurd (List.cons.inj hhead).1 hbracket
  · rfl

theorem readValue_whole [Halves] (n : Int) {rest : List Char} (hends : EndsValue rest)
    (hdigits : (Nat.toDigits 10 n.natAbs).length ≤ Text.digitLimit) (fuel room i : Nat) :
    ∃ j, readValue (fuel + 1) room ⟨(Decimal.wholeText n).toList ++ rest, i⟩ =
      .ok (.int n, ⟨rest, j⟩) := by
  obtain ⟨j, hread⟩ := readNumber_whole n hends hdigits i
  refine ⟨j, ?_⟩
  rw [← hread]
  obtain ⟨d, ds, hd, hcons | hcons⟩ := wholeText_head n
  · rw [hcons, List.cons_append, readValue_word (ne_of_isDigit hd rfl) (ne_of_isDigit hd rfl)
      (ne_of_isDigit hd rfl), readWord_digit hd]
  · rw [hcons, List.cons_append, List.cons_append,
      readValue_word (by decide) (by decide) (by decide), readWord_minus hd]

/-! ## Records -/

theorem readValue_text [Halves] (s : String) (rest : List Char) (fuel room i : Nat) :
    ∃ j, readValue (fuel + 1) room ⟨(quoteBy true s).toList ++ rest, i⟩ =
      .ok (.text (joined s), ⟨rest, j⟩) := by
  obtain ⟨j, hread⟩ := readString_quoted s i (i + 1) rest
  refine ⟨j, ?_⟩
  have htext : (quoteBy true s).toList ++ rest =
      '"' :: (s.toList.flatMap (escapeChar true) ++ '"' :: rest) := by
    simp [quoteBy]
  rw [htext, readValue]
  simp only [hread, bind, Except.bind, pure, Except.pure]

/-- A value that is written in one piece, and the value that its text is read as. -/
inductive Piece [Halves] : Value → Value → Prop where
  | whole {n : Int} (hdigits : (Nat.toDigits 10 n.natAbs).length ≤ Text.digitLimit) :
      Piece (.int n) (.int n)
  | text (s : String) : Piece (.text s) (.text (joined s))

/-- Fields whose values are written in one piece, and the fields that their text is read as. -/
inductive Pieces [Halves] : Fields → Fields → Prop where
  | nil : Pieces [] []
  | cons (name : String) {v w : Value} {fields back : Fields} (hv : Piece v w)
      (h : Pieces fields back) :
      Pieces ((name, v) :: fields) ((joined (Key.written name), w) :: back)

theorem skip_of_head {c : Char} (hc : isBlank c = false) (cs : List Char) (i : Nat) :
    (Cursor.mk (c :: cs) i).skip = ⟨c :: cs, i⟩ := by
  simp only [Cursor.skip, Cursor.skip.go, hc, Bool.false_eq_true, if_false]

/-- The text of a piece does not start with a blank. -/
theorem Piece.head [Halves] {v w : Value} (h : Piece v w) :
    ∃ c cs, (write compact v).toList = c :: cs ∧ isBlank c = false := by
  cases h with
  | @whole n hdigits =>
      rw [write]
      obtain ⟨d, ds, hd, hcons | hcons⟩ := wholeText_head n
      · refine ⟨d, ds, hcons, ?_⟩
        simp only [isBlank, Bool.or_eq_false_iff, beq_eq_false_iff_ne]
        exact ⟨⟨⟨ne_of_isDigit hd rfl, ne_of_isDigit hd rfl⟩, ne_of_isDigit hd rfl⟩,
          ne_of_isDigit hd rfl⟩
      · exact ⟨'-', d :: ds, hcons, rfl⟩
  | text s => exact ⟨'"', _, by simp [write, quoteBy]; rfl, rfl⟩

theorem Piece.readValue [Halves] {v w : Value} (h : Piece v w) {rest : List Char}
    (hends : EndsValue rest) (fuel room i : Nat) :
    ∃ j, readValue (fuel + 1) room ⟨(write compact v).toList ++ rest, i⟩ = .ok (w, ⟨rest, j⟩) := by
  cases h with
  | whole hdigits =>
      rw [write]
      exact readValue_whole _ hends hdigits fuel room i
  | text s =>
      rw [write]
      exact readValue_text s rest fuel room i

/-- The characters of a field. -/
def fieldText [Halves] (field : String × Value) : List Char :=
  (quoteBy true (Key.written field.1)).toList ++ ':' :: (write compact field.2).toList

theorem toList_write_record [Halves] (fields : Fields) :
    (write compact (.record fields)).toList =
      '{' :: ([','].intercalate (fields.map fieldText) ++ ['}']) := by
  have hfields : (writeFields compact fields).map String.toList = fields.map fieldText := by
    induction fields with
    | nil => rfl
    | cons field rest ih =>
        simp only [writeFields, List.map_cons, ih]
        simp [fieldText, compact]
  rw [write, String.toList_append, String.toList_append, String.toList_intercalate, hfields]
  rfl

/-- A field and what ends it are read. -/
theorem Piece.readField [Halves] {v w : Value} (h : Piece v w) (name : String) {end' : Char}
    (hend : end' = ',' ∨ end' = '}') (rest : List Char) (fuel room i : Nat) (done : Fields) :
    ∃ j, readFields (fuel + 2) room ⟨fieldText (name, v) ++ end' :: rest, i⟩ done =
      if end' = '}' then .ok (.record (Fields.put done (joined (Key.written name)) w), ⟨rest, j⟩)
      else readFields (fuel + 1) room (Cursor.mk rest j).skip
        (Fields.put done (joined (Key.written name)) w) := by
  have hends : EndsValue (end' :: rest) := by
    intro c hc
    obtain rfl : end' = c := by simpa using hc
    exact hend
  have hcolon : isBlank ':' = false := rfl
  obtain ⟨c, cs, hcs, hc⟩ := h.head
  have htext : fieldText (name, v) ++ end' :: rest =
      '"' :: ((Key.written name).toList.flatMap (escapeChar true) ++
        '"' :: ':' :: ((write compact v).toList ++ end' :: rest)) := by
    simp [fieldText, quoteBy]
  obtain ⟨j, hname⟩ := readString_quoted (Key.written name) i (i + 1)
    (':' :: ((write compact v).toList ++ end' :: rest))
  obtain ⟨k, hvalue⟩ := h.readValue hends fuel room (j + 1)
  have hskip : (Cursor.mk ((write compact v).toList ++ end' :: rest) (j + 1)).skip =
      ⟨(write compact v).toList ++ end' :: rest, j + 1⟩ := by
    rw [hcs, List.cons_append, skip_of_head hc]
  have hendBlank : isBlank end' = false := by
    rcases hend with rfl | rfl <;> rfl
  refine ⟨k + 1, ?_⟩
  rw [htext, Json.readFields]
  simp only [hname, bind, Except.bind, skip_of_head hcolon, hskip, hvalue, skip_of_head hendBlank]
  rcases hend with rfl | rfl
  · rfl
  · rfl

/-- The text of fields starts with a quote. -/
theorem exists_cons_fieldTexts [Halves] (field : String × Value) (fields : Fields) :
    ∃ cs, [','].intercalate ((field :: fields).map fieldText) = '"' :: cs := by
  have hquote : ∃ cs, fieldText field = '"' :: cs := ⟨_, by simp [fieldText, quoteBy]; rfl⟩
  obtain ⟨cs, hcs⟩ := hquote
  cases fields with
  | nil => exact ⟨cs, by rw [List.map_singleton, List.intercalate_singleton, hcs]⟩
  | cons second rest =>
      refine ⟨cs ++ [','] ++ [','].intercalate ((second :: rest).map fieldText), ?_⟩
      rw [List.map_cons, List.map_cons, List.intercalate_cons_cons, hcs]
      rfl

/-- Fields up to the closing brace are read. -/
theorem Pieces.readFields [Halves] {fields back : Fields} (h : Pieces fields back)
    (hsome : fields ≠ [])
    {fuel : Nat} (hfuel : fields.length < fuel) (room i : Nat) (rest : List Char) (done : Fields) :
    ∃ j, readFields fuel room ⟨[','].intercalate (fields.map fieldText) ++ '}' :: rest, i⟩ done =
      .ok (.record (Fields.merge done back), ⟨rest, j⟩) := by
  induction h generalizing fuel i done with
  | nil => exact absurd rfl hsome
  | @cons name v w fields back hv h ih =>
      obtain ⟨fuel, rfl⟩ : ∃ less, fuel = less + 2 := by
        rw [List.length_cons] at hfuel
        exact ⟨fuel - 2, by omega⟩
      cases fields with
      | nil =>
          cases h
          obtain ⟨j, hread⟩ := hv.readField name (.inr rfl) rest fuel room i done
          rw [if_pos rfl] at hread
          refine ⟨j, ?_⟩
          rw [List.map_singleton, List.intercalate_singleton, hread]
          rfl
      | cons field fields =>
          obtain ⟨cs, hcs⟩ := exists_cons_fieldTexts field fields
          obtain ⟨j, hread⟩ := hv.readField name (.inl rfl) ('"' :: cs ++ '}' :: rest) fuel room i
            done
          rw [if_neg (by decide), List.cons_append] at hread
          have hquote : isBlank '"' = false := rfl
          obtain ⟨k, hrest⟩ := ih (by simp) (Nat.lt_of_succ_lt_succ hfuel) j
            (Fields.put done (joined (Key.written name)) w)
          refine ⟨k, ?_⟩
          rw [hcs] at hrest
          rw [List.map_cons, List.map_cons, List.intercalate_cons_cons, ← List.map_cons, hcs,
            List.append_assoc, List.append_assoc, List.singleton_append, List.cons_append, hread,
            skip_of_head hquote]
          exact hrest

theorem length_le_fieldTexts [Halves] (fields : Fields) :
    fields.length ≤ ([','].intercalate (fields.map fieldText)).length := by
  induction fields with
  | nil => exact Nat.zero_le _
  | cons field fields ih =>
      cases fields with
      | nil =>
          obtain ⟨cs, hcs⟩ := exists_cons_fieldTexts field []
          rw [hcs, List.length_cons, List.length_cons]
          simp
      | cons second rest =>
          rw [List.map_cons, List.map_cons, List.intercalate_cons_cons, ← List.map_cons,
            List.length_append, List.length_append, List.length_cons, List.length_singleton]
          omega

theorem Pieces.readValue [Halves] {fields back : Fields} (h : Pieces fields back)
    (hsome : fields ≠ [])
    {fuel : Nat} (hfuel : fields.length < fuel) (room i : Nat) (rest : List Char) :
    ∃ j, readValue (fuel + 1) (room + 1)
        ⟨'{' :: ([','].intercalate (fields.map fieldText) ++ '}' :: rest), i⟩ =
      .ok (.record (Fields.merge [] back), ⟨rest, j⟩) := by
  obtain ⟨j, hread⟩ := h.readFields hsome hfuel room (i + 1) rest []
  obtain ⟨field, more, rfl⟩ := List.exists_cons_of_ne_nil hsome
  obtain ⟨cs, hcs⟩ := exists_cons_fieldTexts field more
  have hquote : isBlank '"' = false := rfl
  refine ⟨j, ?_⟩
  rw [hcs, List.cons_append] at hread ⊢
  rw [← hread, Json.readValue]
  simp only [skip_of_head hquote]
  rfl

/-- A record of pieces is read back. -/
theorem read_write_record [Halves] {fields back : Fields} (h : Pieces fields back)
    (hsome : fields ≠ []) :
    read (write compact (.record fields)) = .ok (.record (Fields.merge [] back)) := by
  have hlength := length_le_fieldTexts fields
  have hfuel : fields.length < 2 * (write compact (.record fields)).toList.length + 1 := by
    rw [toList_write_record, List.length_cons, List.length_append]
    omega
  have hbrace : isBlank '{' = false := rfl
  have hmark : ¬ some '{' = some (Char.ofNat 0xFEFF) := by decide
  obtain ⟨j, hread⟩ := h.readValue hsome hfuel (depthLimit - 1) 0 []
  rw [← toList_write_record] at hread
  rw [read, toList_write_record, List.head?_cons, if_neg hmark, readChars, skip_of_head hbrace,
    ← toList_write_record]
  exact congrArg (· >>= _) hread

/-! ## Written in ASCII -/

theorem Piece.isAscii [Halves] {v w : Value} (h : Piece v w) :
    Text.IsAscii (write compact v).toList := by
  cases h with
  | @whole n hdigits =>
      have hdigit : ∀ c : Char, Decimal.isDigit c = true → c.toNat < 128 := by
        intro c hc
        simp only [Decimal.isDigit, Bool.and_eq_true, decide_eq_true_eq] at hc
        have hle : c.toNat ≤ '9'.toNat := hc.2
        exact Nat.lt_of_le_of_lt hle (by decide)
      have hdigits : Text.IsAscii (Nat.toDigits 10 n.natAbs) :=
        fun c hc => hdigit c (Decimal.isDigit_of_mem_toDigits hc)
      rw [write]
      rcases Decimal.wholeText_cases n with ⟨-, htext⟩ | ⟨-, htext⟩
      · exact htext ▸ .cons (by decide) hdigits
      · exact htext ▸ hdigits
  | text s => exact isAscii_quoteBy s

theorem Pieces.isAscii [Halves] {fields back : Fields} (h : Pieces fields back) :
    Text.IsAscii (write compact (.record fields)).toList := by
  have hcomma : ∀ c ∈ [','], c.toNat < 128 := List.forall_mem_singleton.mpr (by decide)
  have hparts : ∀ part ∈ fields.map fieldText, ∀ c ∈ part, c.toNat < 128 := by
    induction h with
    | nil => simp
    | cons name hv h ih =>
        rw [List.map_cons, List.forall_mem_cons]
        exact ⟨(isAscii_quoteBy _).append (.cons (by decide) hv.isAscii), ih⟩
  rw [toList_write_record]
  exact .cons (by decide)
    (Text.IsAscii.append ((forall_mem_intercalate hcomma _).mpr hparts) (.cons (by decide) .nil))

end Scriptorium.Json

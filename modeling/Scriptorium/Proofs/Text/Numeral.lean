import Mathlib.Data.List.TakeDrop
import Mathlib.Data.List.TakeWhile
import Scriptorium.Ident
import Scriptorium.Proofs.Decimal
import Scriptorium.Text.Numeral
set_option autoImplicit false

/-!
# Numerals and identifiers

The text of a whole number is read back as the number, while the text of an identifier never is a
numeral: a dash stands behind its first eight digits.
-/

namespace Scriptorium.Text

/-! ## Texts without blanks -/

/-- A visible ASCII character. -/
def IsVisible (c : Char) : Prop := 33 ≤ c.toNat ∧ c.toNat < 128

instance (c : Char) : Decidable (IsVisible c) := inferInstanceAs (Decidable (_ ∧ _))

/-- Visible ASCII characters are neither blanks nor digits of another script. -/
theorem plain_of_isVisible {c : Char} (hc : IsVisible c) :
    isNumeralBlank c = false ∧ plainDigits [c] = [c] := by
  have hall : ∀ n < 128, 33 ≤ n →
      isNumeralBlank (Char.ofNat n) = false ∧ plainDigits [Char.ofNat n] = [Char.ofNat n] := by
    decide +kernel
  have hcode := hall c.toNat hc.2 hc.1
  rwa [Char.ofNat_toNat] at hcode

theorem dropWhile_blanks {cs : List Char} (hcs : ∀ c ∈ cs, IsVisible c) :
    cs.dropWhile isNumeralBlank = cs := by
  cases cs with
  | nil => rfl
  | cons c rest =>
      exact List.dropWhile_cons_of_neg (by simp [(plain_of_isVisible (hcs c (by simp))).1])

/-- A text of visible ASCII characters is the text of a number as it is. -/
theorem numeralText_of_isVisible {cs : List Char} (hcs : ∀ c ∈ cs, IsVisible c) :
    numeralText cs = cs := by
  have hreverse : ∀ c ∈ cs.reverse, IsVisible c := fun c hc => hcs c (List.mem_reverse.mp hc)
  have hdigits : ∀ ds : List Char, (∀ c ∈ ds, IsVisible c) → plainDigits ds = ds := by
    intro ds hds
    induction ds with
    | nil => rfl
    | cons c rest ih =>
        obtain ⟨hc, hrest⟩ := List.forall_mem_cons.mp hds
        have hhead := (List.cons.inj (plain_of_isVisible hc).2).1
        have htail := ih hrest
        simp only [plainDigits, List.map_cons] at htail ⊢
        rw [htail]
        exact congrArg (· :: rest) hhead
  rw [numeralText, dropWhile_blanks hcs, dropWhile_blanks hreverse, List.reverse_reverse,
    hdigits cs hcs]

/-! ## Whole numbers -/

theorem isVisible_of_isDigit {c : Char} (hc : Decimal.isDigit c = true) : IsVisible c := by
  simp only [Decimal.isDigit, Bool.and_eq_true, decide_eq_true_eq] at hc
  have hlow : '0'.toNat ≤ c.toNat := hc.1
  have hhigh : c.toNat ≤ '9'.toNat := hc.2
  exact ⟨Nat.le_trans (by decide) hlow, Nat.lt_of_le_of_lt hhigh (by decide)⟩

/-- Digits alone have no underscores to take out. -/
theorem withoutUnderscores_digits {ds : List Char} (hds : ∀ c ∈ ds, Decimal.isDigit c = true)
    (after : Bool) : withoutUnderscores Decimal.isDigit after ds = some ds := by
  induction ds generalizing after with
  | nil => rfl
  | cons c rest ih =>
      obtain ⟨hc, hrest⟩ := List.forall_mem_cons.mp hds
      have hunderscore : c ≠ '_' := by
        rintro rfl
        cases hc
      rw [withoutUnderscores.eq_def]
      split
      · rename_i hhead
        cases hhead
      · rename_i hhead
        exact absurd (List.cons.inj hhead).1 hunderscore
      · rename_i hhead
        exact absurd (List.cons.inj hhead).1 hunderscore
      · rename_i hhead
        obtain ⟨rfl, rfl⟩ := List.cons.inj hhead
        rw [ih hrest]
        rfl

/-- Digits, and then something that neither is one nor joins two of them. -/
theorem readWhole_of_digits {s : String} {negative : Bool} {ds rest : List Char}
    (hsign : signOf (numeralText s.toList) = (negative, ds ++ rest))
    (hds : ∀ c ∈ ds, Decimal.isDigit c = true)
    (hstop : ∀ c ∈ rest.head?, Decimal.isDigit c = false ∧ c ≠ '_')
    (hlimit : ds.length ≤ digitLimit) :
    readWhole s =
      if ds.isEmpty || !rest.isEmpty then .error .malformed
      else .ok (if negative then -(Decimal.natOf (ds.map (·.toNat - 48)) : Int)
        else Decimal.natOf (ds.map (·.toNat - 48))) := by
  have hrun : ∀ c ∈ ds, (Decimal.isDigit c || c == '_') = true :=
    fun c hc => by rw [hds c hc, Bool.true_or]
  have htake : rest.takeWhile (fun c => Decimal.isDigit c || c == '_') = [] := by
    cases rest with
    | nil => rfl
    | cons c more => simp [hstop c rfl]
  have hdrop : rest.dropWhile (fun c => Decimal.isDigit c || c == '_') = rest := by
    cases rest with
    | nil => rfl
    | cons c more => simp [hstop c rfl]
  have hspan : (ds ++ rest).span (fun c => Decimal.isDigit c || c == '_') = (ds, rest) := by
    rw [List.span_eq_takeWhile_dropWhile, List.takeWhile_append_of_pos hrun,
      List.dropWhile_append_of_pos hrun, htake, hdrop, List.append_nil]
  have hshort : ¬ digitLimit < ds.length := by omega
  simp only [readWhole, hsign, hspan, withoutUnderscores_digits hds, hshort, if_false]

theorem signOf_of_ne {c : Char} (hminus : c ≠ '-') (hplus : c ≠ '+') (cs : List Char) :
    signOf (c :: cs) = (false, c :: cs) := by
  rw [signOf.eq_def]
  split
  · rename_i hhead
    exact absurd (List.cons.inj hhead).1 hminus
  · rename_i hhead
    exact absurd (List.cons.inj hhead).1 hplus
  · rfl

/-- A whole number is read back, if it has not too many digits. -/
theorem readWhole_wholeText {n : Int} (hlimit : (Nat.toDigits 10 n.natAbs).length ≤ digitLimit) :
    readWhole (Decimal.wholeText n) = .ok n := by
  have hds : ∀ c ∈ Nat.toDigits 10 n.natAbs, Decimal.isDigit c = true :=
    fun c => Decimal.isDigit_of_mem_toDigits
  have hvisible : ∀ c ∈ Nat.toDigits 10 n.natAbs, IsVisible c :=
    fun c hc => isVisible_of_isDigit (hds c hc)
  have hstop : ∀ c ∈ ([] : List Char).head?, Decimal.isDigit c = false ∧ c ≠ '_' := by simp
  have hsome : ((Nat.toDigits 10 n.natAbs).isEmpty || !([] : List Char).isEmpty) = false := by
    simp [Nat.toDigits_ne_nil]
  rcases Decimal.wholeText_cases n with ⟨hneg, htext⟩ | ⟨hnonneg, htext⟩
  · have hsign : signOf (numeralText (Decimal.wholeText n).toList) =
        (true, Nat.toDigits 10 n.natAbs ++ []) := by
      rw [htext, numeralText_of_isVisible (List.forall_mem_cons.mpr ⟨by decide, hvisible⟩),
        List.append_nil]
      rfl
    rw [readWhole_of_digits hsign hds hstop hlimit, Decimal.natOf_toDigits, hsome]
    simp only [Bool.false_eq_true, if_false, if_true]
    exact congrArg Except.ok (by omega)
  · have hsign : signOf (numeralText (Decimal.wholeText n).toList) =
        (false, Nat.toDigits 10 n.natAbs ++ []) := by
      obtain ⟨d, ds, hcons⟩ := List.exists_cons_of_ne_nil
        (Nat.toDigits_ne_nil (n := n.natAbs) (b := 10))
      have hd : Decimal.isDigit d = true := hds d (hcons ▸ List.mem_cons_self)
      rw [htext, numeralText_of_isVisible hvisible, List.append_nil, hcons]
      refine signOf_of_ne ?_ ?_ ds
      · rintro rfl
        cases hd
      · rintro rfl
        cases hd
    rw [readWhole_of_digits hsign hds hstop hlimit, Decimal.natOf_toDigits, hsome]
    simp only [Bool.false_eq_true, if_false]
    exact congrArg Except.ok (by omega)

theorem isVisible_of_mem_wholeText {n : Int} {c : Char}
    (hc : c ∈ (Decimal.wholeText n).toList) : IsVisible c := by
  have hdigits : ∀ d ∈ Nat.toDigits 10 n.natAbs, IsVisible d :=
    fun d hd => isVisible_of_isDigit (Decimal.isDigit_of_mem_toDigits hd)
  rcases Decimal.wholeText_cases n with ⟨-, htext⟩ | ⟨-, htext⟩
  · rw [htext, List.mem_cons] at hc
    rcases hc with rfl | hc
    · decide
    · exact hdigits c hc
  · exact hdigits c (htext ▸ hc)

/-! ## Identifiers -/

theorem length_hexDigits (width n : Nat) : (hexDigits width n).length = width := by
  induction width generalizing n with
  | zero => rfl
  | succ width ih => rw [hexDigits, List.length_append, ih, List.length_singleton]

theorem hexDigit_inj : ∀ m < 16, ∀ n < 16, hexDigit m = hexDigit n → m = n := by decide

/-- Numbers with the same digits are the same as far as these reach. -/
theorem mod_eq_of_hexDigits {width m n : Nat} (h : hexDigits width m = hexDigits width n) :
    m % Nat.pow 16 width = n % Nat.pow 16 width := by
  induction width generalizing m n with
  | zero => exact (Nat.mod_one m).trans (Nat.mod_one n).symm
  | succ width ih =>
      rw [hexDigits, hexDigits] at h
      obtain ⟨hfront, hlast⟩ := List.append_inj h (by rw [length_hexDigits, length_hexDigits])
      have hdigit : m % 16 = n % 16 := by
        apply hexDigit_inj _ (Nat.mod_lt m (by decide)) _ (Nat.mod_lt n (by decide))
        exact List.singleton_inj.mp hlast
      have hpower : Nat.pow 16 (width + 1) = 16 * Nat.pow 16 width := Nat.mul_comm _ _
      rw [hpower, Nat.mod_mul, Nat.mod_mul, hdigit, ih hfront]

/-- As long as the supply lasts, each of its identifiers has digits of its own. -/
theorem eq_of_digits_ofSupply {m n : Nat} (hm : m < Nat.pow 2 48) (hn : n < Nat.pow 2 48)
    (h : (Ident.ofSupply m).digits = (Ident.ofSupply n).digits) : m = n := by
  have hbits : ∀ k < Nat.pow 2 48,
      (Ident.ofSupply k).bits % Nat.pow 16 32 % Nat.pow 2 48 = k := by
    intro k hk
    have hpowers : Nat.pow 2 32 = 4294967296 ∧ Nat.pow 2 48 = 281474976710656 ∧
        Nat.pow 2 64 = 18446744073709551616 ∧ Nat.pow 2 96 = 79228162514264337593543950336 := by
      decide
    obtain ⟨hp32, hp48, hp64, hp96⟩ := hpowers
    rw [Nat.mod_mod_of_dvd _ (by decide)]
    simp only [Ident.ofSupply, hp32, hp48, hp64, hp96] at hk ⊢
    omega
  have hsame := mod_eq_of_hexDigits h
  rw [← hbits m hm, ← hbits n hn, hsame]

/-- A digit of an identifier. -/
def IsHexDigit (c : Char) : Prop := ∃ n < 16, c = hexDigit n

theorem isHexDigit_of_mem {width n : Nat} {c : Char} (hc : c ∈ hexDigits width n) :
    IsHexDigit c := by
  induction width generalizing n with
  | zero => simp [hexDigits] at hc
  | succ width ih =>
      rw [hexDigits, List.mem_append, List.mem_singleton] at hc
      rcases hc with hmem | rfl
      · exact ih hmem
      · exact ⟨n % 16, Nat.mod_lt n (by decide), rfl⟩

theorem IsHexDigit.isVisible {c : Char} (h : IsHexDigit c) : IsVisible c := by
  have hall : ∀ n < 16, 33 ≤ (hexDigit n).toNat ∧ (hexDigit n).toNat < 128 := by decide
  obtain ⟨n, hn, rfl⟩ := h
  exact hall n hn

theorem IsHexDigit.ne {c : Char} (h : IsHexDigit c) : c ≠ '-' ∧ c ≠ '+' ∧ c ≠ '_' := by
  have hall : ∀ n < 16, hexDigit n ≠ '-' ∧ hexDigit n ≠ '+' ∧ hexDigit n ≠ '_' := by decide
  obtain ⟨n, hn, rfl⟩ := h
  exact hall n hn

/-- The text of an identifier: eight digits, a dash, and more digits and dashes. -/
theorem toList_ident (i : Ident) :
    ∃ first more : List Char, i.text.toList = first ++ '-' :: more ∧ first.length = 8 ∧
      (∀ c ∈ first, IsHexDigit c) ∧ ∀ c ∈ more, IsHexDigit c ∨ c = '-' := by
  have hdigits : ∀ c ∈ i.digits, IsHexDigit c := fun c hc => isHexDigit_of_mem hc
  have hdrop : ∀ k, ∀ c ∈ i.digits.drop k, IsHexDigit c :=
    fun k c hc => hdigits c (List.mem_of_mem_drop hc)
  refine ⟨i.digits.take 8, (i.digits.drop 8).take 4 ++ '-' :: ((i.digits.drop 12).take 4 ++
    '-' :: ((i.digits.drop 16).take 4 ++ '-' :: i.digits.drop 20)), ?_, ?_, ?_, ?_⟩
  · simp [Ident.text]
  · rw [List.length_take, Ident.digits, length_hexDigits]
    rfl
  · exact fun c hc => hdigits c (List.mem_of_mem_take hc)
  · intro c hc
    simp only [List.mem_append, List.mem_cons] at hc
    rcases hc with hc | rfl | hc | rfl | hc | rfl | hc
    · exact .inl (hdrop 8 c (List.mem_of_mem_take hc))
    · exact .inr rfl
    · exact .inl (hdrop 12 c (List.mem_of_mem_take hc))
    · exact .inr rfl
    · exact .inl (hdrop 16 c (List.mem_of_mem_take hc))
    · exact .inr rfl
    · exact .inl (hdrop 20 c hc)

theorem isVisible_of_mem_ident {i : Ident} {c : Char} (hc : c ∈ i.text.toList) : IsVisible c := by
  obtain ⟨first, more, htext, -, hfirst, hmore⟩ := toList_ident i
  rw [htext, List.mem_append, List.mem_cons] at hc
  rcases hc with hc | rfl | hc
  · exact (hfirst c hc).isVisible
  · decide
  · rcases hmore c hc with hdigit | rfl
    · exact hdigit.isVisible
    · decide

/-- No identifier is a numeral. -/
theorem readWhole_ident (i : Ident) : readWhole i.text = .error .malformed := by
  obtain ⟨first, more, htext, hlength, hfirst, -⟩ := toList_ident i
  -- the numeral would end at the first letter, or else at the dash
  obtain ⟨ds, letters, hsplit, hds, hletters⟩ : ∃ ds letters, first = ds ++ letters ∧
      (∀ c ∈ ds, Decimal.isDigit c = true) ∧ ∀ c ∈ letters.head?, Decimal.isDigit c = false := by
    refine ⟨first.takeWhile Decimal.isDigit, first.dropWhile Decimal.isDigit,
      List.takeWhile_append_dropWhile.symm, fun c hc => List.mem_takeWhile_imp hc, ?_⟩
    intro c hc
    have hhead := List.head?_dropWhile_not Decimal.isDigit first
    rw [hc] at hhead
    simpa using hhead
  have hstop : ∀ c ∈ (letters ++ '-' :: more).head?, Decimal.isDigit c = false ∧ c ≠ '_' := by
    intro c hc
    cases letters with
    | nil =>
        obtain rfl : '-' = c := Option.some.inj hc
        decide
    | cons letter rest =>
        obtain rfl : letter = c := Option.some.inj hc
        exact ⟨hletters letter rfl, (hfirst letter (by rw [hsplit]; simp)).ne.2.2⟩
  have hsign : signOf (numeralText i.text.toList) = (false, ds ++ (letters ++ '-' :: more)) := by
    rw [numeralText_of_isVisible fun c => isVisible_of_mem_ident, htext, ← List.append_assoc,
      ← hsplit]
    cases first with
    | nil => cases hlength
    | cons c rest =>
        obtain ⟨hminus, hplus, -⟩ := (hfirst c List.mem_cons_self).ne
        exact signOf_of_ne hminus hplus _
  have hlimit : ds.length ≤ digitLimit := by
    rw [hsplit, List.length_append] at hlength
    exact Nat.le_trans (Nat.le_of_add_right_le (Nat.le_of_eq hlength)) (by decide)
  have hrest : (ds.isEmpty || !(letters ++ '-' :: more).isEmpty) = true := by simp
  rw [readWhole_of_digits hsign hds hstop hlimit, hrest, if_pos rfl]

end Scriptorium.Text

import Scriptorium.Json.Reader
import Scriptorium.Json.Writer
import Scriptorium.Proofs.Text.Bytes
set_option autoImplicit false

/-!
# Strings that are written and read

A string is written unit by unit, each 16-bit unit as an ASCII character, a short escape or an
escape by its code.  Reading takes the units back and puts halves together, so that it gives the
characters of the units: the text itself, unless it holds two halves one after the other.
-/

namespace Scriptorium.Key

variable [Halves] {name : String}

/-- The name of a key that is no text is not in ASCII. -/
theorem not_isAscii_marked (written : String) : ¬ Text.IsAscii (marked written).toList := by
  have hmark : 128 ≤ mark.toNat := by
    unfold mark
    split
    · rename_i b _
      have hstart : 0xF0000 ≤ Text.Half.start b ∧ Text.Half.start b < 0x10F001 := by
        rw [Text.Half.start, Text.Half.privatePlanes]
        omega
      have hcode : (Char.ofNat (Text.Half.start b + 0x800)).toNat = Text.Half.start b + 0x800 := by
        rw [Char.ofNat, dif_pos (.inr (by omega))]
        rfl
      omega
    · decide
  intro h
  have hlow : mark.toNat < 128 := h mark (by simp [marked])
  omega

variable (h : Text.IsAscii name.toList)

include h

/-- A name in ASCII is that of a text. -/
theorem unmarked?_of_isAscii : unmarked? name = none := by
  unfold unmarked?
  split
  · rename_i c rest hname
    have hc : c.toNat < 128 := h c (hname ▸ List.mem_cons_self)
    exact if_neg fun hmark => absurd hmark.1 (by rw [Text.Half.privatePlanes]; omega)
  · rfl

theorem written_of_isAscii : written name = name := by
  rw [written, unmarked?_of_isAscii h, Option.getD_none]

theorem isUnbounded_of_isAscii : isUnbounded name = false := by
  rw [isUnbounded, unmarked?_of_isAscii h]

/-- A name in ASCII is read back as it is written. -/
theorem joined_written : Text.Half.joined (written name) = name := by
  rw [written_of_isAscii h, Text.Half.joined_of_isAscii h]

end Scriptorium.Key

namespace Scriptorium.Json

open Text.Half

/-! ## Hexadecimal digits -/

theorem hexDigit?_hexDigit : ∀ n < 16, hexDigit? (Text.hexDigit n) = some n := by decide

theorem hexDigits_four (unit : Nat) :
    Text.hexDigits 4 unit = [Text.hexDigit (unit / 4096 % 16), Text.hexDigit (unit / 256 % 16),
      Text.hexDigit (unit / 16 % 16), Text.hexDigit (unit % 16)] := by
  simp [Text.hexDigits, Nat.div_div_eq_div_mul]

theorem hexQuad?_hexDigits {unit : Nat} (hunit : unit < 65536) :
    hexQuad? (Text.hexDigit (unit / 4096 % 16)) (Text.hexDigit (unit / 256 % 16))
      (Text.hexDigit (unit / 16 % 16)) (Text.hexDigit (unit % 16)) = some unit := by
  have hdigit : ∀ n, hexDigit? (Text.hexDigit (n % 16)) = some (n % 16) :=
    fun n => hexDigit?_hexDigit (n % 16) (Nat.mod_lt n (by decide))
  simp only [hexQuad?, hdigit, bind, Option.bind, pure]
  exact congrArg some (by omega)

/-! ## Written units -/

/-- The written form of one unit. -/
def unitText [Halves] (unit : Nat) : List Char :=
  if unit < 128 then escapeChar true (Char.ofNat unit) else escapeUnit unit

/-- What the written form of a unit can be. -/
inductive UnitForm [Halves] (unit : Nat) : List Char → Prop where
  | plain {c : Char} (hcode : charOf unit = c) (hquote : c ≠ '"') (hslash : c ≠ '\\')
      (hcontrol : 0x1F < c.toNat) : UnitForm unit [c]
  | short {e c : Char} (hcode : charOf unit = c) (hescape : shortEscape? e = some c)
      (hu : e ≠ 'u') : UnitForm unit ['\\', e]
  | code (hunit : unit < 65536) : UnitForm unit (escapeUnit unit)

theorem unitForm_unitText [Halves] {unit : Nat} (hunit : unit < 65536) :
    UnitForm unit (unitText unit) := by
  unfold unitText
  split
  · rename_i hascii
    have hcode : charOf unit = Char.ofNat unit := charOf_of_not_half (by omega)
    have hcodeNat : (Char.ofNat unit).toNat = unit := by
      rw [Char.ofNat, dif_pos (Or.inl (by omega))]
      rfl
    have hunits : units (Char.ofNat unit) = [unit] := by
      rw [units_ascii (by omega), hcodeNat]
    generalize Char.ofNat unit = c at hcode hcodeNat hunits
    unfold escapeChar
    split
    · exact .short hcode rfl (by decide)
    · exact .short hcode rfl (by decide)
    · exact .short hcode rfl (by decide)
    · exact .short hcode rfl (by decide)
    · exact .short hcode rfl (by decide)
    · exact .short hcode rfl (by decide)
    · exact .short hcode rfl (by decide)
    · rename_i hquote hslash _ _ _ _ _
      split
      · rename_i hprinted
        exact .plain hcode hquote hslash (by omega)
      · rw [hunits, List.flatMap_singleton]
        exact .code hunit
  · exact .code hunit

/-- A character is written unit by unit. -/
theorem escapeChar_eq_flatMap [Halves] (c : Char) :
    escapeChar true c = (units c).flatMap unitText := by
  by_cases hascii : c.toNat < 128
  · rw [units_ascii hascii, List.flatMap_singleton, unitText, if_pos hascii, Char.ofNat_toNat]
  · have hescaped : escapeChar true c = (units c).flatMap escapeUnit := by
      unfold escapeChar
      split
      · exact absurd (by decide) hascii
      · exact absurd (by decide) hascii
      · exact absurd (by decide) hascii
      · exact absurd (by decide) hascii
      · exact absurd (by decide) hascii
      · exact absurd (by decide) hascii
      · exact absurd (by decide) hascii
      · rw [if_neg]
        simp only [Bool.not_true, Bool.false_eq_true, or_false]
        omega
    rw [hescaped, List.flatMap_def, List.flatMap_def, List.map_congr_left]
    intro unit hunit
    have hbeyond := (lt_of_mem_units hunit).2 (by omega)
    rw [unitText, if_neg (by omega)]

/-! ## Reading units -/

/-- What follows a unit is the second half of a pair only if it is the escape of one. -/
theorem secondHalf_unitText [Halves] {unit : Nat} {cs : List Char} (hform : UnitForm unit cs)
    (htrailing : isTrailing unit = false) (next : Char) (more : List Char) :
    secondHalf (cs ++ next :: more) = .absent := by
  cases hform with
  | plain hcode hquote hslash hcontrol =>
      rw [List.singleton_append, secondHalf.eq_def]
      split
      · rename_i hhead
        exact absurd (List.cons.inj hhead).1 hslash
      · rfl
  | short hcode hescape hu =>
      rw [List.cons_append, List.singleton_append, secondHalf.eq_def]
      split
      · rename_i hhead
        exact absurd (List.cons.inj (List.cons.inj hhead).2).1 hu
      · rfl
  | code hunit =>
      rw [escapeUnit, hexDigits_four]
      simp only [List.cons_append, List.nil_append, secondHalf, hexQuad?_hexDigits hunit, htrailing,
        Bool.false_eq_true, if_false]

theorem readString_unit [Halves] {unit : Nat} {cs : List Char} (hform : UnitForm unit cs)
    (start i : Nat) (done : List Char) {next : Char} {more : List Char}
    (hsecond : isLeading unit = true → secondHalf (next :: more) = .absent) :
    ∃ j, readString start (cs ++ next :: more) i done =
      readString start (next :: more) j (charOf unit :: done) := by
  cases hform with
  | plain hcode hquote hslash hcontrol =>
      refine ⟨i + 1, ?_⟩
      rw [List.singleton_append, readString.eq_def, hcode]
      split
      · rename_i hhead
        exact absurd (List.cons.inj hhead).1 hquote
      · rename_i hhead
        exact absurd (List.cons.inj hhead).1 hslash
      · rename_i hhead
        exact absurd (List.cons.inj hhead).1 hslash
      · rename_i hhead
        obtain ⟨rfl, rfl⟩ := List.cons.inj hhead
        rw [if_neg hslash, if_neg (by omega)]
      · rename_i hhead
        cases hhead
  | short hcode hescape hu =>
      refine ⟨i + 2, ?_⟩
      rw [List.cons_append, List.singleton_append, readString.eq_def, hcode]
      split
      · rename_i hhead
        cases (List.cons.inj hhead).1
      · rename_i hhead
        exact absurd (List.cons.inj (List.cons.inj hhead).2).1 hu
      · rename_i hhead
        obtain ⟨rfl, rfl⟩ := List.cons.inj (List.cons.inj hhead).2
        simp only [hu, if_false, hescape]
      · rename_i hnoescape hhead
        obtain ⟨rfl, rfl⟩ := List.cons.inj hhead
        exact (hnoescape _ _ rfl rfl).elim
      · rename_i hhead
        cases hhead
  | code hunit =>
      refine ⟨i + 6, ?_⟩
      rw [escapeUnit, hexDigits_four]
      simp only [List.cons_append, List.nil_append]
      rw [readString]
      simp only [hexQuad?_hexDigits hunit]
      split
      · rename_i hleading
        simp only [hsecond hleading]
      · rfl

/-- Two halves are read as one character. -/
theorem readString_pair [Halves] {leading trailing : Nat} (hleading : isLeading leading = true)
    (htrailing : isTrailing trailing = true) (start i : Nat) (done : List Char) (next : Char)
    (more : List Char) :
    ∃ j, readString start (unitText leading ++ (unitText trailing ++ next :: more)) i done =
      readString start (next :: more) j (Char.ofNat (join leading trailing) :: done) := by
  have hfirst : 0xD800 ≤ leading ∧ leading ≤ 0xDBFF := by simpa [isLeading] using hleading
  have hsecond : 0xDC00 ≤ trailing ∧ trailing ≤ 0xDFFF := by simpa [isTrailing] using htrailing
  have hfirstText : unitText leading = escapeUnit leading := if_neg (by omega)
  have hsecondText : unitText trailing = escapeUnit trailing := if_neg (by omega)
  refine ⟨i + 12, ?_⟩
  rw [hfirstText, hsecondText, escapeUnit, escapeUnit, hexDigits_four, hexDigits_four]
  simp only [List.cons_append, List.nil_append]
  rw [readString]
  simp only [hexQuad?_hexDigits (show leading < 65536 by omega), secondHalf,
    hexQuad?_hexDigits (show trailing < 65536 by omega), hleading, htrailing, if_true,
    List.drop_succ_cons, List.drop_zero]

/-- What is written unit by unit is read as the characters of the units. -/
theorem readString_units [Halves] {us : List Nat} (hus : ∀ unit ∈ us, unit < 65536) (start i : Nat)
    (done rest : List Char) :
    ∃ j, readString start (us.flatMap unitText ++ '"' :: rest) i done =
      .ok (String.ofList (done.reverse ++ ofUnits us), ⟨rest, j⟩) := by
  -- the closing quote stands behind, so that there is always a character to go on with
  have htail : ∀ us : List Nat, ∃ next more, us.flatMap unitText ++ '"' :: rest = next :: more :=
    fun us => List.exists_cons_of_ne_nil (by simp)
  fun_induction ofUnits us generalizing i done with
  | case1 a b us hpair ih =>
      rw [Bool.and_eq_true] at hpair
      obtain ⟨next, more, hnext⟩ := htail us
      obtain ⟨j, hread⟩ := readString_pair hpair.1 hpair.2 start i done next more
      obtain ⟨k, hrest⟩ := ih (fun unit hunit => hus unit (by simp [hunit])) j
        (Char.ofNat (join a b) :: done)
      refine ⟨k, ?_⟩
      rw [List.flatMap_cons, List.flatMap_cons, List.append_assoc, List.append_assoc, hnext, hread,
        ← hnext, hrest, List.reverse_cons, List.append_assoc]
      rfl
  | case2 a b us hpair ih =>
      obtain ⟨next, more, hnext⟩ := htail (b :: us)
      have hsecond : isLeading a = true → secondHalf (next :: more) = .absent := by
        intro hleading
        have htrailing : isTrailing b = false := by simpa [hleading] using hpair
        obtain ⟨second, later, hlater⟩ := htail us
        rw [← hnext, List.flatMap_cons, List.append_assoc, hlater]
        exact secondHalf_unitText (unitForm_unitText (hus b (by simp))) htrailing second later
      obtain ⟨j, hread⟩ :=
        readString_unit (unitForm_unitText (hus a (by simp))) start i done hsecond
      obtain ⟨k, hrest⟩ := ih (fun unit hunit => hus unit (List.mem_cons_of_mem a hunit)) j
        (charOf a :: done)
      refine ⟨k, ?_⟩
      rw [List.flatMap_cons, List.append_assoc, hnext, hread, ← hnext, hrest, List.reverse_cons,
        List.append_assoc]
      rfl
  | case3 a =>
      have hclosing : isLeading a = true → secondHalf ('"' :: rest) = .absent := fun _ => rfl
      obtain ⟨j, hread⟩ :=
        readString_unit (unitForm_unitText (hus a (by simp))) start i done hclosing
      refine ⟨j + 1, ?_⟩
      rw [List.flatMap_singleton, hread, readString, List.reverse_cons]
  | case4 =>
      refine ⟨i + 1, ?_⟩
      rw [List.flatMap_nil, List.nil_append, readString, List.append_nil]

/-- A written text is read as the text with its halves put together. -/
theorem readString_quoted [Halves] (s : String) (start i : Nat) (rest : List Char) :
    ∃ j, readString start (s.toList.flatMap (escapeChar true) ++ '"' :: rest) i [] =
      .ok (Text.Half.joined s, ⟨rest, j⟩) := by
  have hwritten : s.toList.flatMap (escapeChar true) =
      (s.toList.flatMap units).flatMap unitText := by
    rw [List.flatMap_assoc]
    exact congrArg (List.flatMap · s.toList) (funext escapeChar_eq_flatMap)
  rw [hwritten]
  refine readString_units ?_ start i [] rest
  intro unit hunit
  obtain ⟨c, -, hmem⟩ := List.mem_flatMap.mp hunit
  exact (lt_of_mem_units hmem).1

/-! ## Written in ASCII -/

theorem isAscii_escapeUnit (unit : Nat) : Text.IsAscii (escapeUnit unit) := by
  have hdigit : ∀ n < 16, (Text.hexDigit n).toNat < 128 := by decide
  have hmod : ∀ n, (Text.hexDigit (n % 16)).toNat < 128 :=
    fun n => hdigit (n % 16) (Nat.mod_lt n (by decide))
  rw [escapeUnit, hexDigits_four]
  exact .cons (by decide) (.cons (by decide) (.cons (hmod _) (.cons (hmod _) (.cons (hmod _)
    (.cons (hmod _) .nil)))))

theorem isAscii_escapeChar [Halves] (c : Char) : Text.IsAscii (escapeChar true c) := by
  have hshort : ∀ e : Char, e.toNat < 128 → Text.IsAscii ['\\', e] :=
    fun e he => .cons (by decide) (.cons he .nil)
  unfold escapeChar
  split
  · exact hshort '"' (by decide)
  · exact hshort '\\' (by decide)
  · exact hshort 'n' (by decide)
  · exact hshort 'r' (by decide)
  · exact hshort 't' (by decide)
  · exact hshort 'b' (by decide)
  · exact hshort 'f' (by decide)
  · split
    · rename_i hprinted
      refine .cons ?_ .nil
      simp only [Bool.not_true, Bool.false_eq_true, or_false] at hprinted
      omega
    · intro d hd
      obtain ⟨unit, -, hmem⟩ := List.mem_flatMap.mp hd
      exact isAscii_escapeUnit unit d hmem

theorem isAscii_quoteBy [Halves] (s : String) : Text.IsAscii (quoteBy true s).toList := by
  have hquote : Text.IsAscii ['"'] := .cons (by decide) .nil
  have hescaped : Text.IsAscii (s.toList.flatMap (escapeChar true)) := by
    intro c hc
    obtain ⟨written, -, hmem⟩ := List.mem_flatMap.mp hc
    exact isAscii_escapeChar written c hmem
  have htext : (quoteBy true s).toList =
      ['"'] ++ s.toList.flatMap (escapeChar true) ++ ['"'] := by
    simp [quoteBy]
  rw [htext]
  exact (hquote.append hescaped).append hquote

end Scriptorium.Json

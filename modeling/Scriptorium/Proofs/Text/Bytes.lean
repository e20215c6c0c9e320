import Mathlib.Data.List.Chain
import Mathlib.Data.List.TakeDrop
import Mathlib.Data.List.TakeWhile
import Scriptorium.Digest.Block
import Scriptorium.Text.Utf8
set_option autoImplicit false

/-!
# Texts, their units and their bytes

A character is one 16-bit unit or two halves of a pair.  Taking the units of a text and then the
characters of the units puts together whatever halves stand next to each other; a text without
halves comes back as it was.

A text has bytes unless it holds a half of a pair.  A text of ASCII characters has a byte for each
of them, and decoding the bytes gives the characters back.
-/

namespace Scriptorium

/-! ## Units of characters -/

namespace Text.Half

theorem isLeading_eq_false {code : Nat} (hcode : code < 0xD800 ∨ 0xDFFF < code) :
    isLeading code = false := by
  simp only [isLeading, Bool.and_eq_false_iff, decide_eq_false_iff_not]
  omega

theorem isTrailing_eq_false {code : Nat} (hcode : code < 0xD800 ∨ 0xDFFF < code) :
    isTrailing code = false := by
  simp only [isTrailing, Bool.and_eq_false_iff, decide_eq_false_iff_not]
  omega

theorem charOf_of_not_half [Halves] {code : Nat} (hcode : code < 0xD800 ∨ 0xDFFF < code) :
    charOf code = Char.ofNat code := by
  simp only [charOf, isLeading_eq_false hcode, isTrailing_eq_false hcode, Bool.or_self,
    Bool.false_eq_true, if_false]

theorem toNat_cases (c : Char) : c.toNat < 0xD800 ∨ 0xDFFF < c.toNat ∧ c.toNat < 0x110000 :=
  c.valid

theorem unit?_ascii [Halves] {c : Char} (hc : c.toNat < 128) : unit? c = none := by
  refine if_pos ?_
  rw [privatePlanes]
  omega

/-- A half is a unit between the last one before the halves and the first one behind them, and the
character that keeps it is determined by it. -/
theorem eq_of_unit? [Halves] {c : Char} {unit : Nat} (h : unit? c = some unit) :
    0xD800 ≤ unit ∧ unit ≤ 0xDFFF ∧ toChar unit = c := by
  unfold unit? at h
  split at h
  · cases h
  · obtain ⟨b, hblock, h⟩ := Option.bind_eq_some_iff.mp h
    split at h
    · rename_i harea
      obtain rfl := Option.some.inj h
      have hcode : start b + (c.toNat - start b + first - first) = c.toNat := by omega
      refine ⟨by unfold first; omega, by unfold first; omega, ?_⟩
      rw [toChar, hblock]
      simp only [hcode, Char.ofNat_toNat]
    · cases h

theorem isHalf_ascii [Halves] {c : Char} (hc : c.toNat < 128) : isHalf c = false := by
  rw [isHalf, unit?_ascii hc, Option.isSome_none]

/-- An ASCII character is one unit. -/
theorem units_ascii [Halves] {c : Char} (hc : c.toNat < 128) : units c = [c.toNat] := by
  have hplane : c.toNat < 0x10000 := by omega
  simp only [units, unit?_ascii hc, hplane, if_true]

/-- The units of a character fit in 16 bits; beyond ASCII they are beyond ASCII. -/
theorem lt_of_mem_units [Halves] {c : Char} {unit : Nat} (hunit : unit ∈ units c) :
    unit < 65536 ∧ (128 ≤ c.toNat → 128 ≤ unit) := by
  have hc := toNat_cases c
  unfold units at hunit
  split at hunit
  · rename_i kept hkept
    rw [List.mem_singleton] at hunit
    obtain ⟨hlow, hhigh, -⟩ := eq_of_unit? hkept
    omega
  · simp only at hunit
    split at hunit
    · rw [List.mem_singleton] at hunit
      omega
    · simp only [List.mem_cons, List.not_mem_nil, or_false] at hunit
      omega

/-- A text that is the first half of a pair and nothing else. -/
def alone [Halves] : String := String.singleton (toChar 0xD83D)

/-- A text whose halves are put together wherever they make a pair. -/
def joined [Halves] (s : String) : String := String.ofList (ofUnits (s.toList.flatMap units))

/-- The units of a character that keeps no half give the character back. -/
theorem ofUnits_units_append [Halves] {c : Char} (hwhole : isHalf c = false) (us : List Nat) :
    ofUnits (units c ++ us) = c :: ofUnits us := by
  have hkept : unit? c = none := by simpa [isHalf] using hwhole
  have hc := toNat_cases c
  simp only [units, hkept]
  split
  · -- one unit, which is no half
    have hwholeCode : c.toNat < 0xD800 ∨ 0xDFFF < c.toNat := by omega
    have hchar : charOf c.toNat = c := by rw [charOf_of_not_half hwholeCode, Char.ofNat_toNat]
    cases us with
    | nil => simp only [List.append_nil, ofUnits, hchar]
    | cons b rest =>
        simp only [List.singleton_append, ofUnits, isLeading_eq_false hwholeCode,
          Bool.false_and, Bool.false_eq_true, if_false, hchar]
  · -- two halves, which are put together again
    have hleading : isLeading (0xD800 + (c.toNat - 0x10000) / 0x400) = true := by
      simp only [isLeading, Bool.and_eq_true, decide_eq_true_eq]
      omega
    have htrailing : isTrailing (0xDC00 + (c.toNat - 0x10000) % 0x400) = true := by
      simp only [isTrailing, Bool.and_eq_true, decide_eq_true_eq]
      omega
    have hjoin : join (0xD800 + (c.toNat - 0x10000) / 0x400)
        (0xDC00 + (c.toNat - 0x10000) % 0x400) = c.toNat := by
      unfold join
      omega
    simp only [List.cons_append, List.nil_append, ofUnits, hleading, htrailing, Bool.and_self,
      if_true, hjoin, Char.ofNat_toNat]

/-- A text without halves is not changed. -/
theorem joined_of_whole [Halves] {s : String} (hwhole : ∀ c ∈ s.toList, isHalf c = false) :
    joined s = s := by
  have hunits : ∀ cs : List Char, (∀ c ∈ cs, isHalf c = false) →
      ofUnits (cs.flatMap units) = cs := by
    intro cs hcs
    induction cs with
    | nil => rfl
    | cons c rest ih =>
        obtain ⟨hc, hrest⟩ := List.forall_mem_cons.mp hcs
        rw [List.flatMap_cons, ofUnits_units_append hc, ih hrest]
  rw [joined, hunits s.toList hwhole, String.ofList_toList]

section Plain

open scoped Halves.Plain

/-- Plain texts have no halves. -/
theorem isHalf_plain (c : Char) : isHalf c = false := by
  have hblock : Halves.block = none := rfl
  simp [isHalf, unit?, hblock]

theorem joined_plain (s : String) : joined s = s :=
  joined_of_whole fun c _ => isHalf_plain c

end Plain

end Text.Half

/-! ## Bytes of texts -/

/-- A property of all characters of parts that are written one behind the other. -/
theorem forall_mem_intercalate {P : Char → Prop} {comma : List Char} (hcomma : ∀ c ∈ comma, P c)
    (parts : List (List Char)) :
    (∀ c ∈ comma.intercalate parts, P c) ↔ ∀ part ∈ parts, ∀ c ∈ part, P c := by
  induction parts with
  | nil => simp [List.intercalate]
  | cons first rest ih =>
      cases rest with
      | nil => simp [List.intercalate_singleton]
      | cons second more =>
          rw [List.intercalate_cons_cons, List.forall_mem_append, List.forall_mem_append, ih,
            List.forall_mem_cons (a := first)]
          exact ⟨fun h => ⟨h.1.1, h.2⟩, fun h => ⟨⟨h.1, hcomma⟩, h.2⟩⟩

namespace Text

theorem Utf8.encodeError?_eq_none_iff [Halves] (s : String) :
    Utf8.encodeError? s = none ↔ ∀ c ∈ s.toList, Half.isHalf c = false := by
  have hall : (∀ c ∈ s.toList, Half.isHalf c = false) ↔
      (s.toList.dropWhile fun c => !Half.isHalf c) = [] := by
    simp [List.dropWhile_eq_nil_iff]
  rw [hall]
  unfold Utf8.encodeError? Utf8.encodeErrorBeyond?
  rw [List.span_eq_takeWhile_dropWhile]
  simp only [Bool.or_false]
  cases s.toList.dropWhile fun c => !Half.isHalf c with
  | nil => simp
  | cons c rest => simp

/-! ## ASCII texts -/

/-- Every character is an ASCII character. -/
def IsAscii (cs : List Char) : Prop := ∀ c ∈ cs, c.toNat < 128

instance (cs : List Char) : Decidable (IsAscii cs) :=
  decidable_of_iff (cs.all (·.toNat < 128) = true) (by simp [IsAscii])

namespace IsAscii

variable {cs ds : List Char}

theorem nil : IsAscii [] := by simp [IsAscii]

theorem cons {c : Char} (hc : c.toNat < 128) (h : IsAscii cs) : IsAscii (c :: cs) :=
  List.forall_mem_cons.mpr ⟨hc, h⟩

theorem append (h : IsAscii cs) (h' : IsAscii ds) : IsAscii (cs ++ ds) :=
  List.forall_mem_append.mpr ⟨h, h'⟩

theorem isHalf_eq_false [Halves] (h : IsAscii cs) : ∀ c ∈ cs, Half.isHalf c = false :=
  fun c hc => Half.isHalf_ascii (h c hc)

end IsAscii

/-- An ASCII text is not changed when its halves are joined: it has none. -/
theorem Half.joined_of_isAscii [Halves] {s : String} (h : IsAscii s.toList) : joined s = s :=
  joined_of_whole h.isHalf_eq_false

/-- The bytes of an array from an index on, behind those that are there in reverse. -/
theorem toList_loop (bytes : ByteArray) (i : Nat) (done : List UInt8) :
    ByteArray.toList.loop bytes i done = done.reverse ++ bytes.data.toList.drop i := by
  fun_induction ByteArray.toList.loop bytes i done with
  | case1 i done hlt ih =>
      have hsize : i < bytes.data.toList.length := hlt
      have hget : bytes.get! i = bytes.data.toList[i] := by
        rw [ByteArray.get!, getElem!_pos bytes.data i hlt, Array.getElem_toList]
      rw [ih, List.drop_eq_getElem_cons hsize, List.reverse_cons, List.append_assoc, hget]
      rfl
  | case2 i done hge =>
      have hsize : bytes.data.toList.length ≤ i := Nat.le_of_not_lt hge
      rw [List.drop_eq_nil_of_le hsize, List.append_nil]

theorem bytesOf_ofList (cs : List Char) :
    Digest.bytesOf (String.ofList cs) = cs.flatMap String.utf8EncodeChar := by
  rw [Digest.bytesOf, ByteArray.toList, toList_loop]
  simp [String.toUTF8, List.utf8Encode]

theorem utf8EncodeChar_ascii {c : Char} (hc : c.toNat < 128) :
    String.utf8EncodeChar c = [UInt8.ofNat c.toNat] := by
  have hle : c.val.toNat ≤ 127 := Nat.le_of_lt_succ hc
  simp only [String.utf8EncodeChar, hle, if_true]
  rfl

section Ascii

variable {cs : List Char} (h : IsAscii cs)

include h

theorem bytesOf_ascii :
    Digest.bytesOf (String.ofList cs) = cs.map fun c => UInt8.ofNat c.toNat := by
  rw [bytesOf_ofList]
  induction cs with
  | nil => rfl
  | cons c rest ih =>
      obtain ⟨hc, hrest⟩ := List.forall_mem_cons.mp h
      rw [List.flatMap_cons, utf8EncodeChar_ascii hc, ih hrest]
      rfl

theorem utf8ByteSize_ascii : (String.ofList cs).utf8ByteSize = cs.length := by
  have hbytes := congrArg List.length (bytesOf_ascii h)
  rw [bytesOf_ofList, List.length_map] at hbytes
  rw [String.utf8ByteSize, String.toByteArray_ofList, List.utf8Encode, List.size_toByteArray]
  exact hbytes

/-- The bytes of an ASCII text are decoded one by one. -/
theorem decodeFrom_ascii {fuel : Nat} (hfuel : cs.length ≤ fuel) (start : Nat) :
    Utf8.decodeFrom fuel start (cs.map fun c => UInt8.ofNat c.toNat) = .ok cs := by
  induction cs generalizing fuel start with
  | nil => cases fuel <;> rfl
  | cons c rest ih =>
      obtain ⟨hc, hrest⟩ := List.forall_mem_cons.mp h
      obtain ⟨fuel, rfl⟩ : ∃ less, fuel = less + 1 :=
        Nat.exists_eq_add_one_of_ne_zero (Nat.ne_zero_of_lt hfuel)
      have hbyte : (UInt8.ofNat c.toNat).toNat = c.toNat := by
        rw [UInt8.toNat_ofNat']
        exact Nat.mod_eq_of_lt (Nat.lt_trans hc (by decide))
      have hdecoded := ih hrest (Nat.le_of_succ_le_succ hfuel) (start + 1)
      simp only [List.map_cons, Utf8.decodeFrom, hbyte, hc, if_true, hdecoded, Char.ofNat_toNat]
      rfl

theorem decode_bytesOf : Utf8.decode (Digest.bytesOf (String.ofList cs)) = .ok cs := by
  rw [bytesOf_ascii h, Utf8.decode]
  exact decodeFrom_ascii h (by simp) 0

end Ascii

end Text

end Scriptorium

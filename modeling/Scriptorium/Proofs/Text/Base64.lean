import Scriptorium.Proofs.Text.Bytes
import Scriptorium.Text.Base64
set_option autoImplicit false

/-!
# Encoding in Base64 and back

Three bytes are four values below 64, and each value is written as its symbol.  `sextets` are the
values of bytes: encoding writes their symbols, and decoding reads the values off the symbols and
puts the bytes together, although the padding is missing that would complete the last group.
-/

namespace Scriptorium.Text.Base64

/-! ## Values -/

/-- The values below 64 of bytes. -/
def sextets : List UInt8 → List Nat
  | a :: b :: c :: rest =>
    let n := (a.toNat * 256 + b.toNat) * 256 + c.toNat
    n / 262144 :: n / 4096 % 64 :: n / 64 % 64 :: n % 64 :: sextets rest
  | [a, b] =>
    let n := (a.toNat * 256 + b.toNat) * 256
    [n / 262144, n / 4096 % 64, n / 64 % 64]
  | [a] =>
    let n := a.toNat * 65536
    [n / 262144, n / 4096 % 64]
  | [] => []

theorem lt_of_mem_sextets {bytes : List UInt8} {n : Nat} (hn : n ∈ sextets bytes) : n < 64 := by
  fun_induction sextets bytes with
  | case1 a b c rest m ih =>
      have ha := a.toNat_lt
      have hb := b.toNat_lt
      have hc := c.toNat_lt
      simp only [List.mem_cons] at hn
      rcases hn with rfl | rfl | rfl | rfl | hrest
      · omega
      · omega
      · omega
      · omega
      · exact ih hrest
  | case2 a b m =>
      have ha := a.toNat_lt
      have hb := b.toNat_lt
      simp only [List.mem_cons, List.not_mem_nil, or_false] at hn
      omega
  | case3 a m =>
      have ha := a.toNat_lt
      simp only [List.mem_cons, List.not_mem_nil, or_false] at hn
      omega
  | case4 => simp at hn

/-- No byte ends with the first value of a group. -/
theorem length_sextets_mod (bytes : List UInt8) : (sextets bytes).length % 4 ≠ 1 := by
  fun_induction sextets bytes with
  | case1 a b c rest m ih =>
      simp only [List.length_cons]
      omega
  | case2 a b m => simp
  | case3 a m => simp
  | case4 => simp

theorem ofNat_eq_of_toNat_eq {n : Nat} {b : UInt8} (h : n = b.toNat) : UInt8.ofNat n = b := by
  rw [h, UInt8.ofNat_toNat]

theorem bytesOf_sextets (bytes : List UInt8) : bytesOf (sextets bytes) = bytes := by
  fun_induction sextets bytes with
  | case1 a b c rest m ih =>
      have ha := a.toNat_lt
      have hb := b.toNat_lt
      have hc := c.toNat_lt
      rw [bytesOf, ih]
      congr 1
      · exact ofNat_eq_of_toNat_eq (by omega)
      · congr 1
        · exact ofNat_eq_of_toNat_eq (by omega)
        · congr 1
          exact ofNat_eq_of_toNat_eq (by omega)
  | case2 a b m =>
      have ha := a.toNat_lt
      have hb := b.toNat_lt
      rw [bytesOf]
      congr 1
      · exact ofNat_eq_of_toNat_eq (by omega)
      · congr 1
        exact ofNat_eq_of_toNat_eq (by omega)
  | case3 a m =>
      have ha := a.toNat_lt
      rw [bytesOf]
      congr 1
      exact ofNat_eq_of_toNat_eq (by omega)
  | case4 => rfl

/-! ## Symbols -/

/-- The symbol of a value in the alphabet of tokens. -/
def tokenSymbol (n : Nat) : Char := symbol '-' '_' n

theorem value?_tokenSymbol : ∀ n < 64, value? (tokenSymbol n) = some n := by decide

theorem tokenSymbol_ne_pad : ∀ n < 64, tokenSymbol n ≠ '=' := by decide

theorem encode_eq_map (bytes : List UInt8) : encode bytes = (sextets bytes).map tokenSymbol := by
  fun_induction sextets bytes with
  | case1 a b c rest m ih =>
      rw [encode, ih]
      rfl
  | case2 a b m => rfl
  | case3 a m => rfl
  | case4 => rfl

/-- The characters that encoded bytes are written with. -/
def IsSymbol (c : Char) : Prop := ∃ n < 64, c = tokenSymbol n

theorem isSymbol_of_mem_encode {bytes : List UInt8} {c : Char} (hc : c ∈ encode bytes) :
    IsSymbol c := by
  rw [encode_eq_map] at hc
  obtain ⟨n, hn, rfl⟩ := List.mem_map.mp hc
  exact ⟨n, lt_of_mem_sextets hn, rfl⟩

namespace IsSymbol

variable {c : Char}

theorem ascii (h : IsSymbol c) : c.toNat < 128 := by
  have hall : ∀ n < 64, (tokenSymbol n).toNat < 128 := by decide
  obtain ⟨n, hn, rfl⟩ := h
  exact hall n hn

theorem ne_point (h : IsSymbol c) : c ≠ '.' := by
  have hall : ∀ n < 64, tokenSymbol n ≠ '.' := by decide
  obtain ⟨n, hn, rfl⟩ := h
  exact hall n hn

theorem alphanumeric (h : IsSymbol c) : c.isAlphanum = true ∨ c = '-' ∨ c = '_' := by
  have hall : ∀ n < 64, (tokenSymbol n).isAlphanum = true ∨ tokenSymbol n = '-' ∨
      tokenSymbol n = '_' := by decide
  obtain ⟨n, hn, rfl⟩ := h
  exact hall n hn

end IsSymbol

/-- A segment without padding: letters, digits, `-` and `_`, so many that they end with a byte. -/
structure IsSegment (cs : List Char) : Prop where
  ne_nil : cs ≠ []
  symbols : ∀ c ∈ cs, c.isAlphanum = true ∨ c = '-' ∨ c = '_'
  length_mod : cs.length % 4 ≠ 1

/-- Bytes are written as a segment. -/
theorem isSegment_encode {bytes : List UInt8} (hsome : bytes ≠ []) : IsSegment (encode bytes) where
  ne_nil := by
    intro hnil
    have hbytes := bytesOf_sextets bytes
    rw [encode_eq_map, List.map_eq_nil_iff] at hnil
    rw [hnil] at hbytes
    exact hsome hbytes.symm
  symbols _ hc := (isSymbol_of_mem_encode hc).alphanumeric
  length_mod := by
    rw [encode_eq_map, List.length_map]
    exact length_sextets_mod bytes

/-! ## Decoding -/

/-- The padding that is missing behind so many characters. -/
def missing (size : Nat) : List Char := List.replicate ((4 - size % 4) % 4) '='

/-- The values of symbols are read up to the padding, from any place in a group on. -/
theorem values?_map {place : Nat} {ns : List Nat} (hplace : place < 4) (hns : ∀ n ∈ ns, n < 64)
    (hlength : (place + ns.length) % 4 ≠ 1) :
    values? place 0 (ns.map tokenSymbol ++ missing (place + ns.length)) = some ns := by
  induction ns generalizing place with
  | nil =>
      have hcases : place = 0 ∨ place = 2 ∨ place = 3 := by
        simp only [List.length_nil] at hlength
        omega
      rcases hcases with rfl | rfl | rfl <;> rfl
  | cons n rest ih =>
      obtain ⟨hn, hrest⟩ := List.forall_mem_cons.mp hns
      have hsame : ((place + 1) % 4 + rest.length) % 4 = (place + (rest.length + 1)) % 4 := by omega
      have hmissing : missing (place + (rest.length + 1)) =
          missing ((place + 1) % 4 + rest.length) := by
        rw [missing, missing, hsame]
      have hvalues := ih (Nat.mod_lt (place + 1) (by decide)) hrest (hsame ▸ hlength)
      simp only [List.map_cons, List.cons_append, List.length_cons, values?,
        tokenSymbol_ne_pad n hn, if_false, value?_tokenSymbol n hn, hmissing, hvalues]
      rfl

theorem decodeOpen?_encode (bytes : List UInt8) : decodeOpen? (encode bytes) = some bytes := by
  have hascii : IsAscii (encode bytes) := fun c hc => (isSymbol_of_mem_encode hc).ascii
  have hlength : (0 + (sextets bytes).length) % 4 ≠ 1 := by
    rw [Nat.zero_add]
    exact length_sextets_mod bytes
  have hvalues := values?_map (by decide) (fun n hn => lt_of_mem_sextets hn) hlength
  rw [Nat.zero_add, ← List.length_map (f := tokenSymbol), ← encode_eq_map, missing] at hvalues
  simp only [decodeOpen?, utf8ByteSize_ascii hascii, decode?, hvalues]
  exact congrArg some (bytesOf_sextets bytes)

end Scriptorium.Text.Base64

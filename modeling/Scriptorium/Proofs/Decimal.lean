import Scriptorium.Decimal.Notation
import Scriptorium.Decimal.Scan
set_option autoImplicit false

/-!
# Digits of whole numbers

The digits that a whole number is written with are read back as the number.
-/

namespace Scriptorium.Decimal

theorem isDigit_of_mem_toDigits {n : Nat} {c : Char} (h : c ∈ Nat.toDigits 10 n) :
    isDigit c = true := by
  have hdigit := Nat.isDigit_of_mem_toDigits (by decide) (by decide) h
  simp only [Char.isDigit, Bool.and_eq_true, decide_eq_true_eq] at hdigit
  simp only [isDigit, Bool.and_eq_true, decide_eq_true_eq]
  exact hdigit

theorem natOf_toDigits (n : Nat) :
    natOf ((Nat.toDigits 10 n).map (fun c => c.toNat - 48)) = n := by
  rw [natOf, List.foldl_map]
  exact Nat.ofDigitChars_toDigits (by decide) (by decide)

/-- The digits of a number are taken up to the first character that is none. -/
theorem spanDigits_toDigits (n : Nat) {rest : List Char}
    (h : ∀ c ∈ rest.head?, isDigit c = false) :
    spanDigits (Nat.toDigits 10 n ++ rest) =
      ((Nat.toDigits 10 n).map (fun c => c.toNat - 48), rest) := by
  have htake : rest.takeWhile isDigit = [] := by
    cases rest with
    | nil => rfl
    | cons c cs => simp [h c rfl]
  have hdrop : rest.dropWhile isDigit = rest := by
    cases rest with
    | nil => rfl
    | cons c cs => simp [h c rfl]
  rw [spanDigits, List.takeWhile_append_of_pos fun c hc => isDigit_of_mem_toDigits hc,
    List.dropWhile_append_of_pos fun c hc => isDigit_of_mem_toDigits hc, htake, hdrop,
    List.append_nil]

/-- A number that is not zero is not written with a zero in front. -/
theorem head?_toDigits_ne_zero {n : Nat} (hn : n ≠ 0) : (Nat.toDigits 10 n).head? ≠ some '0' := by
  induction n using Nat.strongRecOn with
  | ind n ih =>
      by_cases hsmall : n < 10
      · have hdigit : ∀ d < 10, d ≠ 0 → Nat.digitChar d ≠ '0' := by decide
        rw [Nat.toDigits_of_lt_base hsmall]
        simpa using hdigit n hsmall hn
      · have hfirst := ih (n / 10) (by omega) (by omega)
        obtain ⟨d, ds, hdigits⟩ := List.exists_cons_of_ne_nil
          (Nat.toDigits_ne_nil (n := n / 10) (b := 10))
        rw [Nat.toDigits_of_base_le (by decide) (by omega), hdigits]
        rwa [hdigits] at hfirst

/-- A whole number is written as digits, a negative one behind a minus. -/
theorem wholeText_cases (n : Int) :
    n < 0 ∧ (wholeText n).toList = '-' :: Nat.toDigits 10 n.natAbs ∨
      0 ≤ n ∧ (wholeText n).toList = Nat.toDigits 10 n.natAbs := by
  by_cases hneg : n < 0
  · exact .inl ⟨hneg, by simp [wholeText, hneg]⟩
  · exact .inr ⟨by omega, by simp [wholeText, hneg]⟩

theorem wholeText_toList (n : Nat) : (wholeText n).toList = Nat.toDigits 10 n := by
  rcases wholeText_cases n with ⟨hneg, -⟩ | ⟨-, htext⟩
  · omega
  · exact htext

end Scriptorium.Decimal

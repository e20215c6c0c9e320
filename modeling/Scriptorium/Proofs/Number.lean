import Scriptorium.Value
set_option autoImplicit false

/-!
# Equality of numbers and values

Numbers are equal if they lie at the same place.  A value that is equal to a whole number may stand
for it in every comparison, so that looking for the number and looking for the value find the same.
-/

namespace Scriptorium

namespace Number

theorem place_den_pos {x : Number} {num : Int} {den : Nat} (h : x.place = .at num den) :
    0 < den := by
  cases x with
  | whole n =>
      simp only [place, Place.at.injEq] at h
      omega
  | real x =>
      simp only [place] at h
      split at h
      · simp at h
      · split at h <;> simp at h
      · rename_i b _
        rw [Place.at.injEq] at h
        rw [← h.2, Decimal.Binary.fraction]
        cases b.exponent with
        | ofNat k => exact Nat.one_pos
        | negSucc k => exact Nat.pow_pos (Nat.zero_lt_two)

/-- A number equals a whole number if and only if it lies at a fraction of that value. -/
theorem same_whole_iff (x : Number) (n : Int) :
    x.same (.whole n) = true ↔ ∃ num den, x.place = .at num den ∧ num = n * den := by
  unfold same order?
  cases hx : x.place with
  | «at» num den =>
      constructor
      · intro heq
        exact ⟨num, den, rfl, by simpa [place] using heq⟩
      · rintro ⟨num', den', hplace, heq⟩
        obtain ⟨rfl, rfl⟩ := Place.at.inj hplace
        simpa [place] using heq
  | _ => simp [place]

/-- A number that equals a whole number may stand for it. -/
theorem same_congr_of_same_whole {y : Number} {n : Int} (h : y.same (.whole n) = true)
    (x : Number) : x.same y = x.same (.whole n) := by
  obtain ⟨m, e, hy, hm⟩ := (same_whole_iff y n).mp h
  have he : (e : Int) ≠ 0 := by
    have := place_den_pos hy
    omega
  unfold same order?
  rw [hy]
  cases hx : x.place with
  | «at» k d =>
      have hswap : m * (d : Int) = n * d * e := by
        rw [hm, Int.mul_assoc, Int.mul_comm (e : Int), ← Int.mul_assoc]
      rw [Bool.eq_iff_iff]
      simp [place, hswap, Int.mul_eq_mul_right_iff he]
  | _ => rfl

theorem same_comm (x y : Number) : x.same y = y.same x := by
  unfold same order?
  cases x.place with
  | «at» n d =>
      cases y.place with
      | «at» m e =>
          have hswap : n * (e : Int) = m * d ↔ m * (d : Int) = n * e := eq_comm
          rw [Bool.eq_iff_iff]
          simp [hswap]
      | _ => rfl
  | _ => cases y.place <;> rfl

end Number

namespace Value

theorem same_of_number? {u : Value} {y : Number} (hu : u.number? = some y) (v : Value) :
    v.same u = ((v.number?.map (·.same y)).getD false) := by
  cases u with
  | bool b | int n | float x =>
      obtain rfl := Option.some.inj hu
      cases v <;> rfl
  | _ => cases hu

theorem number?_same {u : Value} {x : Number} (hu : u.number? = some x) (v : Value) :
    u.same v = ((v.number?.map x.same).getD false) := by
  cases u with
  | bool b | int n | float x =>
      obtain rfl := Option.some.inj hu
      cases v <;> rfl
  | _ => cases hu

/-- Equality goes both ways from a number. -/
theorem same_comm_of_number? {u : Value} {x : Number} (hu : u.number? = some x) (v : Value) :
    u.same v = v.same u := by
  have hcomm : x.same = fun y => y.same x := funext (Number.same_comm x)
  rw [number?_same hu, same_of_number? hu, hcomm]

/-- Equality goes both ways from a text, and from nothing. -/
theorem same_comm_of_text (s : String) (v : Value) : (Value.text s).same v = v.same (.text s) := by
  cases v with
  | text t => exact Bool.beq_comm
  | _ => rfl

theorem same_comm_of_null (v : Value) : Value.null.same v = v.same .null := by
  cases v <;> rfl

/-- Texts and identifiers equal nothing but themselves. -/
theorem same_text_iff (v : Value) (s : String) : v.same (.text s) = true ↔ v = .text s := by
  cases v with
  | text t => exact beq_iff_eq.trans (by simp)
  | _ => exact iff_of_false Bool.false_ne_true (by simp)

theorem text_same_iff (v : Value) (s : String) : (Value.text s).same v = true ↔ .text s = v := by
  rw [same_comm_of_text, same_text_iff, eq_comm]

theorem same_ident_iff (v : Value) (i : Ident) : v.same (.ident i) = true ↔ v = .ident i := by
  cases v with
  | ident j => exact beq_iff_eq.trans (by simp)
  | _ => exact iff_of_false Bool.false_ne_true (by simp)

/-- A value that equals a whole number may stand for it. -/
theorem same_congr_of_same_int {u : Value} {n : Int} (h : u.same (.int n) = true) (v : Value) :
    v.same u = v.same (.int n) := by
  have hint : (Value.int n).number? = some (.whole n) := rfl
  rw [same_of_number? hint] at h ⊢
  cases hu : u.number? with
  | none => simp [hu] at h
  | some y =>
      rw [hu, Option.map_some, Option.getD_some] at h
      rw [same_of_number? hu]
      simp only [Number.same_congr_of_same_whole h]

end Value

end Scriptorium

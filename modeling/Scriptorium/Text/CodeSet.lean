set_option autoImplicit false

/-!
# Sets of code points

A set of code points is given by the ascending list of the places where membership changes:
the first bound is the first member, the second the first non-member after it, and so on.
-/

namespace Scriptorium.Text.CodeSet

/-- Walks the bounds up to `code`, turning membership over at each. -/
def walk (code : Nat) : Bool → List Nat → Bool
  | inside, [] => inside
  | inside, bound :: rest => if code < bound then inside else walk code (!inside) rest

/-- Whether `code` belongs to the set with these bounds. -/
def contains (bounds : List Nat) (code : Nat) : Bool := walk code false bounds

end Scriptorium.Text.CodeSet

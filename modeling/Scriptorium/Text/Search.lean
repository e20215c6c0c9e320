set_option autoImplicit false

/-!
# Searching in texts

Where a part occurs in a text, how often it does so without overlap, and cutting a text at a
character.
-/

namespace Scriptorium.Text

/-- Whether a part stands somewhere in a text. -/
def occursIn (part : List Char) : List Char → Bool
  | [] => part.isEmpty
  | c :: rest => part.isPrefixOf (c :: rest) || occursIn part rest

/-- Counts the places where a part stands, from the left and without overlap; `skip` characters
belong to the place found last. -/
def countFrom (part : List Char) : Nat → List Char → Nat
  | _, [] => 0
  | skip + 1, _ :: rest => countFrom part skip rest
  | 0, c :: rest =>
    if part.isPrefixOf (c :: rest) then countFrom part (part.length - 1) rest + 1
    else countFrom part 0 rest

/-- How often a part stands in a text, without overlap. -/
def count (part cs : List Char) : Nat := countFrom part 0 cs

/-- The pieces of a text between the places where a character stands. -/
def splitAtChar (mark : Char) : List Char → List (List Char)
  | [] => [[]]
  | c :: rest =>
    if c = mark then [] :: splitAtChar mark rest
    else match splitAtChar mark rest with
      | piece :: pieces => (c :: piece) :: pieces
      | [] => [[c]]

/-- Replaces every place where a part stands, from the left; `skip` characters belong to the
place replaced last. -/
def replaceFrom (part by' : List Char) : Nat → List Char → List Char
  | _, [] => []
  | skip + 1, _ :: rest => replaceFrom part by' skip rest
  | 0, c :: rest =>
    if part.isPrefixOf (c :: rest) then by' ++ replaceFrom part by' (part.length - 1) rest
    else c :: replaceFrom part by' 0 rest

/-- Replaces every place where a part, which is not empty, stands. -/
def replace (part by' cs : List Char) : List Char := replaceFrom part by' 0 cs

/-! ## Pieces between marks -/

theorem splitAtChar_ne_nil (mark : Char) (cs : List Char) : splitAtChar mark cs ≠ [] := by
  cases cs with
  | nil => exact List.cons_ne_nil _ _
  | cons c rest =>
      rw [splitAtChar]
      split
      · exact List.cons_ne_nil _ _
      · split <;> exact List.cons_ne_nil _ _

/-- A text without the mark is one piece. -/
theorem splitAtChar_of_not_mem {mark : Char} {cs : List Char} (h : mark ∉ cs) :
    splitAtChar mark cs = [cs] := by
  induction cs with
  | nil => rfl
  | cons c rest ih =>
      rw [List.mem_cons, not_or] at h
      rw [splitAtChar, if_neg (Ne.symm h.1), ih h.2]

/-- A mark parts the pieces before it from those behind it. -/
theorem splitAtChar_append_mark (mark : Char) (cs rest : List Char) :
    splitAtChar mark (cs ++ mark :: rest) = splitAtChar mark cs ++ splitAtChar mark rest := by
  induction cs with
  | nil => simp [splitAtChar]
  | cons c cs ih =>
      rw [List.cons_append, splitAtChar, splitAtChar, ih]
      split
      · rfl
      · cases hpieces : splitAtChar mark cs with
        | nil => exact absurd hpieces (splitAtChar_ne_nil mark cs)
        | cons piece pieces => rfl

end Scriptorium.Text

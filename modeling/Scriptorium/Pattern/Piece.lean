import Scriptorium.Pattern.Flaw
set_option autoImplicit false

/-!
# Pieces of patterns

A pattern is a text with fields in braces; a doubled brace stands for itself.  A field has a
name, perhaps a conversion after an exclamation mark, and perhaps a layout after a colon, which
may hold fields of its own.

A pattern is cut into pieces from the left.  If it is not well formed, the pieces before the flaw
are kept, since whatever is wrong with them is found first.
-/

namespace Scriptorium.Pattern

/-- A piece of a pattern. -/
inductive Piece where
  | literal (text : List Char)
  | field (name : List Char) (conversion : Option Char) (layout : List Char)
  deriving DecidableEq, Repr

/-- What ends the name of a field. -/
inductive NameEnd where
  | close
  | conversion
  | layout
  deriving DecidableEq, Repr

/-- The name of a field, what ends it and what follows.  Between brackets every character belongs
to the name. -/
def readName (inBrackets : Bool) : List Char → Except Flaw (List Char × NameEnd × List Char)
  | [] => .error .unclosed
  | c :: rest =>
    let more (inBrackets : Bool) : Except Flaw (List Char × NameEnd × List Char) :=
      (readName inBrackets rest).map fun (name, e, rest) => (c :: name, e, rest)
    if inBrackets then more (c != ']')
    else if c = '\x7b' then .error .openInName
    else if c = '\x7d' then .ok ([], .close, rest)
    else if c = '!' then .ok ([], .conversion, rest)
    else if c = ':' then .ok ([], .layout, rest)
    else more (c == '[')

/-- The layout of a field, up to the brace that closes it, and what follows. -/
def readLayout (depth : Nat) : List Char → Except Flaw (List Char × List Char)
  | [] => .error .openLayout
  | c :: rest =>
    let more (depth : Nat) : Except Flaw (List Char × List Char) :=
      (readLayout depth rest).map fun (layout, rest) => (c :: layout, rest)
    if c = '\x7b' then more (depth + 1)
    else if c = '\x7d' then
      match depth with
      | 0 => .ok ([], rest)
      | depth + 1 => more depth
    else more depth

/-- A field whose opening brace has been read, and what follows it. -/
def readField (cs : List Char) : Except Flaw (Piece × List Char) :=
  match readName false cs with
  | .error flaw => .error flaw
  | .ok (name, .close, rest) => .ok (.field name none [], rest)
  | .ok (name, .layout, rest) =>
    (readLayout 0 rest).map fun (layout, rest) => (.field name none layout, rest)
  | .ok (_, .conversion, []) => .error .noConversion
  | .ok (_, .conversion, [_]) => .error .openLayout
  | .ok (name, .conversion, conversion :: next :: rest) =>
    if next = '\x7d' then .ok (.field name (some conversion) [], rest)
    else if next = ':' then
      (readLayout 0 rest).map fun (layout, rest) => (.field name (some conversion) layout, rest)
    else .error .noColon

theorem readName_length {inBrackets : Bool} {cs name rest : List Char} {e : NameEnd}
    (h : readName inBrackets cs = .ok (name, e, rest)) : rest.length < cs.length := by
  induction cs generalizing inBrackets name with
  | nil => simp [readName] at h
  | cons c tail ih =>
    have step : ∀ {b : Bool},
        (readName b tail).map (fun (name, e, rest) => (c :: name, e, rest)) =
          .ok (name, e, rest) → rest.length < (c :: tail).length := by
      intro b hb
      cases hr : readName b tail with
      | error f => simp [hr, Except.map] at hb
      | ok r =>
        obtain ⟨n, e', rest'⟩ := r
        simp only [hr, Except.map, Except.ok.injEq, Prod.mk.injEq] at hb
        obtain ⟨_, rfl, rfl⟩ := hb
        exact Nat.lt_succ_of_lt (ih hr)
    simp only [readName] at h
    split at h
    · exact step h
    split at h
    · simp at h
    split at h
    · simp only [Except.ok.injEq, Prod.mk.injEq] at h; simp [← h.2.2]
    split at h
    · simp only [Except.ok.injEq, Prod.mk.injEq] at h; simp [← h.2.2]
    split at h
    · simp only [Except.ok.injEq, Prod.mk.injEq] at h; simp [← h.2.2]
    · exact step h

theorem readLayout_length {depth : Nat} {cs layout rest : List Char}
    (h : readLayout depth cs = .ok (layout, rest)) : rest.length < cs.length := by
  induction cs generalizing depth layout with
  | nil => simp [readLayout] at h
  | cons c tail ih =>
    have step : ∀ {d : Nat},
        (readLayout d tail).map (fun (layout, rest) => (c :: layout, rest)) =
          .ok (layout, rest) → rest.length < (c :: tail).length := by
      intro d hd
      cases hr : readLayout d tail with
      | error f => simp [hr, Except.map] at hd
      | ok r =>
        obtain ⟨l, rest'⟩ := r
        simp only [hr, Except.map, Except.ok.injEq, Prod.mk.injEq] at hd
        obtain ⟨_, rfl⟩ := hd
        exact Nat.lt_succ_of_lt (ih hr)
    simp only [readLayout] at h
    split at h
    · exact step h
    split at h
    · split at h
      · simp only [Except.ok.injEq, Prod.mk.injEq] at h; simp [← h.2]
      · exact step h
    · exact step h

theorem readLayout_map_length {cs rest : List Char} {piece : Piece}
    {f : List Char → Piece}
    (h : (readLayout 0 cs).map (fun (layout, rest) => (f layout, rest)) = .ok (piece, rest)) :
    rest.length < cs.length := by
  cases hr : readLayout 0 cs with
  | error e => simp [hr, Except.map] at h
  | ok r =>
    obtain ⟨l, rest'⟩ := r
    simp only [hr, Except.map, Except.ok.injEq, Prod.mk.injEq] at h
    exact h.2 ▸ readLayout_length hr

theorem readField_length {cs rest : List Char} {piece : Piece}
    (h : readField cs = .ok (piece, rest)) : rest.length < cs.length := by
  unfold readField at h
  split at h
  · simp at h
  · next hn =>
    simp only [Except.ok.injEq, Prod.mk.injEq] at h
    exact h.2 ▸ readName_length hn
  · next hn => exact Nat.lt_trans (readLayout_map_length h) (readName_length hn)
  · simp at h
  · simp at h
  · next hn =>
    have hlt := readName_length hn
    simp only [List.length_cons] at hlt
    split at h
    · simp only [Except.ok.injEq, Prod.mk.injEq] at h
      rw [← h.2]; omega
    split at h
    · have := readLayout_map_length h; omega
    · simp at h

/-- The pieces of a pattern, up to its first flaw. -/
def pieces (cs : List Char) : List Piece × Option Flaw :=
  match cs with
  | [] => ([], none)
  | c :: rest =>
    if c = '\x7b' then
      match rest with
      | [] => ([], some .loneOpen)
      | next :: after =>
        if next = '\x7b' then
          let (found, flaw) := pieces after
          (.literal ['\x7b'] :: found, flaw)
        else match _read : readField (next :: after) with
          | .error flaw => ([], some flaw)
          | .ok (piece, others) =>
            let (found, flaw) := pieces others
            (piece :: found, flaw)
    else if c = '\x7d' then
      match rest with
      | [] => ([], some .loneClose)
      | next :: after =>
        if next = '\x7d' then
          let (found, flaw) := pieces after
          (.literal ['\x7d'] :: found, flaw)
        else ([], some .loneClose)
    else
      let (found, flaw) := pieces rest
      (.literal [c] :: found, flaw)
termination_by cs.length
decreasing_by
  all_goals try (simp only [List.length_cons]; omega)
  exact Nat.lt_succ_of_lt (readField_length (by assumption))

end Scriptorium.Pattern

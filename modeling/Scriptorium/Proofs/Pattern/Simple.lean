import Mathlib.Data.List.TakeWhile
import Scriptorium.Pattern
import Scriptorium.Proofs.Fields
import Scriptorium.Proofs.Outcome
set_option autoImplicit false

/-!
# Patterns with simple fields

A simple pattern is well formed, and all its fields are names of bindings without conversion and
layout.  Filled with values it shows them in the places of its names if all of these are bound, and
misses a name otherwise; nothing else can happen.  A text without braces is a pattern that gives
itself, and every sequence of texts and names can be spelled as a simple pattern, with the braces of
the texts doubled and the names in braces.
-/

namespace Scriptorium.Pattern

open Outcome

/-- Bindings to texts. -/
def texts (bindings : List (String × String)) : Fields :=
  bindings.map fun (name, text) => (name, .text text)

/-- Whether a name is that of a binding, and no number. -/
def isSimpleName (name : List Char) : Bool :=
  !name.isEmpty && name.all (fun c => !startsStep c) &&
    match indexOf? name with
    | .ok none => true
    | _ => false

/-- Whether a piece is a literal or a name alone. -/
def Piece.isSimple : Piece → Bool
  | .literal _ => true
  | .field name none [] => isSimpleName name
  | .field _ _ _ => false

/-- Whether a pattern is well formed and has no fields but names. -/
def isSimple (s : String) : Bool :=
  (pieces s.toList).2.isNone && (pieces s.toList).1.all Piece.isSimple

/-- The text of a piece, if its name is bound. -/
def Piece.text? (bindings : List (String × String)) : Piece → Option String
  | .literal text => some (String.ofList text)
  | .field name _ _ => Fields.get? bindings (String.ofList name)

/-- A pattern with the bound texts in the places of the names, if all are bound. -/
def expand? (bindings : List (String × String)) (s : String) : Option String :=
  ((pieces s.toList).1.mapM (Piece.text? bindings)).map String.join

/-- The text of a piece that shows a bound value, if its name is bound. -/
def Piece.shown? [Halves] (bindings : Fields) : Piece → Option String
  | .literal text => some (String.ofList text)
  | .field name _ _ => (Fields.get? bindings (String.ofList name)).map Value.shown

/-- A pattern with the bound values in the places of the names, as they are shown, if all are
bound. -/
def shows? [Halves] (bindings : Fields) (s : String) : Option String :=
  ((pieces s.toList).1.mapM (Piece.shown? bindings)).map String.join

theorem texts_append (first second : List (String × String)) :
    texts (first ++ second) = texts first ++ texts second :=
  List.map_append

theorem names_texts (bindings : List (String × String)) :
    Fields.names (texts bindings) = Fields.names bindings := by
  simp [Fields.names, texts, Function.comp_def]

theorem get?_texts (bindings : List (String × String)) (name : String) :
    Fields.get? (texts bindings) name = (Fields.get? bindings name).map .text := by
  induction bindings with
  | nil => rfl
  | cons head rest ih =>
      obtain ⟨key, text⟩ := head
      simp only [texts, List.map_cons] at ih ⊢
      rw [Fields.get?_cons, Fields.get?_cons, ih]
      split <;> rfl

theorem text?_eq_shown? [Halves] (bindings : List (String × String)) :
    Piece.text? bindings = Piece.shown? (texts bindings) := by
  funext piece
  cases piece with
  | literal text => rfl
  | field name conversion layout =>
      simp only [Piece.text?, Piece.shown?, get?_texts, Option.map_map]
      exact Option.map_id'.symm

theorem expand?_eq_shows? [Halves] (bindings : List (String × String)) (s : String) :
    expand? bindings s = shows? (texts bindings) s := by
  rw [expand?, shows?, text?_eq_shown?]

/-! ## Filling -/

/-- A computation gives a value, or misses a name where there is none. -/
inductive Gives {α : Type} : Outcome α → Option α → Prop
  | value (a : α) : Gives (.ok a) (some a)
  | missing (name : Value) : Gives (.error (.missingKey name)) none

theorem gives_some_iff {α : Type} {act : Outcome α} {a : α} : Gives act (some a) ↔ act = .ok a := by
  constructor
  · intro h
    cases h
    rfl
  · rintro rfl
    exact .value a

theorem gives_none_iff {α : Type} {act : Outcome α} :
    Gives act none ↔ ∃ name, act = .error (.missingKey name) := by
  constructor
  · intro h
    cases h with
    | missing name => exact ⟨name, rfl⟩
  · rintro ⟨name, rfl⟩
    exact .missing name

theorem Gives.unique {α : Type} {act : Outcome α} {first second : Option α} (h : Gives act first)
    (h' : Gives act second) : first = second := by
  cases h <;> cases h' <;> rfl

section Fill

variable (inner : List Char → Outcome String) (bindings : Fields)

theorem refer_simple {name : List Char} (h : isSimpleName name = true) :
    Gives (refer bindings name) (Fields.get? bindings (String.ofList name)) := by
  simp only [isSimpleName, Bool.and_eq_true, Bool.not_eq_true', List.all_eq_true] at h
  obtain ⟨⟨hnonempty, hplain⟩, hindex⟩ := h
  have htake : (name.takeWhile fun c => !startsStep c) = name :=
    List.takeWhile_eq_self_iff.mpr fun c hc => by simp [hplain c hc]
  have hdrop : (name.dropWhile fun c => !startsStep c) = [] :=
    List.dropWhile_eq_nil_iff.mpr fun c hc => by simp [hplain c hc]
  split at hindex
  · rename_i hnone
    simp only [refer, htake, hdrop, bound, hnone, hnonempty]
    cases Fields.get? bindings (String.ofList name) with
    | none => exact .missing _
    | some v => exact .value v
  · cases hindex

/-- Without a layout every value is written as it is shown. -/
theorem lay_nil [Halves] (v : Value) : lay [] v = .ok v.shown := by
  cases v <;> rfl

theorem fillPiece_simple [Halves] {piece : Piece} (h : piece.isSimple = true) :
    Gives (fillPiece inner bindings piece) (piece.shown? bindings) := by
  unfold Piece.isSimple at h
  split at h
  · exact .value _
  · rename_i name
    have hrefer := refer_simple bindings h
    simp only [Piece.shown?, fillPiece]
    generalize refer bindings name = found at hrefer
    generalize Fields.get? bindings (String.ofList name) = value? at hrefer
    cases hrefer with
    | missing name => exact .missing name
    | value v =>
        simp only [bind, Except.bind, convert, List.contains_nil, Bool.false_eq_true, if_false,
          pure, Except.pure, lay_nil]
        exact .value _
  · cases h

theorem mapM_fillPiece_simple [Halves] {found : List Piece} (h : found.all Piece.isSimple = true) :
    Gives (found.mapM (fillPiece inner bindings)) (found.mapM (Piece.shown? bindings)) := by
  induction found with
  | nil => exact .value []
  | cons piece rest ih =>
      simp only [List.all_cons, Bool.and_eq_true] at h
      have hfirst := fillPiece_simple inner bindings h.1
      have hrest := ih h.2
      rw [List.mapM_cons, List.mapM_cons]
      generalize fillPiece inner bindings piece = first at hfirst
      generalize rest.mapM (fillPiece inner bindings) = later at hrest
      generalize piece.shown? bindings = first? at hfirst
      generalize rest.mapM (Piece.shown? bindings) = later? at hrest
      cases hfirst with
      | missing name => exact .missing name
      | value text =>
          cases hrest with
          | missing name => exact .missing name
          | value texts => exact .value _

/-- A simple pattern shows the bound values in the places of its names, or misses a name. -/
theorem fill_shows [Halves] {s : String} (h : isSimple s = true) :
    Gives (fill bindings s) (shows? bindings s) := by
  simp only [isSimple, Bool.and_eq_true, Option.isNone_iff_eq_none] at h
  obtain ⟨hflaw, hsimple⟩ := h
  have hparts := mapM_fillPiece_simple (fillDeep 1 bindings) bindings hsimple
  unfold fill fillDeep shows?
  generalize hfound : pieces s.toList = split at hflaw hparts
  obtain ⟨found, flaw⟩ := split
  simp only at hflaw hparts ⊢
  subst hflaw
  generalize found.mapM (fillPiece (fillDeep 1 bindings) bindings) = filled at hparts
  generalize found.mapM (Piece.shown? bindings) = shown at hparts
  cases hparts with
  | missing name => exact .missing name
  | value parts => exact .value (String.join parts)

end Fill

/-- A simple pattern gives its expansion, or misses a name. -/
theorem fill_simple [Halves] (bindings : List (String × String)) {s : String}
    (h : isSimple s = true) :
    Gives (fill (texts bindings) s) (expand? bindings s) := by
  rw [expand?_eq_shows?]
  exact fill_shows (texts bindings) h

/-! ## Braces -/

/-- Whether a character is a brace. -/
def isBrace (c : Char) : Bool := c == '\x7b' || c == '\x7d'

/-- A brace that stands twice is a brace. -/
theorem pieces_doubled {c : Char} (h : isBrace c = true) (rest : List Char) :
    pieces (c :: c :: rest) = (.literal [c] :: (pieces rest).1, (pieces rest).2) := by
  have hcases : c = '\x7b' ∨ c = '\x7d' := by simpa [isBrace] using h
  rcases hcases with rfl | rfl
  all_goals
    rw [pieces.eq_def]
    rfl

/-- Any other character stands for itself. -/
theorem pieces_plain {c : Char} (h : isBrace c = false) (rest : List Char) :
    pieces (c :: rest) = (.literal [c] :: (pieces rest).1, (pieces rest).2) := by
  have hplain : c ≠ '\x7b' ∧ c ≠ '\x7d' := by simpa [isBrace] using h
  rw [pieces.eq_def]
  simp only [hplain.1, hplain.2, if_false]

theorem join_chars (s : String) : String.join (s.toList.map fun c => String.ofList [c]) = s := by
  rw [← String.toList_inj, String.toList_join, List.flatMap_map]
  simp

/-! ## Texts without braces -/

theorem pieces_of_no_braces {cs : List Char} (h : ∀ c ∈ cs, c ≠ '\x7b' ∧ c ≠ '\x7d') :
    pieces cs = (cs.map fun c => .literal [c], none) := by
  induction cs with
  | nil => rw [pieces]; rfl
  | cons c rest ih =>
      rw [List.forall_mem_cons] at h
      have hplain : isBrace c = false := by simp [isBrace, h.1]
      rw [pieces_plain hplain, ih h.2, List.map_cons]

/-- A text without braces gives itself. -/
theorem fill_of_no_braces [Halves] {s : String} (h : ∀ c ∈ s.toList, c ≠ '\x7b' ∧ c ≠ '\x7d')
    (bindings : Fields) : fill bindings s = .ok s := by
  have hparts : ∀ cs : List Char, (cs.map fun c => Piece.literal [c]).mapM
      (fillPiece (fillDeep 1 bindings) bindings) = .ok (cs.map fun c => String.ofList [c]) := by
    intro cs
    induction cs with
    | nil => rfl
    | cons c rest ih =>
        rw [List.map_cons, List.mapM_cons, ih]
        rfl
  unfold fill fillDeep
  rw [pieces_of_no_braces h]
  simp only [hparts, bind, Except.bind, join_chars]
  rfl

/-! ## Patterns spelled from parts -/

/-- A part of a content: a text that stands for itself, or the name of a binding. -/
inductive Part where
  | text (s : String)
  | field (name : String)
  deriving DecidableEq, Repr

/-- Whether a character may stand in an identifier.  Beyond ASCII all may. -/
def isNameChar (c : Char) : Bool := c.isAlphanum || c == '_' || 127 < c.toNat

/-- Whether a name is an identifier: all its characters may stand in one, and the first is no digit
of any script. -/
def isIdentifier (name : String) : Bool :=
  name.toList.head?.any (fun c => (Text.digitValue? c).isNone) && name.toList.all isNameChar

namespace Part

/-- A part as a pattern spells it: the braces of a text are doubled, a name stands in braces. -/
def spelled : Part → List Char
  | text s => s.toList.flatMap fun c => if isBrace c then [c, c] else [c]
  | field name => '\x7b' :: name.toList ++ ['\x7d']

/-- Whether the name of a part is an identifier. -/
def isProper : Part → Bool
  | text _ => true
  | field name => isIdentifier name

/-- Whether the name of a part is bound. -/
def isBound (bindings : List (String × String)) : Part → Bool
  | text _ => true
  | field name => Fields.has bindings name

/-- What a part shows where all names are bound. -/
def shown (bindings : List (String × String)) : Part → String
  | text s => s
  | field name => (Fields.get? bindings name).getD ""

/-- The pieces that a part is read as. -/
def pieces : Part → List Piece
  | text s => s.toList.map fun c => .literal [c]
  | field name => [.field name.toList none []]

end Part

/-- The pattern that parts are spelled as. -/
def spelled (parts : List Part) : String := String.ofList (parts.flatMap Part.spelled)

theorem ne_of_isNameChar {c d : Char} (h : isNameChar c = true) (hd : isNameChar d = false) :
    c ≠ d := by
  rintro rfl
  rw [h] at hd
  cases hd

/-- A name is read up to the brace that closes it. -/
theorem readName_close {name : List Char} (h : ∀ c ∈ name, isNameChar c = true)
    (rest : List Char) : readName false (name ++ '\x7d' :: rest) = .ok (name, .close, rest) := by
  induction name with
  | nil => rfl
  | cons c name ih =>
      rw [List.forall_mem_cons] at h
      have hopen := ne_of_isNameChar h.1 (d := '\x7b') (by decide)
      have hclose := ne_of_isNameChar h.1 (d := '\x7d') (by decide)
      have hmark := ne_of_isNameChar h.1 (d := '!') (by decide)
      have hcolon := ne_of_isNameChar h.1 (d := ':') (by decide)
      have hbracket := ne_of_isNameChar h.1 (d := '[') (by decide)
      simp only [List.cons_append, readName, Bool.false_eq_true, if_false, hopen, hclose, hmark,
        hcolon, beq_eq_false_iff_ne.mpr hbracket, ih h.2, Except.map]

/-- A name in braces is a field. -/
theorem pieces_field {name : List Char} (hne : name ≠ []) (h : ∀ c ∈ name, isNameChar c = true)
    (rest : List Char) :
    pieces ('\x7b' :: name ++ '\x7d' :: rest) =
      (.field name none [] :: (pieces rest).1, (pieces rest).2) := by
  obtain ⟨c, cs, rfl⟩ := List.exists_cons_of_ne_nil hne
  have hopen : c ≠ '\x7b' := ne_of_isNameChar (h c List.mem_cons_self) (by decide)
  have hfield : readField (c :: (cs ++ '\x7d' :: rest)) =
      .ok (.field (c :: cs) none [], rest) := by
    rw [← List.cons_append, readField, readName_close h rest]
  rw [pieces.eq_def]
  simp only [List.cons_append, if_true, hopen, if_false]
  split
  · rename_i flaw hread
    rw [hfield] at hread
    cases hread
  · rename_i piece others hread
    rw [hfield] at hread
    obtain ⟨rfl, rfl⟩ := Prod.mk.inj (Except.ok.inj hread)
    rfl

theorem isIdentifier_cases {name : String} (h : isIdentifier name = true) :
    ∃ c cs, name.toList = c :: cs ∧ Text.digitValue? c = none ∧
      ∀ d ∈ name.toList, isNameChar d = true := by
  simp only [isIdentifier, Bool.and_eq_true, List.all_eq_true] at h
  obtain ⟨hfirst, hchars⟩ := h
  cases hname : name.toList with
  | nil => simp [hname] at hfirst
  | cons c cs =>
      rw [hname] at hfirst hchars
      exact ⟨c, cs, rfl, by simpa using hfirst, hchars⟩

/-- The pieces of a part come before those of what follows it. -/
theorem pieces_spelled_append {part : Part} (h : part.isProper = true) (rest : List Char) :
    pieces (part.spelled ++ rest) = (part.pieces ++ (pieces rest).1, (pieces rest).2) := by
  cases part with
  | text s =>
      simp only [Part.spelled, Part.pieces]
      induction s.toList with
      | nil => rfl
      | cons c cs ih =>
          rw [List.flatMap_cons, List.append_assoc, List.map_cons, List.cons_append]
          cases hbrace : isBrace c with
          | true =>
              rw [if_pos rfl, List.cons_append, List.cons_append, List.nil_append,
                pieces_doubled hbrace, ih]
          | false =>
              rw [if_neg Bool.false_ne_true, List.cons_append, List.nil_append,
                pieces_plain hbrace, ih]
  | field name =>
      obtain ⟨c, cs, hname, -, hchars⟩ := isIdentifier_cases h
      have hne : name.toList ≠ [] := by simp [hname]
      rw [Part.spelled, List.append_assoc, List.singleton_append]
      exact pieces_field hne hchars rest

theorem pieces_spelled {parts : List Part} (h : ∀ part ∈ parts, part.isProper = true) :
    pieces (spelled parts).toList = (parts.flatMap Part.pieces, none) := by
  rw [spelled, String.toList_ofList]
  induction parts with
  | nil => rw [List.flatMap_nil, pieces]; rfl
  | cons part rest ih =>
      rw [List.forall_mem_cons] at h
      rw [List.flatMap_cons, pieces_spelled_append h.1, ih h.2, List.flatMap_cons]

/-- Identifiers are names of bindings. -/
theorem isSimpleName_of_isIdentifier {name : String} (h : isIdentifier name = true) :
    isSimpleName name.toList = true := by
  obtain ⟨c, cs, hname, hdigit, hchars⟩ := isIdentifier_cases h
  have hplain : ∀ d ∈ name.toList, startsStep d = false := by
    intro d hd
    have hpoint := ne_of_isNameChar (hchars d hd) (d := '.') (by decide)
    have hbracket := ne_of_isNameChar (hchars d hd) (d := '[') (by decide)
    simp [startsStep, hpoint, hbracket]
  have hindex : indexOf? name.toList = .ok none := by
    simp [indexOf?, hname, readDigits, hdigit, Except.map]
  simp only [isSimpleName, hindex, Bool.and_true, Bool.and_eq_true, List.all_eq_true]
  refine ⟨by simp [hname], ?_⟩
  intro d hd
  rw [hplain d hd]
  rfl

/-- What is spelled from parts with identifiers is a simple pattern. -/
theorem isSimple_spelled {parts : List Part} (h : ∀ part ∈ parts, part.isProper = true) :
    isSimple (spelled parts) = true := by
  rw [isSimple, pieces_spelled h]
  simp only [Option.isNone_none, Bool.true_and, List.all_eq_true, List.mem_flatMap]
  rintro piece ⟨part, hpart, hpiece⟩
  cases part with
  | text s =>
      obtain ⟨c, -, rfl⟩ := List.mem_map.mp hpiece
      rfl
  | field name =>
      obtain rfl := List.mem_singleton.mp hpiece
      exact isSimpleName_of_isIdentifier (h _ hpart)

section Shows

variable (bindings : List (String × String))

/-- A part shows what its pieces show together, if its name is bound. -/
theorem mapM_pieces [Halves] (part : Part) :
    (part.pieces.mapM (Piece.shown? (texts bindings))).map String.join =
      if part.isBound bindings then some (part.shown bindings) else none := by
  cases part with
  | text s =>
      have hchars : ∀ cs : List Char, (cs.map fun c => Piece.literal [c]).mapM
          (Piece.shown? (texts bindings)) = some (cs.map fun c => String.ofList [c]) := by
        intro cs
        induction cs with
        | nil => rfl
        | cons c rest ih =>
            rw [List.map_cons, List.mapM_cons, ih]
            rfl
      rw [Part.pieces, hchars, Option.map_some, join_chars]
      rfl
  | field name =>
      have hget : Piece.shown? (texts bindings) (.field name.toList none []) =
          Fields.get? bindings name := by
        rw [← text?_eq_shown?, Piece.text?, String.ofList_toList]
      simp only [Part.pieces, List.mapM_cons, List.mapM_nil, hget, Part.isBound, Part.shown,
        Fields.has_eq_isSome_get?]
      cases Fields.get? bindings name with
      | none => rfl
      | some s => simp

/-- The values of bound names and the texts of a content one after the other, if all names are
bound. -/
theorem shows?_spelled [Halves] {parts : List Part} (h : ∀ part ∈ parts, part.isProper = true) :
    shows? (texts bindings) (spelled parts) =
      if parts.all (Part.isBound bindings) then some (String.join (parts.map (Part.shown bindings)))
      else none := by
  rw [shows?, pieces_spelled h]
  dsimp only
  clear h
  induction parts with
  | nil => rfl
  | cons part rest ih =>
      have hjoin : ∀ first later : Option (List String),
          (first >>= fun texts => later >>= fun others => pure (texts ++ others)).map String.join =
            (first.map String.join).bind fun text => (later.map String.join).map (text ++ ·) := by
        intro first later
        cases first <;> cases later <;> simp [String.join_append]
      rw [List.flatMap_cons, List.mapM_append, hjoin, mapM_pieces, ih, List.all_cons, List.map_cons,
        String.join_cons]
      cases part.isBound bindings <;> cases rest.all (Part.isBound bindings) <;> rfl

end Shows

end Scriptorium.Pattern

import Scriptorium.Proofs.Json.Strings
import Scriptorium.Proofs.Rooms.Marks
set_option autoImplicit false

/-!
# Under which identifier a user is listed

Users are listed with what is known about their presence, and clients may put values under any key
of it, the key of the identifier included.  So a user may be listed under an identifier that is not
the user's own.  `aliases` reads off the actions of a run what each user has put there since the
user came; the main statement is that the listing is wrong exactly where such a value differs from
the user's own name.
-/

namespace Scriptorium.Rooms

open Fields (names)

/-! ## The key of the identifier -/

/-- The key under which a user is listed. -/
def idKey : Value := .text "user_id"

/-- Only the key of the identifier itself is written as its name: the name of a key that is no text
begins with a mark. -/
theorem keyName_eq_iff [Halves] (key : Value) : Json.keyName key = "user_id" ↔ key = idKey := by
  have hmarked : ∀ written : String, Key.marked written ≠ "user_id" := by
    intro written heq
    refine Key.not_isAscii_marked written ?_
    rw [heq]
    decide +kernel
  cases key with
  | text s => simp [Json.keyName, idKey]
  | _ => simp [Json.keyName, idKey, hmarked]

/-! ## What stands under the key -/

/-- The entries of a presence under the key of the identifier. -/
def idEntries (p : Presence) : Presence := p.filter fun entry => entry.1.same idKey

theorem idEntries_putEntry_of_ne (p : Presence) {key : Value} (value : Value) (hkey : key ≠ idKey) :
    idEntries (Value.putEntry p key value) = idEntries p := by
  have hnot : key.same idKey = false := by
    rw [Bool.eq_false_iff, ne_eq, idKey, Value.same_text_iff]
    exact hkey
  induction p with
  | nil => simp [Value.putEntry, idEntries, hnot]
  | cons entry rest ih =>
      obtain ⟨k, old⟩ := entry
      unfold Value.putEntry
      split
      · rename_i hsame
        have hk : k.same idKey = false := by
          rw [Bool.eq_false_iff, ne_eq, idKey, Value.same_text_iff]
          rintro rfl
          exact hkey ((Value.text_same_iff key "user_id").mp hsame).symm
        simp [idEntries, hk]
      · simp only [idEntries, List.filter_cons] at ih ⊢
        rw [ih]

theorem idEntries_putEntry_idKey (p : Presence) (value : Value) :
    idEntries (Value.putEntry p idKey value) = Value.putEntry (idEntries p) idKey value := by
  have hself : idKey.same idKey = true := (Value.same_text_iff idKey "user_id").mpr rfl
  induction p with
  | nil => simp [Value.putEntry, idEntries, hself]
  | cons entry rest ih =>
      obtain ⟨k, old⟩ := entry
      cases hk : k.same idKey with
      | true => simp [Value.putEntry, idEntries, hk]
      | false =>
          simp only [idEntries] at ih
          simp [Value.putEntry, idEntries, hk, ih]

/-- The presence has the value of the alias, if there is one, and nothing else under the key of the
identifier. -/
def Labelled (alias? : Option Value) (p : Presence) : Prop :=
  idEntries p = (alias?.map fun value => (idKey, value)).toList

namespace Labelled

variable {alias? : Option Value} {p : Presence}

theorem putEntry (h : Labelled alias? p) (key value : Value) :
    Labelled (if key.same idKey then some value else alias?) (Value.putEntry p key value) := by
  split
  · rename_i hsame
    obtain rfl : key = idKey := (Value.same_text_iff key "user_id").mp hsame
    rw [Labelled, idEntries_putEntry_idKey, h]
    cases alias? with
    | none => rfl
    | some old => simp [Value.putEntry, hsame]
  · rename_i hnot
    rw [Labelled, idEntries_putEntry_of_ne, h]
    rintro rfl
    exact hnot ((Value.same_text_iff idKey "user_id").mpr rfl)

theorem online (now : Stamp) : Labelled none (online now) := by
  simp [Labelled, idEntries, Rooms.online, lastSeen, idKey, Value.same]

theorem seen (h : Labelled alias? p) (now : Stamp) : Labelled alias? (seen now p) := by
  have hkey : lastSeen.same idKey = false := by simp [lastSeen, idKey, Value.same]
  have hput := h.putEntry lastSeen (.text now.text)
  simp only [hkey, Bool.false_eq_true, if_false] at hput
  exact hput

end Labelled

/-! ## What a status puts there -/

/-- The last value under the key of the identifier. -/
def lastId? : List (Value × Value) → Option Value
  | [] => none
  | (key, value) :: rest => (lastId? rest).or (if key.same idKey then some value else none)

theorem Labelled.foldl_putEntry {alias? : Option Value} {p : Presence} (h : Labelled alias? p)
    (pairs : List (Value × Value)) :
    Labelled ((lastId? pairs).or alias?)
      (pairs.foldl (fun p pair => Value.putEntry p pair.1 pair.2) p) := by
  induction pairs generalizing alias? p with
  | nil => exact h
  | cons pair rest ih =>
      obtain ⟨key, value⟩ := pair
      have hrest := ih (h.putEntry key value)
      simp only [lastId?, Option.or_assoc]
      split at hrest
      · rename_i hsame
        simpa [hsame] using hrest
      · rename_i hnot
        simpa [hnot] using hrest

/-- The identifier that a text puts into its sender's presence. -/
def claimedId? [Halves] (known : Bool) (data : String) : Option Value :=
  match readMessage? known data with
  | some (.presence, message) => lastId? (statusPairs (statusOf message))
  | _ => none

/-- A text changes what is under the key of the identifier by its claim alone. -/
theorem Labelled.noted [Halves] {alias? : Option Value} {p : Presence} (h : Labelled alias? p)
    (known : Bool) (s : Sender) (data : String) (r : Rooms) (taken : Nat) :
    Labelled ((claimedId? known data).or alias?)
      ((s.reaction (readMessage? known data) r taken).noted p) := by
  unfold claimedId?
  cases hread : readMessage? known data with
  | none => exact h
  | some read =>
      obtain ⟨type, message⟩ := read
      have hseen := h.seen s.now
      cases type with
      | presence =>
          have htaken := hseen.foldl_putEntry (statusPairs (statusOf message))
          rw [← takeOver_eq_foldl] at htaken
          simp only [Sender.reaction, Sender.reactionTo]
          split
          · exact htaken.seen s.now
          · exact htaken
      | comment =>
          simp only [Sender.reaction, Sender.reactionTo]
          split <;> exact hseen
      | _ => exact hseen

/-! ## The listing -/

/-- The identifiers under which the users of a room are listed. -/
def listedIds [Halves] (r : Rooms) (room : String) : List (Option Value) :=
  (r.usersIn room).map (·.field? "user_id")

/-- A user is listed under the alias, or else under the own name. -/
theorem Labelled.listedId [Halves] {alias? : Option Value} {p : Presence} (h : Labelled alias? p)
    (user : String) :
    Fields.get? (Fields.merge [("user_id", .text user)]
      (p.map fun (key, value) => (Json.keyName key, value))) "user_id" =
        some (alias?.getD (.text user)) := by
  have hkeys : (p.map fun entry => (Json.keyName entry.1, entry.2)).filter (·.1 == "user_id") =
      (idEntries p).map fun entry => (Json.keyName entry.1, entry.2) := by
    rw [List.filter_map, idEntries]
    congr 1
    apply List.filter_congr
    intro entry _
    rw [Function.comp_apply, Bool.eq_iff_iff, beq_iff_eq, keyName_eq_iff, idKey,
      Value.same_text_iff]
  rw [Fields.get?_merge, hkeys, h]
  cases alias? with
  | none => rfl
  | some value => rfl

/-! ## Runs -/

/-- What each user has put under the key of the identifier, by room. -/
abbrev Aliases := String → String → Option Value

/-- Who connects has no alias yet; a message may give its sender one. -/
def Action.rename [Halves] (known : Bool) (labels : Aliases) : Action → Aliases
  | connect socket room user _ => fun other name =>
      if other = room ∧ name = userOf socket user then none else labels other name
  | message _ s data => fun other name =>
      if other = s.room ∧ s.user = some name then (claimedId? known data).or (labels other name)
      else labels other name
  | _ => labels

/-- The aliases after a run. -/
def aliases [Halves] (known : Bool) (actions : List Action) : Aliases :=
  actions.foldl (Action.rename known) fun _ _ => none

/-- The marking of presences by aliases. -/
def labelling [Halves] (known : Bool) : Marking (Option Value) where
  come _ := none
  hear _ data alias? := (claimedId? known data).or alias?

theorem labelling_after [Halves] (known : Bool) (labels : Aliases) (action : Action) :
    (labelling known).after labels action = action.rename known labels := by
  cases action <;> rfl

theorem faithful_labelling [Halves] (known : Bool) : (labelling known).Faithful known Labelled where
  come := Labelled.online
  hear s data r taken _ _ _ h := h.noted known s data r taken

theorem tracked_aliases [Halves] (known : Bool) (actions : List Action) :
    Tracked Labelled (aliases known actions) (run known actions {}).rooms := by
  have hafter : (labelling known).after = Action.rename known := by
    funext labels action
    exact labelling_after known labels action
  rw [aliases, ← hafter]
  exact (Tracked.empty Labelled _).run (faithful_labelling known) Coherent.empty actions

/-- After every run the users of a room are listed one by one in the order of their sockets, each
under the alias or else under the own name. -/
theorem listedIds_run [Halves] (known : Bool) (actions : List Action) (room : String) :
    listedIds (run known actions {}).rooms room =
      (names ((run known actions {}).rooms.socketsIn room)).map fun user =>
        some ((aliases known actions room user).getD (.text user)) := by
  have hcoherent : Coherent (run known actions {}).rooms := Coherent.empty.run known actions
  have htracked := tracked_aliases known actions
  rw [← hcoherent.sameNames room]
  simp only [listedIds, usersIn, names, List.map_map]
  apply List.map_congr_left
  rintro ⟨user, p⟩ hmem
  have hget := (hcoherent.get?_presencesIn_eq_some_iff room user p).mpr hmem
  exact (htracked room user p hget).listedId user

/-- After every run the users of a room are listed under their own names if and only if none of
them has put anything else under the key of the identifier since the user came. -/
theorem listed_under_own_names_iff [Halves] (known : Bool) (actions : List Action) (room : String) :
    let r := (run known actions {}).rooms
    listedIds r room = (names (r.socketsIn room)).map (fun user => some (.text user)) ↔
      ∀ user ∈ names (r.socketsIn room), ∀ value,
        aliases known actions room user = some value → value = .text user := by
  intro r
  rw [listedIds_run, List.map_inj_left]
  refine forall₂_congr fun user _ => ?_
  cases aliases known actions room user with
  | none => simp
  | some value => simp

/-- A user comes as Ann and claims to be Bob. -/
def posing : List Action :=
  [.connect 1 "plan" (some "ann") ⟨0, none⟩,
    .message (fun _ _ => false) ⟨1, "plan", some "ann", ⟨0, none⟩⟩
      "\x7b\"type\": \"presence_update\", \"status\": \x7b\"user_id\": \"bob\"\x7d\x7d"]

section

open scoped Halves.Plain

/-- The room then holds Ann and lists Bob. -/
theorem ann_listed_as_bob :
    names ((run true posing {}).rooms.socketsIn "plan") = ["ann"] ∧
    (listedIds (run true posing {}).rooms "plan").map (·.bind Value.text?) = [some "bob"] ∧
    listedIds (run true posing {}).rooms "plan" ≠
      (names ((run true posing {}).rooms.socketsIn "plan")).map fun user => some (.text user) := by
  have hnames : names ((run true posing {}).rooms.socketsIn "plan") = ["ann"] := by decide +kernel
  have hlisted : (listedIds (run true posing {}).rooms "plan").map (·.bind Value.text?) =
      [some "bob"] := by decide +kernel
  refine ⟨hnames, hlisted, ?_⟩
  intro heq
  rw [heq, hnames] at hlisted
  simp [Value.text?] at hlisted

end

end Scriptorium.Rooms

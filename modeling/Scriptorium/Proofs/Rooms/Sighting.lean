import Scriptorium.Proofs.Rooms.Marks
set_option autoImplicit false

/-!
# When a user was last seen

The time at which a user was last seen is written by the clock of the server: when the user comes,
and at every message of a known type.  A message about the own presence writes it twice, before and
after the client's status is taken over, so that a client who names a time of its own is overruled.
A status that breaks off in the middle skips the second writing, and what the client wrote stays.

`sightings` reads the time of each user's latest sighting off a run, together with the value that a
broken status left in its place.  The main statement is that this value, if there is one, and the
time otherwise is what the registers hold.
-/

namespace Scriptorium.Rooms

/-! ## The entry of the time -/

/-- What a presence says about the time at which its user was last seen. -/
def seenIn (p : Presence) : Option Value :=
  (p.find? fun entry => entry.1.same lastSeen).map (·.2)

theorem same_lastSeen_iff (key : Value) : key.same lastSeen = true ↔ key = lastSeen :=
  Value.same_text_iff key "last_seen"

theorem seenIn_cons (key value : Value) (rest : Presence) :
    seenIn ((key, value) :: rest) = if key.same lastSeen then some value else seenIn rest := by
  cases hkey : key.same lastSeen <;> simp [seenIn, hkey]

theorem seenIn_putEntry (p : Presence) (key value : Value) :
    seenIn (Value.putEntry p key value) =
      if key.same lastSeen then some value else seenIn p := by
  induction p with
  | nil => exact seenIn_cons key value []
  | cons entry rest ih =>
      obtain ⟨k, old⟩ := entry
      unfold Value.putEntry
      by_cases hsame : k.same key = true
      · -- the entry that is written over is the one of the time only if the written key is
        have hkeys : k.same lastSeen = key.same lastSeen := by
          rw [Bool.eq_iff_iff, same_lastSeen_iff, same_lastSeen_iff]
          constructor
          · rintro rfl
            exact ((Value.text_same_iff key "last_seen").mp hsame).symm
          · rintro rfl
            exact (same_lastSeen_iff k).mp hsame
        rw [if_pos hsame, seenIn_cons, seenIn_cons, hkeys]
        split <;> rfl
      · rw [if_neg hsame, seenIn_cons, seenIn_cons, ih]
        by_cases hkey : key.same lastSeen = true
        · obtain rfl := (same_lastSeen_iff key).mp hkey
          simp [hsame, hkey]
        · simp [hkey]

theorem seenIn_seen (now : Stamp) (p : Presence) :
    seenIn (seen now p) = some (.text now.text) := by
  rw [seen, seenIn_putEntry, if_pos ((same_lastSeen_iff lastSeen).mpr rfl)]

/-- The last value under the key of the time. -/
def lastTime? (pairs : List (Value × Value)) : Option Value :=
  (pairs.filter fun pair => pair.1.same lastSeen).getLast?.map (·.2)

theorem seenIn_foldl_putEntry (pairs : List (Value × Value)) (p : Presence) :
    seenIn (pairs.foldl (fun p pair => Value.putEntry p pair.1 pair.2) p) =
      (lastTime? pairs).or (seenIn p) := by
  induction pairs generalizing p with
  | nil => rfl
  | cons pair rest ih =>
      rw [List.foldl_cons, ih, seenIn_putEntry]
      unfold lastTime?
      by_cases hkey : pair.1.same lastSeen = true
      · rw [if_pos hkey, List.filter_cons_of_pos (by exact hkey), List.getLast?_cons]
        cases (rest.filter fun pair => pair.1.same lastSeen).getLast? with
        | none => rfl
        | some last => rfl
      · rw [if_neg hkey, List.filter_cons_of_neg (by exact hkey)]

/-! ## Sightings -/

/-- When a user was seen, and what the user's client put in place of that time. -/
structure Sighting where
  time : Stamp
  forged : Option Value := none

/-- What a sighting leaves in the presence. -/
def Sighting.left (s : Sighting) : Value := s.forged.getD (.text s.time.text)

/-- The value that a text leaves in place of the time: the last one in the pairs of a status that
breaks off. -/
def forgedTime? : Option (MessageType × Fields) → Option Value
  | some (.presence, message) =>
      if (takeOver [] (statusOf message)).2 then none
      else lastTime? (statusPairs (statusOf message))
  | _ => none

/-- Who comes is sighted, and so is who sends a message of a known type. -/
def sighting [Halves] (known : Bool) : Marking (Option Sighting) where
  come now := some { time := now }
  hear s data earlier :=
    ((readMessage? known data).map fun message =>
      { time := s.now, forged := forgedTime? (some message) }).or earlier

/-- The latest sighting of each user in each room. -/
def sightings [Halves] (known : Bool) (actions : List Action) : Marks (Option Sighting) :=
  actions.foldl (sighting known).after fun _ _ => none

/-- The presence holds what the latest sighting left. -/
def Dated (latest : Option Sighting) (p : Presence) : Prop :=
  ∃ s, latest = some s ∧ seenIn p = some s.left

/-- A message of a known type from a user who is present leaves the time of its handling, or what
its status forged. -/
theorem seenIn_reactionTo (s : Sender) (taken : Nat) (message : Fields) (type : MessageType)
    (p : Presence) :
    seenIn ((s.reactionTo true taken message type).noted p) =
      some (Sighting.left { time := s.now, forged := forgedTime? (some (type, message)) }) := by
  have hseen := seenIn_seen s.now p
  cases type with
  | presence =>
      simp only [Sender.reactionTo, forgedTime?, Bool.not_true, Bool.false_or]
      split
      · exact seenIn_seen s.now _
      · simp only [takeOver_eq_foldl, seenIn_foldl_putEntry, hseen, Sighting.left]
        cases lastTime? (statusPairs (statusOf message)) with
        | none => rfl
        | some value => rfl
  | comment =>
      simp only [Sender.reactionTo]
      split <;> exact hseen
  | _ => exact hseen

theorem faithful_sighting [Halves] (known : Bool) : (sighting known).Faithful known Dated where
  come now := ⟨{ time := now }, rfl, by
    simp [Sighting.left, online, seenIn, same_lastSeen_iff]⟩
  hear := by
    intro s data r taken latest p hpresent hdated
    simp only [sighting, Sender.reaction]
    cases readMessage? known data with
    | none => exact hdated
    | some read =>
        obtain ⟨type, message⟩ := read
        rw [hpresent]
        exact ⟨_, rfl, seenIn_reactionTo s taken message type p⟩

/-! ## Runs -/

/-- After every run every presence holds what the latest sighting of its user left: a value that a
broken status of the client forged, or else the time of the server's clock when the user came or
sent the latest message of a known type.  So it holds that time if and only if nothing else was
forged. -/
theorem last_seen_by_server_clock_iff [Halves] (known : Bool) (actions : List Action)
    (room user : String) (p : Presence)
    (hpresent : Fields.get? ((run known actions {}).rooms.presencesIn room) user = some p) :
    ∃ s, sightings known actions room user = some s ∧
      seenIn p = some (s.forged.getD (.text s.time.text)) ∧
      (seenIn p = some (.text s.time.text) ↔
        ∀ value, s.forged = some value → value = .text s.time.text) := by
  have htracked : Tracked Dated (sightings known actions) (run known actions {}).rooms :=
    (Tracked.empty Dated _).run (faithful_sighting known) Coherent.empty actions
  obtain ⟨s, hlatest, hseen⟩ := htracked room user p hpresent
  refine ⟨s, hlatest, hseen, ?_⟩
  rw [hseen, Sighting.left]
  cases s.forged with
  | none => simp
  | some value => simp

/-- Ann comes, and a second later sends a status. -/
def annSends (status : String) : List Action :=
  [.connect 1 "plan" (some "ann") (Stamp.ofSeconds 0),
    .message (fun _ _ => false) ⟨1, "plan", some "ann", Stamp.ofSeconds 1⟩
      ("\x7b\"type\": \"presence_update\", \"status\": " ++ status ++ "\x7d")]

/-- Ann's presence after that status. -/
def annAfter [Halves] (status : String) : Option Presence :=
  Fields.get? ((run true (annSends status) {}).rooms.presencesIn "plan") "ann"

section

open scoped Halves.Plain

/-- A record is taken over whole, and the server's clock overrules the time it names. -/
theorem named_time_overruled :
    ∃ p, annAfter "\x7b\"last_seen\": \"never\"\x7d" = some p ∧
      seenIn p = some (.text (Stamp.ofSeconds 1).text) := by
  have hpresent : (annAfter "\x7b\"last_seen\": \"never\"\x7d").isSome = true := by
    decide +kernel
  have hsighted : (sightings true (annSends "\x7b\"last_seen\": \"never\"\x7d") "plan" "ann").map
      (fun s => (s.time, s.forged.isNone)) = some (Stamp.ofSeconds 1, true) := by
    decide +kernel
  obtain ⟨p, hp⟩ := Option.isSome_iff_exists.mp hpresent
  obtain ⟨s, hs, -, hiff⟩ := last_seen_by_server_clock_iff true _ "plan" "ann" p hp
  rw [hs, Option.map_some, Option.some.injEq, Prod.mk.injEq, Option.isNone_iff_eq_none] at hsighted
  refine ⟨p, hp, ?_⟩
  rw [← hsighted.1]
  refine hiff.mpr ?_
  intro value hforged
  rw [hsighted.2] at hforged
  cases hforged

/-- A list that breaks off behind such a pair is not overruled: what the client named stays, which
is the time of neither sighting. -/
theorem forged_time_kept :
    ((annAfter "[[\"last_seen\", \"never\"], 5]").bind seenIn).bind Value.text? = some "never" ∧
    (Stamp.ofSeconds 0).text ≠ "never" ∧ (Stamp.ofSeconds 1).text ≠ "never" := by
  decide +kernel

end

end Scriptorium.Rooms

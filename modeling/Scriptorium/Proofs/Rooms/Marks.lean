import Scriptorium.Proofs.Number
import Scriptorium.Proofs.Rooms.Run
set_option autoImplicit false

/-!
# Marks of presences

A status is taken over pair by pair, up to the first item that is no pair; `statusPairs` are these
pairs.

What a presence holds under some key can be followed along a run by a mark for each user of each
room: who comes gets a new mark, and a text changes the mark of its sender.  A `Marking` says how.
If both steps are faithful to what the presences say then so is every run; leaving, looking into a
room and telling news take presences away at most and need no thought.
-/

namespace Scriptorium.Rooms

/-! ## What a status puts into a presence -/

/-- The pairs at the beginning of a list. -/
def leadingPairs : List Value → List (Value × Value)
  | [] => []
  | item :: rest =>
      match Value.pair item with
      | .ok pair => pair :: leadingPairs rest
      | .error _ => []

/-- The pairs of a status that are taken over. -/
def statusPairs : Value → List (Value × Value)
  | .record fields => fields.map fun field => (.text field.1, field.2)
  | .list items => leadingPairs items
  | _ => []

theorem takeOver_eq_foldl (p : Presence) (status : Value) :
    (takeOver p status).1 =
      (statusPairs status).foldl (fun p pair => Value.putEntry p pair.1 pair.2) p := by
  have hgo : ∀ (items : List Value) (p : Presence), (takeOver.go p items).1 =
      (leadingPairs items).foldl (fun p pair => Value.putEntry p pair.1 pair.2) p := by
    intro items
    induction items with
    | nil => intro p; rfl
    | cons item rest ih =>
        intro p
        unfold takeOver.go leadingPairs
        cases Value.pair item with
        | error flaw => rfl
        | ok pair => exact ih (Value.putEntry p pair.1 pair.2)
  cases status with
  | record fields => simp only [takeOver, statusPairs, List.foldl_map]
  | list items => exact hgo items p
  | _ => rfl

/-! ## Marks -/

variable {μ : Type}

/-- A mark for each user of each room. -/
abbrev Marks (μ : Type) := String → String → μ

/-- How marks are given. -/
structure Marking (μ : Type) where
  /-- The mark of a user who has just come. -/
  come : Stamp → μ
  /-- The mark of a sender after a text. -/
  hear : Sender → String → μ → μ

/-- The marks after an action. -/
def Marking.after (marking : Marking μ) (marks : Marks μ) : Action → Marks μ
  | .connect socket room user now => fun other name =>
      if other = room ∧ name = userOf socket user then marking.come now else marks other name
  | .message _ s data => fun other name =>
      if other = s.room ∧ s.user = some name then marking.hear s data (marks other name)
      else marks other name
  | _ => marks

/-- The marks of a marking hold of presences as `suits` tells: of the presence of one who comes, and
after a text of a sender who is present if they did before. -/
structure Marking.Faithful [Halves] (marking : Marking μ) (known : Bool)
    (suits : μ → Presence → Prop) :
    Prop where
  come : ∀ now, suits (marking.come now) (online now)
  hear : ∀ (s : Sender) (data : String) (r : Rooms) (taken : Nat) (mark : μ) (p : Presence),
    r.isPresent s.room s.user = true → suits mark p →
      suits (marking.hear s data mark) ((s.reaction (readMessage? known data) r taken).noted p)

/-- Every presence is as its mark says. -/
def Tracked (suits : μ → Presence → Prop) (marks : Marks μ) (r : Rooms) : Prop :=
  ∀ room user p, Fields.get? (r.presencesIn room) user = some p → suits (marks room user) p

namespace Tracked

variable {suits : μ → Presence → Prop} {marks : Marks μ} {marking : Marking μ} {known : Bool}

theorem empty (suits : μ → Presence → Prop) (marks : Marks μ) : Tracked suits marks {} := by
  intro room user p hget
  cases hget

/-- Presences that are left are tracked as before. -/
theorem mono {before after : Rooms} (h : Tracked suits marks before) (hcoherent : Coherent before)
    (hwithin : Within before after) : Tracked suits marks after := by
  intro room user p hget
  have hmem := (hwithin.presences room).subset (Fields.mem_of_get?_eq_some hget)
  exact h room user p ((hcoherent.get?_presencesIn_eq_some_iff room user p).mpr hmem)

theorem connect [Halves] {r : Rooms} (hfaithful : marking.Faithful known suits)
    (h : Tracked suits marks r)
    (socket : Socket) (room : String) (user : Option String) (now : Stamp) :
    Tracked suits (marking.after marks (.connect socket room user now))
      (r.connect socket room user now).1 := by
  intro other name p hget
  rw [presencesIn_connect] at hget
  unfold Marking.after
  by_cases hroom : other = room
  · subst hroom
    rw [if_pos rfl] at hget
    by_cases hname : name = userOf socket user
    · subst hname
      rw [Fields.get?_put_self] at hget
      obtain rfl := Option.some.inj hget
      simpa using hfaithful.come now
    · rw [Fields.get?_put_of_ne _ _ hname] at hget
      simpa [hname] using h other name p hget
  · rw [if_neg hroom] at hget
    simpa [hroom] using h other name p hget

theorem changePresence [Halves] {r : Rooms} (hfaithful : marking.Faithful known suits)
    (h : Tracked suits marks r) (refuses : Refusals) (s : Sender) (data : String) (taken : Nat) :
    Tracked suits (marking.after marks (.message refuses s data))
      (r.changePresence s.room s.user (s.reaction (readMessage? known data) r taken).noted) := by
  intro other name p hget
  rw [get?_presencesIn_changePresence] at hget
  unfold Marking.after
  split at hget
  · rename_i hboth
    obtain ⟨rfl, huser⟩ := hboth
    obtain ⟨old, hold, rfl⟩ := Option.map_eq_some_iff.mp hget
    have hpresent : r.isPresent s.room s.user = true := by
      rw [huser, isPresent, Option.any_some, Fields.has_eq_true_iff, Fields.mem_names_iff]
      exact ⟨old, hold⟩
    simp only [huser, and_self, if_true]
    exact hfaithful.hear s data r taken _ old hpresent (h _ _ old hold)
  · rename_i hnot
    simp only [hnot, if_false]
    exact h other name p hget

theorem carryOut [Halves] {l : Ledger} (hfaithful : marking.Faithful known suits)
    (h : Tracked suits marks l.rooms) (hcoherent : Coherent l.rooms) (action : Action) :
    Tracked suits (marking.after marks action) (action.carryOut known l).rooms := by
  cases action with
  | connect socket room user now => exact h.connect hfaithful socket room user now
  | disconnect socket room user => exact h.mono hcoherent (within_disconnect _ socket room user)
  | broadcast refuses room text except exceptUsers =>
      exact h.mono hcoherent (within_broadcast _ refuses room text except exceptUsers)
  | message refuses s data =>
      rw [rooms_carryOut_message]
      have hnoted := h.changePresence hfaithful refuses s data l.taken
      have hstill := hcoherent.changePresence s.room s.user
        (s.reaction (readMessage? known data) l.rooms l.taken).noted
      unfold Reaction.apply
      cases (s.reaction (readMessage? known data) l.rooms l.taken).news with
      | none => exact hnoted
      | some told =>
          obtain ⟨news, except⟩ := told
          exact hnoted.mono hstill
            (within_broadcast _ refuses s.room (Json.write Json.spaced news) except [])

theorem run [Halves] {l : Ledger} (hfaithful : marking.Faithful known suits)
    (h : Tracked suits marks l.rooms) (hcoherent : Coherent l.rooms) (actions : List Action) :
    Tracked suits (actions.foldl marking.after marks) (Rooms.run known actions l).rooms := by
  induction actions generalizing marks l with
  | nil => exact h
  | cons action rest ih =>
      exact ih (h.carryOut hfaithful hcoherent action) (hcoherent.carryOut known action)

end Tracked

end Scriptorium.Rooms

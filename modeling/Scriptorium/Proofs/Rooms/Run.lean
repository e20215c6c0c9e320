import Scriptorium.Proofs.Rooms.Reaction
set_option autoImplicit false

/-!
# Runs of the rooms

Whatever reaches the rooms is one of four actions, carried out one after the other.  What an action
does to the registers is made of four changes: somebody connects, somebody leaves, a room is looked
into, a presence changes.  So a law that these four keep holds after every run, and the registers
agree after every run because `Coherent` is such a law.
-/

namespace Scriptorium.Rooms

open Fields (names)

/-- What one action leaves to the next: the registers, and how many identifiers are in use. -/
structure Ledger where
  rooms : Rooms := {}
  taken : Nat := 0
  deriving Repr

def Effect.ledger (e : Effect) : Ledger := ⟨e.rooms, e.taken⟩

/-- What can reach the rooms.  Which sockets refuse what may differ from action to action. -/
inductive Action where
  | connect (socket : Socket) (room : String) (user : Option String) (now : Stamp)
  | disconnect (socket : Socket) (room : String) (user : Option String)
  | broadcast (refuses : Refusals) (room text : String) (except : List Socket)
      (exceptUsers : List String)
  | message (refuses : Refusals) (sender : Sender) (data : String)

/-- Carries out an action.  `known` says whether types of messages are known. -/
def Action.carryOut [Halves] (known : Bool) (l : Ledger) : Action → Effect
  | connect socket room user now =>
      Effect.start (l.rooms.connect socket room user now).1 l.taken
  | disconnect socket room user => Effect.start (l.rooms.disconnect socket room user) l.taken
  | broadcast refuses room text except exceptUsers =>
      let (rooms, sent) := l.rooms.broadcast refuses room text except exceptUsers
      { Effect.start rooms l.taken with sent := sent }
  | message refuses sender data =>
      handle refuses known sender data (Effect.start l.rooms l.taken)

/-- Carries out actions one after the other. -/
def run [Halves] (known : Bool) : List Action → Ledger → Ledger
  | [], l => l
  | action :: rest, l => run known rest (action.carryOut known l).ledger

/-! ## What one action does -/

/-- The registers after a message are those after its reaction. -/
theorem rooms_carryOut_message [Halves] (known : Bool) (l : Ledger) (refuses : Refusals)
    (s : Sender) (data : String) :
    ((Action.message refuses s data).carryOut known l).rooms =
      ((s.reaction (readMessage? known data) l.rooms l.taken).apply refuses s
        (Effect.start l.rooms l.taken)).rooms :=
  (handle_answers refuses known s data rfl).rooms

section Preserves

variable {P : Rooms → Prop} (hleave : ∀ r room user, P r → P (r.leave room user))
  (hlook : ∀ r room, P r → P (r.lookInto room))
  (hchange : ∀ r room user f, P r → P (r.changePresence room user f))

include hleave hlook hchange

theorem Reaction.apply_preserves [Halves] (reaction : Reaction) (refuses : Refusals) (s : Sender)
    {e : Effect} (h : P e.rooms) : P (reaction.apply refuses s e).rooms := by
  have hnoted := hchange e.rooms s.room s.user reaction.noted h
  unfold Reaction.apply
  cases reaction.news with
  | none => exact hnoted
  | some told =>
      obtain ⟨news, except⟩ := told
      exact broadcast_preserves hleave hlook hnoted refuses s.room (Json.write Json.spaced news)
        except []

/-- A law that the four changes keep is kept by every action. -/
theorem Action.carryOut_preserves [Halves]
    (hconnect : ∀ r socket room user now, P r → P (r.connect socket room user now).1)
    (known : Bool) (action : Action) {l : Ledger} (h : P l.rooms) :
    P (action.carryOut known l).rooms := by
  cases action with
  | connect socket room user now => exact hconnect l.rooms socket room user now h
  | disconnect socket room user => exact disconnect_preserves hleave hlook h socket room user
  | broadcast refuses room text except exceptUsers =>
      exact broadcast_preserves hleave hlook h refuses room text except exceptUsers
  | message refuses s data =>
      rw [rooms_carryOut_message]
      exact Reaction.apply_preserves hleave hlook hchange _ refuses s h

/-- A law that the four changes keep holds after every run. -/
theorem run_preserves [Halves]
    (hconnect : ∀ r socket room user now, P r → P (r.connect socket room user now).1)
    (known : Bool) (actions : List Action) {l : Ledger} (h : P l.rooms) :
    P (run known actions l).rooms := by
  induction actions generalizing l with
  | nil => exact h
  | cons action rest ih =>
      apply ih
      exact Action.carryOut_preserves hleave hlook hchange hconnect known action h

end Preserves

theorem Coherent.carryOut [Halves] {l : Ledger} (h : Coherent l.rooms) (known : Bool)
    (action : Action) :
    Coherent (action.carryOut known l).rooms :=
  Action.carryOut_preserves (fun _ room user h => h.leave room user)
    (fun _ room h => h.lookInto room) (fun _ room user f h => h.changePresence room user f)
    (fun _ socket room user now h => h.connect socket room user now) known action h

/-! ## What a run does -/

theorem Coherent.run [Halves] {l : Ledger} (h : Coherent l.rooms) (known : Bool)
    (actions : List Action) :
    Coherent (Rooms.run known actions l).rooms :=
  run_preserves (fun _ room user h => h.leave room user) (fun _ room h => h.lookInto room)
    (fun _ room user f h => h.changePresence room user f)
    (fun _ socket room user now h => h.connect socket room user now) known actions h

/-- Nobody without a name has rooms. -/
theorem Coherent.empty_not_mem_subscriptions {r : Rooms} (h : Coherent r) :
    "" ∉ names r.subscriptions := by
  intro hmem
  obtain ⟨rooms, hget⟩ := (Fields.mem_names_iff _ _).mp hmem
  obtain ⟨room, hroom⟩ := List.exists_mem_of_ne_nil rooms
    (h.busy _ (Fields.mem_of_get?_eq_some hget))
  have hroomsOf : room ∈ r.roomsOf "" := by rwa [roomsOf, hget, Option.getD_some]
  exact h.named room ((h.subscribed room "").mp hroomsOf)

/-- After every run from empty registers, and for every room and user: the user has a socket in the
room if and only if the room is one of the user's, and if and only if the user has a presence in
the room; sockets and presences of the room stand in the same order; no user is kept without rooms;
and the empty name is nobody's. -/
theorem registers_agree_after_run [Halves] (known : Bool) (actions : List Action)
    (room user : String) :
    let r := (run known actions {}).rooms
    (user ∈ names (r.socketsIn room) ↔ room ∈ r.roomsOf user) ∧
    (room ∈ r.roomsOf user ↔ user ∈ names (r.presencesIn room)) ∧
    names (r.socketsIn room) = names (r.presencesIn room) ∧
    (∀ entry ∈ r.subscriptions, entry.2 ≠ []) ∧
    "" ∉ names (r.socketsIn room) ∧ "" ∉ names (r.presencesIn room) ∧
    "" ∉ names r.subscriptions := by
  intro r
  have h : Coherent r := Coherent.empty.run known actions
  have hsame := h.sameNames room
  refine ⟨(h.subscribed room user).symm, ?_, hsame.symm, h.busy, h.named room, ?_,
    h.empty_not_mem_subscriptions⟩
  · rw [hsame]
    exact h.subscribed room user
  · rw [hsame]
    exact h.named room

end Scriptorium.Rooms

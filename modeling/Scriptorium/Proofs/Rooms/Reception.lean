import Scriptorium.Proofs.Rooms.Run
set_option autoImplicit false

/-!
# What reaches a socket

A message may be told to its room as one text.  The main statement is about two sockets that stay
registered in a room and refuse no text: whatever else goes on, both receive the same texts from the
messages of others in this room, each text once and in the order of the messages.
-/

namespace Scriptorium.Rooms

/-! ## Texts that are received -/

/-- The text of a delivery of a text. -/
def Payload.text? : Payload → Option String
  | .text content => some content
  | _ => none

/-- The texts that a socket receives, in the order of sending. -/
def received (socket : Socket) (sent : List Delivery) : List String :=
  sent.filterMap fun delivery => if delivery.socket = socket then delivery.payload.text? else none

theorem received_append (socket : Socket) (earlier later : List Delivery) :
    received socket (earlier ++ later) = received socket earlier ++ received socket later :=
  List.filterMap_append

/-- Answers are no texts. -/
theorem received_answers (socket sender : Socket) (answers : List Value) :
    received socket (answers.map fun answer => ⟨sender, .json answer⟩) = [] := by
  simp [received, Payload.text?]

/-- How often a socket is registered in a room. -/
def registrations (r : Rooms) (room : String) (socket : Socket) : Nat :=
  ((r.socketsIn room).map (·.2)).count socket

/-- A socket that is not left out and does not refuse receives a broadcast once for each time it is
registered. -/
theorem received_broadcast (r : Rooms) (refuses : Refusals) (room text : String)
    (except : List Socket) {socket : Socket} (hexcept : socket ∉ except)
    (haccepts : refuses socket .text = false) :
    received socket (r.broadcast refuses room text except []).2 =
      List.replicate (registrations r room socket) text := by
  simp only [broadcast, audience, registrations, List.partition_eq_filter_filter]
  induction r.socketsIn room with
  | nil => rfl
  | cons entry rest ih =>
      obtain ⟨name, other⟩ := entry
      by_cases hsame : other = socket
      · subst hsame
        simpa [received, hexcept, haccepts, Payload.text?, List.replicate_succ] using ih
      · -- the head goes to another socket, whether it is told or not
        simp only [List.map_cons, List.count_cons_of_ne hsame]
        rw [← ih]
        simp only [received, List.filter_cons]
        split
        · simp only [List.filter_cons]
          split
          · simp [hsame]
          · rfl
        · rfl

/-! ## Texts that are told -/

/-- The text that a reaction tells the room. -/
def Reaction.text? [Halves] (reaction : Reaction) : Option String :=
  reaction.news.map fun told => Json.write Json.spaced told.1

/-- Nobody but the sender is left out when news are told. -/
theorem Sender.eq_of_mem_except (s : Sender) {message? : Option (MessageType × Fields)} {r : Rooms}
    {taken : Nat} {news : Value} {except : List Socket} {socket : Socket}
    (hnews : (s.reaction message? r taken).news = some (news, except))
    (hmem : socket ∈ except) : socket = s.socket := by
  cases message? with
  | none => cases hnews
  | some read =>
      obtain ⟨type, message⟩ := read
      cases type with
      | cursor =>
          cases hnews
          exact List.mem_singleton.mp hmem
      | content =>
          simp only [Sender.reaction, Sender.reactionTo] at hnews
          split at hnews
          · cases hnews
          · cases hnews
          · cases hnews
            exact List.mem_singleton.mp hmem
      | comment =>
          simp only [Sender.reaction, Sender.reactionTo] at hnews
          split at hnews
          · cases hnews
            cases hmem
          · cases hnews
      | presence =>
          simp only [Sender.reaction, Sender.reactionTo] at hnews
          split at hnews
          · cases hnews
            exact List.mem_singleton.mp hmem
          · cases hnews
      | listing => cases hnews

/-- A message of somebody else comes to a socket of the room as the text it tells, once for each
time the socket is registered. -/
theorem received_message [Halves] (known : Bool) (l : Ledger) (refuses : Refusals) (s : Sender)
    (data : String) {socket : Socket} (hother : s.socket ≠ socket)
    (haccepts : refuses socket .text = false) :
    received socket ((Action.message refuses s data).carryOut known l).sent =
      ((s.reaction (readMessage? known data) l.rooms l.taken).text?.toList).flatMap
        (List.replicate (registrations l.rooms s.room socket)) := by
  obtain ⟨answers, hsent⟩ := (handle_answers refuses known s data
    (e := Effect.start l.rooms l.taken) rfl).sent
  simp only [Action.carryOut, hsent, received_append, received_answers, List.append_nil]
  simp only [Reaction.apply, Reaction.text?, Effect.start]
  cases hnews : (s.reaction (readMessage? known data) l.rooms l.taken).news with
  | none => rfl
  | some told =>
      obtain ⟨news, except⟩ := told
      have hexcept : socket ∉ except := by
        intro hmem
        exact hother (s.eq_of_mem_except hnews hmem).symm
      simp only [List.nil_append, received_broadcast _ refuses _ _ except hexcept haccepts,
        registrations, socketsIn_changePresence, Option.map_some, Option.toList_some,
        List.flatMap_singleton]

/-! ## Runs -/

/-- Something holds of the registers at the beginning of a run, after each of its actions and so at
its end. -/
def Throughout [Halves] (known : Bool) (P : Rooms → Prop) : List Action → Ledger → Prop
  | [], l => P l.rooms
  | action :: rest, l => P l.rooms ∧ Throughout known P rest (action.carryOut known l).ledger

theorem Throughout.mono [Halves] {known : Bool} {P Q : Rooms → Prop} (himp : ∀ r, P r → Q r)
    {actions : List Action} {l : Ledger} (h : Throughout known P actions l) :
    Throughout known Q actions l := by
  induction actions generalizing l with
  | nil => exact himp _ h
  | cons action rest ih => exact ⟨himp _ h.1, ih h.2⟩

/-- The socket refuses no text while the action is carried out. -/
def Action.AcceptedBy (socket : Socket) : Action → Prop
  | broadcast refuses .. | message refuses .. => refuses socket .text = false
  | _ => True

/-- Puts together, in the order of the run, what `texts` gives for each message that is wanted. -/
def gather [Halves] (known : Bool) (wanted : Sender → Bool)
    (texts : Refusals → Sender → String → Ledger → List String) : List Action → Ledger → List String
  | [], _ => []
  | action :: rest, l =>
      (match action with
        | .message refuses s data => if wanted s then texts refuses s data l else []
        | _ => []) ++ gather known wanted texts rest (action.carryOut known l).ledger

/-- The texts that the wanted messages of a run tell their rooms. -/
def told [Halves] (known : Bool) (wanted : Sender → Bool) : List Action → Ledger → List String :=
  gather known wanted fun _ s data l =>
    (s.reaction (readMessage? known data) l.rooms l.taken).text?.toList

/-- The texts that a socket receives while the wanted messages of a run are handled. -/
def heard [Halves] (known : Bool) (wanted : Sender → Bool) (socket : Socket) :
    List Action → Ledger → List String :=
  gather known wanted fun refuses s data l =>
    received socket ((Action.message refuses s data).carryOut known l).sent

/-- A socket that is registered once in a room throughout a run hears what the messages of others
tell there. -/
theorem heard_eq_told [Halves] {known : Bool} {wanted : Sender → Bool} {room : String}
    {socket : Socket}
    (hwanted : ∀ s, wanted s = true → s.room = room ∧ s.socket ≠ socket) {actions : List Action}
    {l : Ledger} (honce : Throughout known (registrations · room socket = 1) actions l)
    (haccepts : ∀ action ∈ actions, action.AcceptedBy socket) :
    heard known wanted socket actions l = told known wanted actions l := by
  induction actions generalizing l with
  | nil => rfl
  | cons action rest ih =>
      obtain ⟨hhere, hlater⟩ := honce
      have hrest := ih hlater fun later hmem => haccepts later (List.mem_cons_of_mem action hmem)
      -- later actions agree by induction; of this one only a wanted message counts
      unfold heard told at hrest ⊢
      simp only [gather, hrest]
      congr 1
      cases action with
      | message refuses s data =>
          simp only
          split
          · rename_i hs
            obtain ⟨rfl, hother⟩ := hwanted s hs
            have hrefuses : refuses socket .text = false := haccepts _ List.mem_cons_self
            rw [received_message known l refuses s data hother hrefuses, hhere]
            cases (s.reaction (readMessage? known data) l.rooms l.taken).text? with
            | none => rfl
            | some text => rfl
          · rfl
      | _ => rfl

/-- A message to the room that comes from neither of two sockets. -/
def fromOthers (room : String) (left right : Socket) (s : Sender) : Bool :=
  s.room == room && s.socket != left && s.socket != right

theorem fromOthers_eq_true_iff (room : String) (left right : Socket) (s : Sender) :
    fromOthers room left right s = true ↔ s.room = room ∧ s.socket ≠ left ∧ s.socket ≠ right := by
  simp only [fromOthers, Bool.and_eq_true, beq_iff_eq, bne_iff_ne, and_assoc]

/-- Two sockets that are registered once in a room throughout a run and refuse no text: from the
messages of all others in this room both receive exactly the texts that these messages tell, each
once and in the order of the messages. -/
theorem both_hear_what_others_tell [Halves] (known : Bool) (actions : List Action) (l : Ledger)
    (room : String) (left right : Socket)
    (honce : Throughout known
      (fun r => registrations r room left = 1 ∧ registrations r room right = 1) actions l)
    (haccepts : ∀ action ∈ actions, action.AcceptedBy left ∧ action.AcceptedBy right) :
    heard known (fromOthers room left right) left actions l =
      told known (fromOthers room left right) actions l ∧
    heard known (fromOthers room left right) right actions l =
      told known (fromOthers room left right) actions l := by
  have hleft : ∀ s, fromOthers room left right s = true → s.room = room ∧ s.socket ≠ left := by
    intro s hs
    obtain ⟨hroom, hne, -⟩ := (fromOthers_eq_true_iff room left right s).mp hs
    exact ⟨hroom, hne⟩
  have hright : ∀ s, fromOthers room left right s = true → s.room = room ∧ s.socket ≠ right := by
    intro s hs
    obtain ⟨hroom, -, hne⟩ := (fromOthers_eq_true_iff room left right s).mp hs
    exact ⟨hroom, hne⟩
  refine ⟨heard_eq_told hleft (honce.mono fun _ h => h.1) ?_,
    heard_eq_told hright (honce.mono fun _ h => h.2) ?_⟩
  · intro action hmem
    exact (haccepts action hmem).1
  · intro action hmem
    exact (haccepts action hmem).2

/-- Guests come, talk, fail and go while two users stay. -/
def busyRoom : List Action :=
  [.message (fun socket _ => socket == 4) ⟨3, "plan", some "cy", ⟨0, none⟩⟩
      "\x7b\"type\": \"cursor_update\", \"position\": 7\x7d",
    .disconnect 3 "plan" (some "cy"),
    .connect 5 "plan" none ⟨0, none⟩,
    .message (fun _ _ => false) ⟨5, "plan", none, ⟨0, none⟩⟩
      "\x7b\"type\": \"comment\", \"comment\": \"hm\", \"range\": [1, 2]\x7d",
    .message (fun _ _ => false) ⟨1, "plan", some "ann", ⟨0, none⟩⟩
      "\x7b\"type\": \"get_presence\"\x7d"]

def beforeBusyRoom [Halves] : Ledger :=
  run true [.connect 1 "plan" (some "ann") ⟨0, none⟩, .connect 2 "plan" (some "bob") ⟨0, none⟩,
    .connect 3 "plan" (some "cy") ⟨0, none⟩, .connect 4 "plan" (some "di") ⟨0, none⟩] {}

section

open scoped Halves.Plain

theorem ann_and_bob_hear_both_guests :
    (told true (fromOthers "plan" 1 2) busyRoom beforeBusyRoom).length = 2 ∧
    heard true (fromOthers "plan" 1 2) 1 busyRoom beforeBusyRoom =
      told true (fromOthers "plan" 1 2) busyRoom beforeBusyRoom ∧
    heard true (fromOthers "plan" 1 2) 2 busyRoom beforeBusyRoom =
      told true (fromOthers "plan" 1 2) busyRoom beforeBusyRoom := by
  refine ⟨by decide +kernel,
    both_hear_what_others_tell true busyRoom beforeBusyRoom "plan" 1 2 ?_ ?_⟩
  · simp only [busyRoom, Throughout]
    decide +kernel
  · simp [busyRoom, Action.AcceptedBy]

end

end Scriptorium.Rooms

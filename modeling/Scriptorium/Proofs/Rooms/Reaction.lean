import Scriptorium.Proofs.Rooms.Registers
import Scriptorium.Rooms.Message
set_option autoImplicit false

/-!
# What a message brings about

Handling a text is a chain of sends and changes, each of which may fail and end the chain.  Seen
from the rooms it comes to little: the presence of the sender changes, one piece of news may be
told to the room, and all the rest are answers to the sender alone.  `Reaction` is this account,
read off the text without any sending; `handle_answers` says that handling a text is its reaction,
followed by answers.
-/

namespace Scriptorium.Rooms

/-! ## Reactions -/

/-- What a message brings about apart from the answers to its sender. -/
structure Reaction where
  /-- How the sender's presence changes. -/
  noted : Presence → Presence := id
  /-- What is told to the room, and which sockets are left out. -/
  news : Option (Value × List Socket) := none
  /-- How many identifiers are taken. -/
  ids : Nat := 0

/-- The status that a message of the type `presence` carries. -/
def statusOf (message : Fields) : Value := fieldOr message "status" (.record [])

/-- The reaction to a message of a known type.  `present` says whether its sender is present in the
room, and `taken` how many identifiers are in use. -/
def Sender.reactionTo (s : Sender) (present : Bool) (taken : Nat) (message : Fields) :
    MessageType → Reaction
  | .cursor =>
      { noted := seen s.now
        news := some (.record [("type", .text "cursor_update"), s.signed,
          ("position", fieldOr message "position" .null),
          ("user_info", fieldOr message "user_info" (.record [])), s.stamped], [s.socket]) }
  | .content =>
      let changes := fieldOr message "changes" (.list [])
      { noted := seen s.now
        news := match changes.truthy, fieldOr message "version" .null with
          | false, _ | _, .null => none
          | true, version => some (.record [("type", .text "content_update"), s.signed,
              ("changes", changes), ("version", version), s.stamped], [s.socket]) }
  | .comment =>
      let comment := fieldOr message "comment" .null
      let range := fieldOr message "range" .null
      if comment.truthy && range.truthy then
        { noted := seen s.now
          news := some (.record [("type", .text "comment"),
            ("id", .text ("comment_" ++ String.ofList (Ident.ofSupply (taken + 1)).digits)),
            s.signed, ("comment", comment), ("range", range), s.stamped,
            ("status", .text "active")], [])
          ids := 1 }
      else { noted := seen s.now }
  | .presence =>
      let takes : Presence → Presence := fun p => (takeOver (seen s.now p) (statusOf message)).1
      if !present || (takeOver [] (statusOf message)).2 then
        { noted := seen s.now ∘ takes
          news := some (.record [("type", .text "presence_update"), s.signed,
            ("status", statusOf message), s.stamped], [s.socket]) }
      else { noted := takes }
  | .listing => { noted := seen s.now }

/-- The type and the fields of a value that is a message of a known type. -/
def knownMessage? (known : Bool) : Value → Option (MessageType × Fields)
  | .record fields => (knownType? known (fieldOr fields "type" .null)).map (·, fields)
  | _ => none

/-- The message of a known type that a text holds. -/
def readMessage? [Halves] (known : Bool) (data : String) : Option (MessageType × Fields) :=
  match Json.read data with
  | .ok message => knownMessage? known message
  | .error _ => none

/-- The reaction to a message, if it is one of a known type. -/
def Sender.reaction (s : Sender) (message? : Option (MessageType × Fields)) (r : Rooms)
    (taken : Nat) : Reaction :=
  match message? with
  | some (type, message) => s.reactionTo (r.isPresent s.room s.user) taken message type
  | none => {}

/-- Carries a reaction out. -/
def Reaction.apply [Halves] (reaction : Reaction) (refuses : Refusals) (s : Sender) (e : Effect) :
    Effect :=
  let rooms := e.rooms.changePresence s.room s.user reaction.noted
  match reaction.news with
  | none => { e with rooms := rooms, taken := e.taken + reaction.ids }
  | some (news, except) =>
      let (rooms, sent) := rooms.broadcast refuses s.room (Json.write Json.spaced news) except []
      { e with rooms := rooms, sent := e.sent ++ sent, taken := e.taken + reaction.ids }

/-! ## Answers -/

/-- Nothing but answers to one socket lies between two points of an action. -/
structure Answers (socket : Socket) (before after : Effect) : Prop where
  rooms : after.rooms = before.rooms
  taken : after.taken = before.taken
  sent : ∃ answers : List Value,
    after.sent = before.sent ++ answers.map fun answer => ⟨socket, .json answer⟩

namespace Answers

variable {socket : Socket} {first second third : Effect}

theorem refl (socket : Socket) (e : Effect) : Answers socket e e :=
  ⟨rfl, rfl, [], by simp⟩

theorem trans (h : Answers socket first second) (h' : Answers socket second third) :
    Answers socket first third := by
  obtain ⟨earlier, hearlier⟩ := h.sent
  obtain ⟨later, hlater⟩ := h'.sent
  refine ⟨h'.rooms.trans h.rooms, h'.taken.trans h.taken, earlier ++ later, ?_⟩
  rw [hlater, hearlier, List.map_append, List.append_assoc]

/-- Whether an action goes on is no matter of what it has sent. -/
theorem withResult (h : Answers socket first second) (result : Outcome Unit) :
    Answers socket first { second with result := result } :=
  ⟨h.rooms, h.taken, h.sent⟩

theorem send (h : Answers socket first second) (refuses : Refusals) (answer : Value) :
    Answers socket first (second.send refuses socket (.json answer)) := by
  refine h.trans ?_
  unfold Effect.send Effect.andThen
  split
  · split
    · exact (refl socket second).withResult _
    · exact ⟨rfl, rfl, [answer], rfl⟩
  · exact refl socket second

end Answers

/-! ## Handling is reacting and answering -/

section Perform

variable (refuses : Refusals) (s : Sender) (message : Fields) {e : Effect} (hok : e.result = .ok ())

include hok

theorem shareCursor_answers [Halves] (present : Bool) :
    Answers s.socket ((s.reactionTo present e.taken message .cursor).apply refuses s e)
      (perform refuses s .cursor message e) := by
  simp only [perform, shareCursor, Effect.change, Effect.broadcast, Effect.andThen, hok]
  exact (Answers.refl s.socket _).withResult _

theorem shareContent_answers [Halves] (present : Bool) :
    Answers s.socket ((s.reactionTo present e.taken message .content).apply refuses s e)
      (perform refuses s .content message e) := by
  simp only [perform, shareContent, Sender.reactionTo, Reaction.apply, Effect.change,
    Effect.broadcast, Effect.andThen, hok]
  generalize fieldOr message "version" .null = version
  generalize (fieldOr message "changes" (.list [])).truthy = full
  cases full with
  | false => exact ((Answers.refl s.socket _).withResult _).send refuses _
  | true =>
      cases version with
      | null => exact ((Answers.refl s.socket _).withResult _).send refuses _
      | _ => exact ((Answers.refl s.socket _).withResult _).send refuses _

theorem shareComment_answers [Halves] (present : Bool) :
    Answers s.socket ((s.reactionTo present e.taken message .comment).apply refuses s e)
      (perform refuses s .comment message e) := by
  simp only [perform, shareComment, Sender.reactionTo, Effect.change, Effect.broadcast,
    Effect.andThen, hok]
  split
  · exact (Answers.refl s.socket _).withResult _
  · exact ((Answers.refl s.socket _).withResult _).send refuses _

theorem sharePresence_answers [Halves] :
    Answers s.socket
      ((s.reactionTo (e.rooms.isPresent s.room s.user) e.taken message .presence).apply refuses s e)
      (perform refuses s .presence message e) := by
  have hstatus : fieldOr message "status" (.record []) = statusOf message := rfl
  -- the presence changes up to three times in a row, which is one change
  simp only [perform, sharePresence, hstatus, Effect.change, Effect.broadcast, Effect.andThen, hok,
    isPresent_changePresence, changePresence_changePresence]
  by_cases hwhole : (!e.rooms.isPresent s.room s.user || (takeOver [] (statusOf message)).2) = true
  · simp only [Sender.reactionTo, hwhole, if_true]
    exact (Answers.refl s.socket _).withResult _
  · simp only [Sender.reactionTo, hwhole]
    exact (Answers.refl s.socket _).withResult _

theorem listUsers_answers [Halves] (present : Bool) :
    Answers s.socket ((s.reactionTo present e.taken message .listing).apply refuses s e)
      (perform refuses s .listing message e) := by
  simp only [perform, listUsers, Effect.change, Effect.andThen, hok]
  exact ((Answers.refl s.socket _).withResult _).send refuses _

/-- Carrying out a message of a known type is its reaction, followed by answers. -/
theorem perform_answers [Halves] (type : MessageType) :
    Answers s.socket
      ((s.reactionTo (e.rooms.isPresent s.room s.user) e.taken message type).apply refuses s e)
      (perform refuses s type message e) := by
  cases type with
  | cursor => exact shareCursor_answers refuses s message hok _
  | content => exact shareContent_answers refuses s message hok _
  | comment => exact shareComment_answers refuses s message hok _
  | presence => exact sharePresence_answers refuses s message hok
  | listing => exact listUsers_answers refuses s message hok _

end Perform

/-- Only a text that is not empty names a known type. -/
theorem truthy_of_knownType? {known : Bool} {type : Value} {kind : MessageType}
    (h : knownType? known type = some kind) : type.truthy = true ∧ type.isScalar = true := by
  unfold knownType? at h
  split at h
  · obtain ⟨name, htext, hname⟩ := Option.bind_eq_some_iff.mp h
    cases type with
    | text s =>
        obtain rfl : s = name := Option.some.inj htext
        refine ⟨?_, rfl⟩
        simp only [Value.truthy, Bool.not_eq_true', String.isEmpty_eq_false_iff]
        rintro rfl
        simp [MessageType.ofName?] at hname
    | _ => cases htext
  · cases h

/-- A text without a known type changes nothing. -/
theorem Reaction.apply_none [Halves] (refuses : Refusals) (s : Sender) (e : Effect) :
    Reaction.apply {} refuses s e = e := by
  simp only [Reaction.apply, changePresence_id, Nat.add_zero]

theorem dispatch_answers [Halves] (refuses : Refusals) (known : Bool) (s : Sender) (message : Value)
    {e : Effect} (hok : e.result = .ok ()) :
    Answers s.socket ((s.reaction (knownMessage? known message) e.rooms e.taken).apply refuses s e)
      (dispatch refuses known s message e) := by
  cases message with
  | record fields =>
      simp only [dispatch, knownMessage?]
      cases hkind : knownType? known (fieldOr fields "type" .null) with
      | some kind =>
          obtain ⟨htruthy, hscalar⟩ := truthy_of_knownType? hkind
          simp only [htruthy, hscalar, Bool.not_true, Bool.false_eq_true, if_false]
          exact perform_answers refuses s fields hok kind
      | none =>
          simp only [Option.map_none, Sender.reaction, Reaction.apply_none]
          split
          · exact (Answers.refl s.socket e).send refuses _
          · split
            · exact (Answers.refl s.socket e).withResult _
            · exact (Answers.refl s.socket e).send refuses _
  | _ =>
      simp only [dispatch, knownMessage?, Sender.reaction, Reaction.apply_none]
      exact (Answers.refl s.socket e).withResult _

/-- Handling a text is its reaction, followed by answers to the sender. -/
theorem handle_answers [Halves] (refuses : Refusals) (known : Bool) (s : Sender) (data : String)
    {e : Effect} (hok : e.result = .ok ()) :
    Answers s.socket ((s.reaction (readMessage? known data) e.rooms e.taken).apply refuses s e)
      (handle refuses known s data e) := by
  simp only [handle, readMessage?]
  cases Json.read data with
  | error error =>
      simp only [Sender.reaction, Reaction.apply_none]
      cases error with
      | malformed fault => exact (Answers.refl s.socket e).send refuses _
      | _ => exact (Answers.refl s.socket e).send refuses _
  | ok message =>
      have hdispatch := dispatch_answers refuses known s message hok
      simp only
      split
      · exact hdispatch
      · exact (hdispatch.withResult _).send refuses _

end Scriptorium.Rooms

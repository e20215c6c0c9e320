import Mathlib.Data.List.Nodup
import Scriptorium.Proofs.Rooms.Reception
import Scriptorium.Proofs.Rooms.Turn
import Scriptorium.Proofs.Text.Numeral
set_option autoImplicit false

/-!
# What a message is answered with and whom it reaches

Handling a text never fails as long as its sender can be answered.  A text that is no message of a
known type is answered by one complaint and changes nothing; a message of a known type is carried
out by its handler.

Where no socket refuses anything, there is one equation for each handler that gives all that is sent
and all that changes.  From these the main statement tells, for every socket, what it is sent: the
others in the room hear of changes, comments and cursors once for each name under which they are
registered, and a message that lacks something is told to nobody but its sender.
-/

namespace Scriptorium.Rooms

open Fields (names)

/-! ## Texts that are messages -/

/-- The names of the types of messages that are known. -/
def typeNames (known : Bool) : List String :=
  if known then ["cursor_update", "content_update", "comment", "presence_update", "get_presence"]
  else []

theorem isSome_ofName?_iff (name : String) :
    (MessageType.ofName? name).isSome = true ↔ name ∈ typeNames true := by
  unfold MessageType.ofName? typeNames
  split <;> simp_all

theorem eq_of_ofName?_presence {name : String} (h : MessageType.ofName? name = some .presence) :
    name = "presence_update" := by
  unfold MessageType.ofName? at h
  split at h <;> simp_all

theorem isSome_knownType?_iff (known : Bool) (type : Value) :
    (knownType? known type).isSome = true ↔
      ∃ name, type = .text name ∧ name ∈ typeNames known := by
  cases known with
  | false => simp [knownType?, typeNames]
  | true =>
      cases type with
      | text name => simpa [knownType?, Value.text?] using isSome_ofName?_iff name
      | _ => simp [knownType?, Value.text?]

theorem fieldOr_type_eq_text_iff (fields : Fields) (name : String) :
    fieldOr fields "type" .null = .text name ↔ Fields.get? fields "type" = some (.text name) := by
  unfold fieldOr
  cases Fields.get? fields "type" <;> simp

/-- A text is a message of a known type just if it is a record that names one. -/
theorem isSome_readMessage?_iff [Halves] (known : Bool) (data : String) :
    (readMessage? known data).isSome = true ↔
      ∃ fields name, Json.read data = .ok (.record fields) ∧
        Fields.get? fields "type" = some (.text name) ∧ name ∈ typeNames known := by
  unfold readMessage?
  cases hread : Json.read data with
  | error flaw => simp
  | ok message =>
      cases message with
      | record fields =>
          simp only [knownMessage?, Option.isSome_map, isSome_knownType?_iff,
            fieldOr_type_eq_text_iff]
          simp
      | _ => simp [knownMessage?]

theorem readMessage?_eq_none_iff [Halves] (known : Bool) (data : String) :
    readMessage? known data = none ↔
      ¬ ∃ fields name, Json.read data = .ok (.record fields) ∧
        Fields.get? fields "type" = some (.text name) ∧ name ∈ typeNames known := by
  rw [← isSome_readMessage?_iff, Bool.not_eq_true, Option.isSome_eq_false_iff,
    Option.isNone_iff_eq_none]

/-- A message about the own presence is a record of this type. -/
theorem type_of_presence [Halves] {known : Bool} {data : String} {fields message : Fields}
    (hread : Json.read data = .ok (.record fields))
    (hmessage : readMessage? known data = some (.presence, message)) :
    Fields.get? fields "type" = some (.text "presence_update") := by
  simp only [readMessage?, hread, knownMessage?, Option.map_eq_some_iff, Prod.mk.injEq] at hmessage
  obtain ⟨kind, hkind, rfl, -⟩ := hmessage
  obtain ⟨name, htype, -⟩ := (isSome_knownType?_iff known _).mp (Option.isSome_of_eq_some hkind)
  rw [← fieldOr_type_eq_text_iff, htype]
  rw [htype] at hkind
  cases known with
  | false => cases hkind
  | true => rw [eq_of_ofName?_presence hkind]

/-- Handling fails only where its answer is refused. -/
theorem result_handle [Halves] (refuses : Refusals) (known : Bool) (s : Sender) (data : String)
    {e : Effect} (hok : e.result = .ok ()) (hanswers : refuses s.socket .json = false) :
    (handle refuses known s data e).result = .ok () := by
  have hsent : ∀ (text : String) {e : Effect}, e.result = .ok () →
      (e.send refuses s.socket (complaint text)).result = .ok () := by
    intro text e hok
    rw [Effect.send_accepted (complaint text) hok hanswers]
    exact hok
  unfold handle
  cases Json.read data with
  | error flaw => cases flaw <;> exact hsent _ hok
  | ok message =>
      simp only
      split
      · assumption
      · exact hsent _ rfl

/-- Handling a text from a socket that refuses nothing always succeeds, whatever the registers hold
and whoever else refuses.  A text that is no record, or one whose type is no name of a known type,
is answered by one complaint to its sender, nothing else is sent, and nothing changes. -/
theorem every_text_is_handled [Halves] (refuses : Refusals) (known : Bool) (s : Sender)
    (data : String)
    (r : Rooms) (taken : Nat) (hsends : ∀ channel, refuses s.socket channel = false) :
    let after := handle refuses known s data (Effect.start r taken)
    after.result = .ok () ∧
    ((¬ ∃ fields name, Json.read data = .ok (.record fields) ∧
        Fields.get? fields "type" = some (.text name) ∧ name ∈ typeNames known) →
      after.sent = [⟨s.socket, .json (.record [("error", .text (rebuke data))])⟩] ∧
      after.rooms.connections = r.connections ∧ after.rooms.subscriptions = r.subscriptions ∧
      after.rooms.presence = r.presence ∧ after.taken = taken) := by
  intro after
  refine ⟨result_handle refuses known s data rfl (hsends .json), ?_⟩
  intro hnone
  have hunread : readMessage? known data = none := (readMessage?_eq_none_iff known data).mpr hnone
  have hafter : after = { Effect.start r taken with
      sent := [] ++ [⟨s.socket, complaint (rebuke data)⟩] } := by
    have hhandled := handle_unread refuses s hunread (e := Effect.start r taken) rfl
    rw [Effect.send_accepted _ rfl (hsends _)] at hhandled
    exact hhandled
  rw [hafter]
  exact ⟨rfl, rfl, rfl, rfl, rfl⟩

section

open scoped Halves.Plain

/-- A type that is a list cannot be looked up, which is answered like any other flaw; that nobody
else can be reached does not matter. -/
theorem unfit_type_answered :
    let refuses : Refusals := fun socket _ => socket != 1
    let r := (run true [.connect 1 "plan" (some "ann") ⟨0, none⟩,
      .connect 2 "plan" (some "bob") ⟨0, none⟩] {}).rooms
    let after := handle refuses true ⟨1, "plan", some "ann", ⟨0, none⟩⟩ "\x7b\"type\": [1]\x7d"
      (Effect.start r 0)
    after.result = .ok () ∧
    after.sent = [⟨1, .json (.record [("error", .text "Internal server error")])⟩] ∧
    after.rooms.presence = r.presence := by
  intro refuses r after
  have hnone : ¬ ∃ fields name, Json.read "\x7b\"type\": [1]\x7d" = .ok (.record fields) ∧
      Fields.get? fields "type" = some (.text name) ∧ name ∈ typeNames true := by
    rw [← isSome_readMessage?_iff]
    decide +kernel
  have hrebuke : rebuke "\x7b\"type\": [1]\x7d" = "Internal server error" := by decide +kernel
  obtain ⟨hresult, hanswer⟩ := every_text_is_handled refuses true
    ⟨1, "plan", some "ann", ⟨0, none⟩⟩ "\x7b\"type\": [1]\x7d" r 0 (fun _ => rfl)
  obtain ⟨hsent, -, -, hpresence, -⟩ := hanswer hnone
  rw [hrebuke] at hsent
  exact ⟨hresult, hsent, hpresence⟩

end

/-! ## What a socket is sent -/

/-- No socket refuses anything. -/
def nobodyRefuses : Refusals := fun _ _ => false

/-- What a socket is sent, in order. -/
def sentTo (socket : Socket) (sent : List Delivery) : List Payload :=
  (sent.filter fun delivery => delivery.socket = socket).map (·.payload)

theorem sentTo_append (socket : Socket) (earlier later : List Delivery) :
    sentTo socket (earlier ++ later) = sentTo socket earlier ++ sentTo socket later := by
  rw [sentTo, List.filter_append, List.map_append]
  rfl

theorem sentTo_single (socket other : Socket) (payload : Payload) :
    sentTo socket [⟨other, payload⟩] = if socket = other then [payload] else [] := by
  by_cases hsame : socket = other
  · simp [sentTo, hsame]
  · simp [sentTo, hsame, Ne.symm hsame]

/-- A text to all in a room but some sockets. -/
def tell (r : Rooms) (room : String) (except : List Socket) (text : String) : List Delivery :=
  (r.audience room except []).map fun entry => ⟨entry.2, .text text⟩

theorem broadcast_nobodyRefuses (r : Rooms) (room text : String) (except : List Socket) :
    r.broadcast nobodyRefuses room text except [] = (r, r.tell room except text) := by
  have hlost : (r.audience room except []).filter (fun _ => false) = [] := by simp
  have hreached : (r.audience room except []).filter (not ∘ fun _ => false) =
      r.audience room except [] := by simp
  simp only [broadcast, tell, nobodyRefuses, List.partition_eq_filter_filter, hlost, hreached,
    List.foldl_nil]

theorem tell_changePresence (r : Rooms) (room other : String) (user : Option String)
    (f : Presence → Presence) (except : List Socket) (text : String) :
    (r.changePresence other user f).tell room except text = r.tell room except text := by
  simp only [tell, audience, socketsIn_changePresence]

/-- A socket that is not left out is told once for each name under which it is registered. -/
theorem sentTo_tell (r : Rooms) (room : String) (except : List Socket) (text : String)
    (socket : Socket) :
    sentTo socket (r.tell room except text) =
      if socket ∈ except then []
      else List.replicate (registrations r room socket) (.text text) := by
  simp only [sentTo, tell, audience, registrations]
  induction r.socketsIn room with
  | nil => simp
  | cons entry rest ih =>
      obtain ⟨name, other⟩ := entry
      by_cases hsame : other = socket
      · subst hsame
        by_cases hexcept : other ∈ except
        · simpa [hexcept] using ih
        · simpa [hexcept, List.replicate_succ] using ih
      · simp only [List.map_cons, List.count_cons_of_ne hsame]
        rw [← ih, List.filter_cons]
        split
        · simp [hsame]
        · rfl

theorem sentTo_tell_others (r : Rooms) (room : String) (w : Socket) (text : String)
    (socket : Socket) :
    sentTo socket (r.tell room [w] text) =
      if socket = w then [] else List.replicate (registrations r room socket) (.text text) := by
  rw [sentTo_tell]
  simp only [List.mem_singleton]

/-- Those who are told and the one who is answered instead. -/
theorem sentTo_tell_answer (r : Rooms) (room : String) (w : Socket) (text : String)
    (answer : Payload) (socket : Socket) :
    sentTo socket (r.tell room [w] text ++ [⟨w, answer⟩]) =
      if socket = w then [answer]
      else List.replicate (registrations r room socket) (.text text) := by
  rw [sentTo_append, sentTo_tell_others, sentTo_single]
  split <;> simp

/-! ## What the handlers do -/

/-- What others are told of changes in a document. -/
def Sender.update (s : Sender) (changes version : Value) : Value :=
  .record [("type", .text "content_update"), s.signed, ("changes", changes), ("version", version),
    s.stamped]

/-- What the sender of changes is told. -/
def Sender.receipt (s : Sender) (version : Value) : Value :=
  .record [("type", .text "content_update_ack"), ("version", version), s.stamped]

/-- What all are told of a comment. -/
def Sender.remark (s : Sender) (id : String) (comment range : Value) : Value :=
  .record [("type", .text "comment"), ("id", .text id), s.signed, ("comment", comment),
    ("range", range), s.stamped, ("status", .text "active")]

/-- What others are told of a cursor. -/
def Sender.pointer (s : Sender) (message : Fields) : Value :=
  .record [("type", .text "cursor_update"), s.signed,
    ("position", fieldOr message "position" .null),
    ("user_info", fieldOr message "user_info" (.record [])), s.stamped]

/-- The identifier of the comment that takes the `n`-th one of the supply. -/
def commentId (n : Nat) : String := "comment_" ++ String.ofList (Ident.ofSupply n).digits

/-- As long as the supply lasts, no two comments have one identifier. -/
theorem commentId_inj {m n : Nat} (hm : m < Nat.pow 2 48) (hn : n < Nat.pow 2 48)
    (h : commentId m = commentId n) : m = n := by
  have hdigits := congrArg String.toList h
  simp only [commentId, String.toList_append, String.toList_ofList,
    List.append_right_inj] at hdigits
  exact Text.eq_of_digits_ofSupply hm hn hdigits

/-- All that a handler has done is to note that the sender was seen, and to send something. -/
def Effect.sighted (e : Effect) (s : Sender) (sent : List Delivery) : Effect :=
  { e with
    rooms := e.rooms.changePresence s.room s.user (seen s.now)
    sent := e.sent ++ sent
    result := .ok () }

section Perform

variable (s : Sender) (message : Fields) {e : Effect} (hok : e.result = .ok ())

include hok

theorem perform_cursor [Halves] :
    perform nobodyRefuses s .cursor message e =
      e.sighted s
        (e.rooms.tell s.room [s.socket] (Json.write Json.spaced (s.pointer message))) := by
  simp only [perform, shareCursor, Effect.change, Effect.broadcast, Effect.andThen, hok,
    broadcast_nobodyRefuses, tell_changePresence]
  rfl

/-- Changes go to the others, and then the sender has a receipt. -/
theorem perform_content [Halves] (hchanges : (fieldOr message "changes" (.list [])).truthy = true)
    (hversion : fieldOr message "version" .null ≠ .null) :
    perform nobodyRefuses s .content message e =
      e.sighted s (e.rooms.tell s.room [s.socket] (Json.write Json.spaced
          (s.update (fieldOr message "changes" (.list [])) (fieldOr message "version" .null))) ++
        [⟨s.socket, .json (s.receipt (fieldOr message "version" .null))⟩]) := by
  simp only [perform, shareContent, Effect.change, Effect.broadcast, Effect.send, Effect.andThen,
    hok, broadcast_nobodyRefuses, tell_changePresence]
  split
  · rename_i hfull
    rw [hchanges] at hfull
    cases hfull
  · rename_i hnull _
    exact absurd hnull hversion
  · simp only [nobodyRefuses, Bool.false_eq_true, if_false, List.append_assoc]
    rfl

theorem perform_content_lacking [Halves]
    (hlacks : (fieldOr message "changes" (.list [])).truthy = false ∨
      fieldOr message "version" .null = .null) :
    perform nobodyRefuses s .content message e =
      e.sighted s [⟨s.socket, .json (lacking "changes and version")⟩] := by
  simp only [perform, shareContent, Effect.change, Effect.broadcast, Effect.send, Effect.andThen,
    hok]
  split
  · rfl
  · rfl
  · rename_i hfull hversion
    rcases hlacks with h | h
    · rw [h] at hfull
      cases hfull
    · exact absurd h hversion

theorem perform_comment [Halves] (hcomment : (fieldOr message "comment" .null).truthy = true)
    (hrange : (fieldOr message "range" .null).truthy = true) :
    perform nobodyRefuses s .comment message e =
      { e.sighted s (e.rooms.tell s.room [] (Json.write Json.spaced (s.remark
          (commentId (e.taken + 1)) (fieldOr message "comment" .null)
          (fieldOr message "range" .null)))) with
        taken := e.taken + 1 } := by
  simp only [perform, shareComment, hcomment, hrange, Bool.and_self, if_true, Effect.change,
    Effect.broadcast, Effect.andThen, hok, broadcast_nobodyRefuses, tell_changePresence]
  rfl

theorem perform_comment_lacking [Halves]
    (hlacks : (fieldOr message "comment" .null).truthy = false ∨
      (fieldOr message "range" .null).truthy = false) :
    perform nobodyRefuses s .comment message e =
      e.sighted s [⟨s.socket, .json (lacking "comment and range")⟩] := by
  have hboth : ((fieldOr message "comment" .null).truthy &&
      (fieldOr message "range" .null).truthy) = false := by
    rcases hlacks with h | h <;> simp [h]
  simp only [perform, shareComment, hboth, Bool.false_eq_true, if_false, Effect.change,
    Effect.send, Effect.andThen, hok, nobodyRefuses]
  rfl

end Perform

/-- A message of a known type is what its handler makes of it. -/
theorem handle_known [Halves] {refuses : Refusals} {known : Bool} {s : Sender} {data : String}
    {fields : Fields} {kind : MessageType} {e : Effect}
    (hread : Json.read data = .ok (.record fields))
    (hkind : knownType? known (fieldOr fields "type" .null) = some kind)
    (hdone : (perform refuses s kind fields e).result = .ok ()) :
    handle refuses known s data e = perform refuses s kind fields e := by
  obtain ⟨htruthy, hscalar⟩ := truthy_of_knownType? hkind
  have hdispatch : dispatch refuses known s (.record fields) e =
      perform refuses s kind fields e := by
    simp only [dispatch, htruthy, hscalar, hkind, Bool.not_true, Bool.false_eq_true, if_false]
  simp only [handle, hread, hdispatch, hdone]

/-! ## Registers -/

/-- All that has changed in the registers is the presence of one user in one room. -/
structure OwnOnly (room user : String) (change : Presence → Presence) (before after : Rooms) :
    Prop where
  connections : after.connections = before.connections
  subscriptions : after.subscriptions = before.subscriptions
  rooms : names after.presence = names before.presence
  users : ∀ other, names (after.presencesIn other) = names (before.presencesIn other)
  others : ∀ other name, other ≠ room ∨ name ≠ user →
    Fields.get? (after.presencesIn other) name = Fields.get? (before.presencesIn other) name
  own : Fields.get? (after.presencesIn room) user =
    (Fields.get? (before.presencesIn room) user).map change

theorem ownOnly_changePresence (r : Rooms) (room user : String) (change : Presence → Presence) :
    OwnOnly room user change r (r.changePresence room (some user) change) where
  connections := by
    rcases changePresence_cases r room (some user) change with ⟨name, p, -, -, heq⟩ | ⟨-, heq⟩ <;>
      rw [heq]
  subscriptions := subscriptions_changePresence r room (some user) change
  rooms := by
    rcases changePresence_cases r room (some user) change with ⟨name, p, -, hget, heq⟩ | ⟨-, heq⟩
    · rw [heq]
      apply Fields.names_put_of_mem
      exact (Fields.mem_names_iff _ _).mpr ⟨_, get?_presence_of_present hget⟩
    · rw [heq]
  users := names_presencesIn_changePresence r room (some user) change
  others other name hother := by
    rw [get?_presencesIn_changePresence, if_neg]
    rintro ⟨hroom, huser⟩
    rcases hother with h | h
    · exact h hroom
    · exact h (Option.some.inj huser).symm
  own := by
    rw [get?_presencesIn_changePresence, if_pos ⟨rfl, rfl⟩]

/-- Where nobody refuses, the registers change by what the message says of its sender. -/
theorem rooms_message_nobodyRefuses [Halves] (known : Bool) (l : Ledger) (s : Sender)
    (data : String) :
    ((Action.message nobodyRefuses s data).carryOut known l).rooms =
      l.rooms.changePresence s.room s.user
        (s.reaction (readMessage? known data) l.rooms l.taken).noted := by
  rw [rooms_carryOut_message]
  simp only [Reaction.apply, Effect.start, broadcast_nobodyRefuses]
  split <;> rfl

/-- Only a message about the own presence changes more than the time. -/
theorem noted_reactionTo (s : Sender) (present : Bool) (taken : Nat) (message : Fields)
    {type : MessageType} (hother : type ≠ .presence) :
    (s.reactionTo present taken message type).noted = seen s.now := by
  cases type with
  | presence => exact absurd rfl hother
  | comment =>
      simp only [Sender.reactionTo]
      split <;> rfl
  | _ => rfl

/-- A message of a known type changes the presence of its sender alone. -/
theorem ownOnly_message [Halves] (l : Ledger) (w : Socket) (d u : String) (now : Stamp)
    {data : String}
    {fields : Fields} {name : String} (hread : Json.read data = .ok (.record fields))
    (htype : Fields.get? fields "type" = some (.text name)) (hknown : name ∈ typeNames true) :
    ∃ change, OwnOnly d u change l.rooms
        ((Action.message nobodyRefuses ⟨w, d, some u, now⟩ data).carryOut true l).rooms ∧
      (name ≠ "presence_update" → change = seen now) := by
  have hsome := (isSome_readMessage?_iff true data).mpr ⟨fields, name, hread, htype, hknown⟩
  obtain ⟨⟨kind, message⟩, hmessage⟩ := Option.isSome_iff_exists.mp hsome
  rw [rooms_message_nobodyRefuses, hmessage]
  refine ⟨_, ownOnly_changePresence l.rooms d u _, ?_⟩
  intro hother
  apply noted_reactionTo
  rintro rfl
  have hpresence := (type_of_presence hread hmessage).symm.trans htype
  rw [Option.some.injEq, Value.text.injEq] at hpresence
  exact hother hpresence.symm

/-- A record of no known type changes nothing. -/
theorem rooms_message_of_unknown [Halves] (l : Ledger) (s : Sender) {data : String}
    {fields : Fields} (hread : Json.read data = .ok (.record fields))
    (hunknown : ∀ name ∈ typeNames true, Fields.get? fields "type" ≠ some (.text name)) :
    ((Action.message nobodyRefuses s data).carryOut true l).rooms = l.rooms := by
  have hnone : readMessage? true data = none := by
    apply (readMessage?_eq_none_iff true data).mpr
    rintro ⟨others, name, hothers, htype, hknown⟩
    rw [hread] at hothers
    cases hothers
    exact hunknown name hknown htype
  rw [rooms_message_nobodyRefuses, hnone]
  exact changePresence_id l.rooms s.room s.user

/-- What a message makes others hear goes to the sockets in its room. -/
theorem mem_sent_nobodyRefuses [Halves] (known : Bool) (l : Ledger) (s : Sender) (data : String)
    {delivery : Delivery}
    (hsent : delivery ∈ ((Action.message nobodyRefuses s data).carryOut known l).sent) :
    delivery.socket = s.socket ∨ ∃ name, (name, delivery.socket) ∈ l.rooms.socketsIn s.room := by
  obtain ⟨answers, hanswers⟩ := (handle_answers nobodyRefuses known s data
    (e := Effect.start l.rooms l.taken) rfl).sent
  rw [Action.carryOut, hanswers, List.mem_append] at hsent
  rcases hsent with htold | hanswer
  · right
    simp only [Reaction.apply, Effect.start, broadcast_nobodyRefuses, tell_changePresence] at htold
    split at htold
    · cases htold
    · obtain ⟨entry, hentry, rfl⟩ := List.mem_map.mp htold
      exact ⟨entry.1, (List.mem_filter.mp hentry).1⟩
  · left
    obtain ⟨answer, -, rfl⟩ := List.mem_map.mp hanswer
    rfl

/-! ## Whom a message reaches -/

/-- A socket with one name in a room is registered there once. -/
theorem Coherent.registrations_eq_one {r : Rooms} (h : Coherent r) {room user : String}
    {socket : Socket} (honly : ∀ name, (name, socket) ∈ r.socketsIn room ↔ name = user) :
    registrations r room socket = 1 := by
  have hmem : (user, socket) ∈ r.socketsIn room := (honly user).mpr rfl
  have hsame : ∀ entry ∈ r.socketsIn room,
      (entry.2 == socket) = true ↔ (entry.1 == user) = true := by
    rintro ⟨name, other⟩ hentry
    rw [beq_iff_eq, beq_iff_eq]
    constructor
    · rintro rfl
      exact (honly name).mp hentry
    · rintro rfl
      have hget := (h.get?_socketsIn_eq_some_iff room name other).mpr hentry
      rw [(h.get?_socketsIn_eq_some_iff room name socket).mpr hmem] at hget
      exact (Option.some.inj hget).symm
  have hname : (names (r.socketsIn room)).count user = 1 :=
    List.count_eq_one_of_mem (h.distinct room) (Fields.mem_names_of_mem hmem)
  rw [registrations, List.count_eq_countP, List.countP_map, ← hname, names, List.count_eq_countP,
    List.countP_map]
  exact List.countP_congr hsame

theorem carryOut_of_perform [Halves] {l : Ledger} {s : Sender} {data name : String}
    {fields : Fields}
    {kind : MessageType} {done : Effect} (hread : Json.read data = .ok (.record fields))
    (htype : Fields.get? fields "type" = some (.text name))
    (hname : MessageType.ofName? name = some kind)
    (hperform : perform nobodyRefuses s kind fields (Effect.start l.rooms l.taken) = done)
    (hdone : done.result = .ok ()) :
    (Action.message nobodyRefuses s data).carryOut true l = done := by
  have hkind : knownType? true (fieldOr fields "type" .null) = some kind := by
    rw [fieldOr, htype]
    exact hname
  rw [Action.carryOut, handle_known hread hkind (by rw [hperform, hdone]), hperform]

/-- After every run, if nobody refuses anything, and for every record that is handled from a socket
with one name in a room.  Changes with a version go to every other socket once for each of its names
in the room, with the name of the sender, and then a receipt goes to the sender; a comment with a
range goes to every socket in the same way, the sender's once, under one identifier that no comment
had before; a cursor goes to the others.  What lacks something is answered by one error to the
sender.  Nothing goes to a socket that is not in the room.  A message of a known type changes
nothing in the registers but the sender's presence in the room, and there, unless it is about that
presence, only the time at which the sender was last seen; any other record changes nothing. -/
theorem messages_reach_registrations [Halves] (actions : List Action) (w : Socket) (d u : String)
    (now : Stamp) (data : String) (fields : Fields)
    (honly : ∀ name, (name, w) ∈ (run true actions {}).rooms.socketsIn d ↔ name = u)
    (hread : Json.read data = .ok (.record fields)) :
    let l := run true actions {}
    let s : Sender := ⟨w, d, some u, now⟩
    let after := (Action.message nobodyRefuses s data).carryOut true l
    let type := Fields.get? fields "type"
    let changes := fieldOr fields "changes" (.list [])
    let version := fieldOr fields "version" .null
    let comment := fieldOr fields "comment" .null
    let range := fieldOr fields "range" .null
    let copies (socket : Socket) (news : Value) : List Payload :=
      List.replicate (registrations l.rooms d socket) (.text (Json.write Json.spaced news))
    after.result = .ok () ∧
    (type = some (.text "content_update") → changes.truthy = true → version ≠ .null →
      (∀ socket, sentTo socket after.sent = if socket = w then [.json (s.receipt version)]
        else copies socket (s.update changes version)) ∧
      after.sent.getLast? = some ⟨w, .json (s.receipt version)⟩) ∧
    (type = some (.text "content_update") → changes.truthy = false ∨ version = .null →
      after.sent = [⟨w, .json (lacking "changes and version")⟩]) ∧
    (type = some (.text "comment") → comment.truthy = true → range.truthy = true →
      (∀ socket, sentTo socket after.sent =
        copies socket (s.remark (commentId (l.taken + 1)) comment range)) ∧
      registrations l.rooms d w = 1 ∧ after.taken = l.taken + 1 ∧
      (l.taken + 1 < Nat.pow 2 48 →
        ∀ earlier ≤ l.taken, commentId earlier ≠ commentId (l.taken + 1))) ∧
    (type = some (.text "comment") → comment.truthy = false ∨ range.truthy = false →
      after.sent = [⟨w, .json (lacking "comment and range")⟩]) ∧
    (type = some (.text "cursor_update") →
      ∀ socket, sentTo socket after.sent =
        if socket = w then [] else copies socket (s.pointer fields)) ∧
    (∀ delivery ∈ after.sent, ∃ name, (name, delivery.socket) ∈ l.rooms.socketsIn d) ∧
    (∀ name ∈ typeNames true, type = some (.text name) → ∃ change,
      OwnOnly d u change l.rooms after.rooms ∧ (name ≠ "presence_update" → change = seen now)) ∧
    ((∀ name ∈ typeNames true, type ≠ some (.text name)) → after.rooms = l.rooms) := by
  intro l s after type changes version comment range copies
  have hcoherent : Coherent l.rooms := Coherent.empty.run true actions
  have hdone : ∀ {name : String} {kind : MessageType} {done : Effect}, type = some (.text name) →
      MessageType.ofName? name = some kind →
      perform nobodyRefuses s kind fields (Effect.start l.rooms l.taken) = done →
      done.result = .ok () → after = done := carryOut_of_perform hread
  refine ⟨result_handle nobodyRefuses true s data rfl rfl, ?_, ?_, ?_, ?_, ?_, ?_, ?_, ?_⟩
  · intro htype hchanges hversion
    have hsent : after.sent =
        l.rooms.tell d [w] (Json.write Json.spaced (s.update changes version)) ++
          [⟨w, .json (s.receipt version)⟩] :=
      congrArg Effect.sent (hdone htype rfl (perform_content s fields rfl hchanges hversion) rfl)
    rw [hsent]
    exact ⟨sentTo_tell_answer l.rooms d w _ _, List.getLast?_concat⟩
  · intro htype hlacks
    exact congrArg Effect.sent
      (hdone htype rfl (perform_content_lacking s fields rfl hlacks) rfl)
  · intro htype hcomment hrange
    have hafter := hdone htype rfl (perform_comment s fields rfl hcomment hrange) rfl
    refine ⟨?_, hcoherent.registrations_eq_one honly, congrArg Effect.taken hafter, ?_⟩
    · rw [hafter]
      exact sentTo_tell l.rooms d [] _
    · intro hlasts earlier hearlier hsame
      have hequal := commentId_inj (by omega) hlasts hsame
      omega
  · intro htype hlacks
    exact congrArg Effect.sent
      (hdone htype rfl (perform_comment_lacking s fields rfl hlacks) rfl)
  · intro htype
    have hafter := hdone htype rfl (perform_cursor s fields rfl) rfl
    rw [hafter]
    exact sentTo_tell_others l.rooms d w _
  · intro delivery hsent
    rcases mem_sent_nobodyRefuses true l s data hsent with hsender | hroom
    · rw [hsender]
      exact ⟨u, (honly u).mpr rfl⟩
    · exact hroom
  · intro name hknown htype
    exact ownOnly_message l w d u now hread htype hknown
  · intro hunknown
    exact rooms_message_of_unknown l s hread hunknown

section

open scoped Halves.Plain

/-- Ann has a socket in the room, Bob and Cy share one, and Dan is elsewhere. -/
def sharedSocket : List Action :=
  [.connect 1 "plan" (some "ann") ⟨0, none⟩, .connect 2 "plan" (some "bob") ⟨0, none⟩,
    .connect 2 "plan" (some "cy") ⟨0, none⟩, .connect 3 "notes" (some "dan") ⟨0, none⟩]

/-- What a message of Ann does there. -/
def annWrites (data : String) : Effect :=
  (Action.message nobodyRefuses ⟨1, "plan", some "ann", ⟨1, none⟩⟩ data).carryOut true
    (run true sharedSocket {})

theorem socketsIn_sharedSocket :
    (run true sharedSocket {}).rooms.socketsIn "plan" = [("ann", 1), ("bob", 2), ("cy", 2)] := by
  decide +kernel

/-- The record that a text is read as. -/
def recordOf (data : String) : Fields :=
  ((Json.read data).toOption.bind Value.record?).getD []

/-- The type that a text names. -/
def typeIn (data : String) : Option String :=
  (Fields.get? (recordOf data) "type").bind Value.text?

theorem read_of_typeIn {data name : String} (htype : typeIn data = some name) :
    Json.read data = .ok (.record (recordOf data)) ∧
      Fields.get? (recordOf data) "type" = some (.text name) := by
  obtain ⟨type, hget, htext⟩ := Option.bind_eq_some_iff.mp htype
  refine ⟨?_, ?_⟩
  · unfold recordOf at hget ⊢
    cases hread : Json.read data with
    | error flaw =>
        rw [hread] at hget
        cases hget
    | ok message =>
        rw [hread] at hget
        cases message with
        | record fields => rfl
        | _ => cases hget
  · cases type with
    | text other =>
        obtain rfl := Option.some.inj htext
        exact hget
    | _ => cases htext

/-- Ann's comment. -/
def why : String := "\x7b\"type\": \"comment\", \"comment\": \"why?\", \"range\": [4]\x7d"

/-- A comment goes to Ann once, to the shared socket for Bob and for Cy, and to nobody elsewhere. -/
theorem comment_reaches_every_name :
    ∃ text, sentTo 1 (annWrites why).sent = [.text text] ∧
      sentTo 2 (annWrites why).sent = [.text text, .text text] ∧
      sentTo 3 (annWrites why).sent = [] := by
  have honly : ∀ name, (name, 1) ∈ (run true sharedSocket {}).rooms.socketsIn "plan" ↔
      name = "ann" := by
    simp [socketsIn_sharedSocket]
  have hnamed : typeIn why = some "comment" := by decide +kernel
  have hcomment : (fieldOr (recordOf why) "comment" .null).truthy = true := by decide +kernel
  have hrange : (fieldOr (recordOf why) "range" .null).truthy = true := by decide +kernel
  obtain ⟨hread, htype⟩ := read_of_typeIn hnamed
  obtain ⟨-, -, -, hall, -⟩ := messages_reach_registrations sharedSocket 1 "plan" "ann" ⟨1, none⟩
    why (recordOf why) honly hread
  obtain ⟨hsent, -⟩ := hall htype hcomment hrange
  simp only [registrations, socketsIn_sharedSocket] at hsent
  exact ⟨_, hsent 1, hsent 2, hsent 3⟩

end

/-- The status in Ann's presence. -/
def annStatus [Halves] (r : Rooms) : Option String :=
  (Fields.get? (r.presencesIn "plan") "ann").bind fun p =>
    ((presenceValue p).record?.bind (Fields.get? · "status")).bind Value.text?

section

open scoped Halves.Plain

/-- The socket that Bob and Cy share hears of Ann's changes twice, and a message about Ann's
presence changes the status in it, not only the time. -/
theorem shared_socket_hears_twice :
    (run true sharedSocket {}).rooms.socketsIn "plan" = [("ann", 1), ("bob", 2), ("cy", 2)] ∧
    (annWrites "\x7b\"type\": \"content_update\", \"changes\": [1], \"version\": 3\x7d").sent.map
      (·.socket) = [2, 2, 1] ∧
    annStatus (run true sharedSocket {}).rooms = some "online" ∧
    annStatus (annWrites
      "\x7b\"type\": \"presence_update\", \"status\": \x7b\"status\": \"away\"\x7d\x7d").rooms =
        some "away" := by
  decide +kernel

end

end Scriptorium.Rooms

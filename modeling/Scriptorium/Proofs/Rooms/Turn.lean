import Scriptorium.Proofs.Rooms.Session
set_option autoImplicit false

/-!
# Turns of a visit

A visit waits whenever something is sent, and what was to be done next is done in the next turn:
`Session.turn` takes a visit from one wait to the next.  Between two turns anything may have
happened to the rooms.  `Session.Advance` lists what a turn can come to, and turns that follow each
other at once come to `visit` (`turns_eq_visit`).

No type of messages is known on a visit, so that what a client says is answered by a complaint and
changes nothing.
-/

namespace Scriptorium.Rooms

/-! ## Words without a meaning -/

/-- What a text is answered with that is no message of a known type. -/
def rebuke [Halves] (data : String) : String :=
  match Json.read data with
  | .error (.malformed _) => "Invalid JSON format"
  | .ok (.record fields) =>
      let type := fieldOr fields "type" .null
      if !type.truthy then "Message type is required"
      else if type.isScalar then s!"Unknown message type: {type.shown}"
      else "Internal server error"
  | _ => "Internal server error"

theorem Effect.send_refused (payload : Payload) {e : Effect} (hok : e.result = .ok ())
    {refuses : Refusals} {socket : Socket} (hrefused : refuses socket payload.channel = true) :
    e.send refuses socket payload = { e with result := .error .socketClosed } := by
  simp only [Effect.send, Effect.andThen, hok, hrefused, if_true]

theorem Effect.send_accepted (payload : Payload) {e : Effect} (hok : e.result = .ok ())
    {refuses : Refusals} {socket : Socket} (haccepted : refuses socket payload.channel = false) :
    e.send refuses socket payload = { e with sent := e.sent ++ [⟨socket, payload⟩] } := by
  simp only [Effect.send, Effect.andThen, hok, haccepted, Bool.false_eq_true, if_false]

/-- A complaint that is refused is followed by one about the failure, which is refused as well. -/
theorem handle_of_dispatch [Halves] {refuses : Refusals} {known : Bool} {s : Sender}
    {data text : String}
    {message : Value} {e : Effect} (hok : e.result = .ok ()) (hread : Json.read data = .ok message)
    (hdispatch : dispatch refuses known s message e = e.send refuses s.socket (complaint text)) :
    handle refuses known s data e = e.send refuses s.socket (complaint text) := by
  simp only [handle, hread, hdispatch]
  cases hrefused : refuses s.socket .json with
  | true =>
      have hfirst := Effect.send_refused (complaint text) hok hrefused
      have hsecond := Effect.send_refused (complaint "Internal server error")
        (e := { e with result := .ok () }) rfl hrefused
      simp only [hfirst, hsecond]
  | false =>
      have hfirst := Effect.send_accepted (complaint text) hok hrefused
      simp only [hfirst, hok]

/-- Whatever is wrong with a text, its sender is given one answer and nothing else happens. -/
theorem handle_unread [Halves] (refuses : Refusals) {known : Bool} (s : Sender) {data : String}
    (hunread : readMessage? known data = none) {e : Effect} (hok : e.result = .ok ()) :
    handle refuses known s data e = e.send refuses s.socket (complaint (rebuke data)) := by
  have hsame : { e with result := .ok () } = e := by rw [← hok]
  unfold rebuke
  cases hread : Json.read data with
  | error flaw =>
      simp only [handle, hread]
      cases flaw <;> rfl
  | ok message =>
      cases message with
      | record fields =>
          simp only
          cases htruthy : (fieldOr fields "type" .null).truthy with
          | false =>
              refine handle_of_dispatch hok hread ?_
              simp only [dispatch, htruthy, Bool.not_false, if_true]
          | true =>
              cases hscalar : (fieldOr fields "type" .null).isScalar with
              | false =>
                  simp only [handle, hread, dispatch, htruthy, hscalar, hsame, Bool.not_true,
                    Bool.not_false, Bool.false_eq_true, if_true, if_false]
              | true =>
                  have htype : knownType? known (fieldOr fields "type" .null) = none := by
                    simpa only [readMessage?, hread, knownMessage?, Option.map_eq_none_iff]
                      using hunread
                  refine handle_of_dispatch hok hread ?_
                  simp only [dispatch, htruthy, hscalar, htype, Bool.not_true, Bool.false_eq_true,
                    if_true, if_false]
      | _ => simp only [handle, hread, dispatch, hsame]

/-- Where no type of messages is known, every text is wrong. -/
theorem handle_unknown [Halves] (refuses : Refusals) (s : Sender) (data : String) {e : Effect}
    (hok : e.result = .ok ()) :
    handle refuses false s data e = e.send refuses s.socket (complaint (rebuke data)) := by
  apply handle_unread refuses s ?_ hok
  unfold readMessage? knownMessage? knownType?
  cases Json.read data with
  | error flaw => rfl
  | ok message => cases message <;> rfl

/-! ## Turns of a visit -/

/-- How far a visit has come. -/
inductive Stage where
  | arriving
  | entering
  /-- The room is being told who has joined it: those still to be told, and those who could not
  be. -/
  | telling (joined : Stamp) (pending lost : List (String × Socket))
  | greeting
  | listening
  deriving DecidableEq, Repr

/-- Whether the client has been registered in its room. -/
def Stage.inside : Stage → Bool
  | arriving | entering => false
  | telling .. | greeting | listening => true

/-- What lets a visit go on: what was waited for is done, or the client speaks or is gone. -/
inductive Cue where
  | proceeds
  | speaks (data : String)
  | hangsUp

/-- The clock and the sockets at some point of a run. -/
structure Moment where
  now : Stamp
  refuses : Refusals

/-- What a turn leaves: the registers, how far the visit has come unless it is over, and what was
sent. -/
structure Turn where
  rooms : Rooms
  stage : Option Stage
  sent : List Delivery := []

theorem within_disconnect_all (r : Rooms) (room : String) (lost : List (String × Socket)) :
    Within r (lost.foldl (fun r (user, socket) => r.disconnect socket room (some user)) r) := by
  refine List.foldlRecOn lost _ (Within.refl r) ?_
  intro after hwithin entry _
  exact disconnect_preserves (fun _ room user h => h.leave room user)
    (fun _ room h => h.lookInto room) hwithin entry.2 room (some entry.1)

namespace Session

/-- What a room is told about a newcomer. -/
def announcement [Halves] (s : Session) (joined : Stamp) : String :=
  Json.write Json.spaced
    (.record [("type", .text "user_joined"), (s.sender joined).signed, (s.sender joined).stamped])

/-- What a newcomer is told. -/
def welcome (s : Session) (now : Stamp) : Payload :=
  .json (.record [("type", .text "init"), ("document_id", .text s.room), (s.sender now).stamped])

/-- The end of a visit: the client leaves its room. -/
def leaves (s : Session) (r : Rooms) (sent : List Delivery) : Turn :=
  ⟨r.disconnect s.socket s.room s.user, none, sent⟩

/-- Takes a visit from one wait to the next.  A cue that the visit does not wait for is left for
later. -/
def turn [Halves] (s : Session) (m : Moment) (r : Rooms) : Stage → Cue → Turn
  | .arriving, .proceeds =>
      if m.refuses s.socket .accept then ⟨r, none, []⟩
      else ⟨r, some .entering, [⟨s.socket, .accept⟩]⟩
  | .entering, .proceeds =>
      let r := (r.connect s.socket s.room s.user m.now).1
      ⟨r, some (.telling m.now (r.audience s.room [s.socket] []) []), []⟩
  | .telling joined (target :: pending) lost, .proceeds =>
      if m.refuses target.2 .text then ⟨r, some (.telling joined pending (lost ++ [target])), []⟩
      else ⟨r, some (.telling joined pending lost), [⟨target.2, .text (s.announcement joined)⟩]⟩
  | .telling _ [] lost, .proceeds =>
      ⟨lost.foldl (fun r (user, socket) => r.disconnect socket s.room (some user)) r,
        some .greeting, []⟩
  | .greeting, .proceeds =>
      if m.refuses s.socket .json then s.leaves r []
      else ⟨r, some .listening, [⟨s.socket, s.welcome m.now⟩]⟩
  | .listening, .speaks data =>
      let e := handle m.refuses false (s.sender m.now) data (Effect.start r 0)
      match e.result with
      | .ok _ => ⟨e.rooms, some .listening, e.sent⟩
      | .error _ => s.leaves e.rooms e.sent
  | .listening, .hangsUp => s.leaves r []
  | stage, _ => ⟨r, some stage, []⟩

variable (s : Session) (m : Moment) (r : Rooms)

/-- What a client says is answered to it alone, or else ends its visit. -/
theorem turn_speaks [Halves] (data : String) :
    s.turn m r .listening (.speaks data) =
      if m.refuses s.socket .json then s.leaves r []
      else ⟨r, some .listening, [⟨s.socket, complaint (rebuke data)⟩]⟩ := by
  have hok : (Effect.start r 0).result = .ok () := rfl
  have hsocket : (s.sender m.now).socket = s.socket := rfl
  simp only [turn, handle_unknown m.refuses (s.sender m.now) data hok, hsocket]
  cases hrefused : m.refuses s.socket .json with
  | true =>
      rw [Effect.send_refused (complaint (rebuke data)) hok hrefused]
      rfl
  | false =>
      rw [Effect.send_accepted (complaint (rebuke data)) hok hrefused]
      rfl

/-- What a turn can come to. -/
inductive Advance [Halves] : Stage → Turn → Prop where
  /-- The client is not let in. -/
  | turnedAway : Advance .arriving ⟨r, none, []⟩
  | enters (pending : List (String × Socket)) :
      Advance .entering
        ⟨(r.connect s.socket s.room s.user m.now).1, some (.telling m.now pending []), []⟩
  /-- One of the others has heard of the newcomer, or has not. -/
  | tells (joined : Stamp) {pending lost pending' lost' : List (String × Socket)}
      {sent : List Delivery}
      (hsent : ∀ d ∈ sent, d.payload = .text (s.announcement joined)) :
      Advance (.telling joined pending lost) ⟨r, some (.telling joined pending' lost'), sent⟩
  /-- Those who could not be told are taken out. -/
  | clears (joined : Stamp) (lost : List (String × Socket)) :
      Advance (.telling joined [] lost)
        ⟨lost.foldl (fun r (user, socket) => r.disconnect socket s.room (some user)) r,
          some .greeting, []⟩
  /-- At most the client itself is sent something. -/
  | goesOn {stage next : Stage} {sent : List Delivery} (hinside : next.inside = stage.inside)
      (hsent : ∀ d ∈ sent, d.socket = s.socket) : Advance stage ⟨r, some next, sent⟩
  | leaves (stage : Stage) : Advance stage (s.leaves r [])

theorem advance_turn [Halves] (stage : Stage) (cue : Cue) :
    s.Advance m r stage (s.turn m r stage cue) := by
  by_cases hspoken : stage = .listening ∧ ∃ data, cue = .speaks data
  · obtain ⟨rfl, data, rfl⟩ := hspoken
    rw [turn_speaks]
    split
    · exact .leaves .listening
    · exact .goesOn rfl (by simp)
  · fun_cases Session.turn s m r stage cue with
    | case1 hrefused => exact .turnedAway
    | case2 haccepted => exact .goesOn rfl (by simp)
    | case3 => exact .enters _
    | case4 joined target pending lost hrefused => exact .tells joined (by simp)
    | case5 joined target pending lost haccepted => exact .tells joined (by simp)
    | case6 joined lost => exact .clears joined lost
    | case7 hrefused => exact .leaves .greeting
    | case8 haccepted => exact .goesOn rfl (by simp)
    | case9 data => exact absurd ⟨rfl, data, rfl⟩ hspoken
    | case10 data => exact absurd ⟨rfl, data, rfl⟩ hspoken
    | case11 => exact .leaves .listening
    | case12 => exact .goesOn rfl (by simp)

variable {s m r}

/-- Whatever a turn sends is for the client itself, or tells the room that the client has come. -/
theorem Advance.sent [Halves] {stage : Stage} {t : Turn} (h : s.Advance m r stage t) {d : Delivery}
    (hd : d ∈ t.sent) :
    d.socket = s.socket ∨ ∃ joined pending lost, stage = .telling joined pending lost ∧
      d.payload = .text (s.announcement joined) := by
  cases h with
  | tells joined hsent => exact .inr ⟨joined, _, _, rfl, hsent d hd⟩
  | goesOn hinside hsent => exact .inl (hsent d hd)
  | turnedAway => simp at hd
  | enters pending => simp at hd
  | clears joined lost => simp at hd
  | leaves stage => simp [Session.leaves] at hd

/-- Whoever is registered after a turn was registered before it, or is the client that enters. -/
theorem Advance.mem_socketsIn [Halves] {stage : Stage} {t : Turn} (h : s.Advance m r stage t)
    {room : String} {entry : String × Socket} (hentry : entry ∈ t.rooms.socketsIn room) :
    entry ∈ r.socketsIn room ∨
      room = s.room ∧ entry = (s.name, s.socket) ∧ ∃ next, t.stage = some next ∧
        next.inside = true := by
  cases h with
  | enters pending =>
      simp only [socketsIn_connect] at hentry
      split at hentry
      · rename_i hroom
        subst hroom
        rcases Fields.mem_put hentry with rfl | hmem
        · exact .inr ⟨rfl, rfl, _, rfl, rfl⟩
        · exact .inl hmem
      · exact .inl hentry
  | turnedAway => exact .inl hentry
  | tells joined hsent => exact .inl hentry
  | goesOn hinside hsent => exact .inl hentry
  | leaves stage =>
      exact .inl (((within_disconnect r s.socket s.room s.user).sockets room).subset hentry)
  | clears joined lost =>
      exact .inl (((within_disconnect_all r s.room lost).sockets room).subset hentry)

/-- Who is inside stays inside until the end of the visit. -/
theorem Advance.stage [Halves] {stage : Stage} {t : Turn} (h : s.Advance m r stage t)
    (hinside : stage.inside = true) :
    t = s.leaves r [] ∨ ∃ next, t.stage = some next ∧ next.inside = true := by
  cases h with
  | turnedAway => cases hinside
  | enters pending => cases hinside
  | tells joined hsent => exact .inr ⟨_, rfl, rfl⟩
  | clears joined lost => exact .inr ⟨_, rfl, rfl⟩
  | goesOn hsame hsent => exact .inr ⟨_, rfl, hsame.trans hinside⟩
  | leaves stage => exact .inl rfl

end Session

/-! ## Turns that follow each other at once -/

theorem handleAll_failed [Halves] (refuses : Refusals) (known : Bool) (s : Sender)
    (incoming : List String) {e : Effect} {fault : Fault} (hfailed : e.result = .error fault) :
    handleAll refuses known s incoming e = e := by
  have hstays : e.andThen = fun _ => e := by
    funext next
    simp only [Effect.andThen, hfailed]
  induction incoming with
  | nil => rfl
  | cons data rest ih =>
      rw [handleAll, List.foldl_cons, hstays]
      exact ih

namespace Session

/-- Takes one turn after the other until the visit is over. -/
def turns [Halves] (s : Session) (m : Moment) : List Cue → Turn → Turn
  | [], t => t
  | cue :: rest, t =>
      match t.stage with
      | none => t
      | some stage =>
          let next := s.turn m t.rooms stage cue
          s.turns m rest { next with sent := t.sent ++ next.sent }

variable (s : Session) (m : Moment) {r : Rooms} {sent : List Delivery}

theorem turns_over [Halves] (cues : List Cue) :
    s.turns m cues ⟨r, none, sent⟩ = ⟨r, none, sent⟩ := by
  cases cues <;> rfl

theorem turns_cons [Halves] (cue : Cue) (rest : List Cue) (stage : Stage) :
    s.turns m (cue :: rest) ⟨r, some stage, sent⟩ =
      s.turns m rest { s.turn m r stage cue with sent := sent ++ (s.turn m r stage cue).sent } :=
  rfl

/-- Those who are still to be told are told one after the other. -/
theorem turns_telling [Halves] (joined : Stamp) (pending lost : List (String × Socket))
    (rest : List Cue) :
    s.turns m (List.replicate pending.length .proceeds ++ rest)
        ⟨r, some (.telling joined pending lost), sent⟩ =
      s.turns m rest
        ⟨r, some (.telling joined []
            (lost ++ pending.filter fun target => m.refuses target.2 .text)),
          sent ++ (pending.filter fun target => !m.refuses target.2 .text).map
            fun target => ⟨target.2, .text (s.announcement joined)⟩⟩ := by
  induction pending generalizing lost sent with
  | nil => simp
  | cons target pending ih =>
      rw [List.length_cons, List.replicate_succ, List.cons_append, turns_cons]
      cases hrefused : m.refuses target.2 .text with
      | true => simp [turn, hrefused, ih]
      | false => simp [turn, hrefused, ih]

/-- What a client says is handled until its answer is refused or the client is gone. -/
theorem turns_listening [Halves] (incoming : List String) {e : Effect} (hok : e.result = .ok ()) :
    s.turns m (incoming.map .speaks ++ [.hangsUp]) ⟨e.rooms, some .listening, e.sent⟩ =
      s.leaves (handleAll m.refuses false (s.sender m.now) incoming e).rooms
        (handleAll m.refuses false (s.sender m.now) incoming e).sent := by
  induction incoming generalizing e with
  | nil => simp [turns, turn, handleAll, leaves]
  | cons data rest ih =>
      have hnext : handleAll m.refuses false (s.sender m.now) (data :: rest) e =
          handleAll m.refuses false (s.sender m.now) rest
            (e.send m.refuses s.socket (complaint (rebuke data))) := by
        rw [handleAll, List.foldl_cons, Effect.andThen]
        simp only [hok, handle_unknown m.refuses (s.sender m.now) data hok]
        rfl
      rw [hnext, List.map_cons, List.cons_append, turns_cons, turn_speaks]
      cases hrefused : m.refuses s.socket .json with
      | true =>
          have hsend := Effect.send_refused (complaint (rebuke data)) hok hrefused
          have hfailed : (e.send m.refuses s.socket (complaint (rebuke data))).result =
              .error .socketClosed := by rw [hsend]
          rw [handleAll_failed _ _ _ _ hfailed, hsend]
          simp only [if_true, leaves, List.append_nil, turns_over]
      | false =>
          rw [Effect.send_accepted (complaint (rebuke data)) hok hrefused]
          exact ih (e := { e with sent := e.sent ++ [⟨s.socket, complaint (rebuke data)⟩] }) hok

theorem turns_greeting [Halves] (incoming : List String) {e : Effect} (hok : e.result = .ok ()) :
    let welcomed := e.send m.refuses s.socket (s.welcome m.now)
    s.turns m (.proceeds :: (incoming.map .speaks ++ [.hangsUp]))
        ⟨e.rooms, some .greeting, e.sent⟩ =
      s.leaves (handleAll m.refuses false (s.sender m.now) incoming welcomed).rooms
        (handleAll m.refuses false (s.sender m.now) incoming welcomed).sent := by
  intro welcomed
  rw [turns_cons]
  cases hrefused : m.refuses s.socket .json with
  | true =>
      have hwelcomed : welcomed = { e with result := .error .socketClosed } :=
        Effect.send_refused _ hok hrefused
      have hfailed : welcomed.result = .error .socketClosed := by rw [hwelcomed]
      rw [handleAll_failed _ _ _ _ hfailed, hwelcomed]
      simp only [turn, hrefused, if_true, leaves, List.append_nil, turns_over]
  | false =>
      have hwelcomed : welcomed = { e with sent := e.sent ++ [⟨s.socket, s.welcome m.now⟩] } :=
        Effect.send_accepted _ hok hrefused
      rw [hwelcomed]
      simp only [turn, hrefused, Bool.false_eq_true, if_false]
      exact s.turns_listening m incoming
        (e := { e with sent := e.sent ++ [⟨s.socket, s.welcome m.now⟩] }) hok

/-- The cues of a visit that has so many others to tell of its coming. -/
def cues (told : Nat) (incoming : List String) : List Cue :=
  .proceeds :: .proceeds :: (List.replicate told .proceeds ++
    (.proceeds :: .proceeds :: (incoming.map .speaks ++ [.hangsUp])))

/-- What happens between joining a room and leaving it, in turns. -/
theorem turns_entering [Halves] (incoming : List String) {e : Effect} (hok : e.result = .ok ()) :
    let joined := (e.rooms.connect s.socket s.room s.user m.now).1
    let others := joined.audience s.room [s.socket] []
    s.turns m (.proceeds :: (List.replicate others.length .proceeds ++
        (.proceeds :: .proceeds :: (incoming.map .speaks ++ [.hangsUp]))))
        ⟨e.rooms, some .entering, e.sent⟩ =
      s.leaves (stay m.refuses (s.sender m.now) incoming e).rooms
        (stay m.refuses (s.sender m.now) incoming e).sent := by
  intro joined others
  obtain ⟨told, htold⟩ : ∃ told, told = joined.broadcast m.refuses s.room (s.announcement m.now)
    [s.socket] [] := ⟨_, rfl⟩
  have hstay : stay m.refuses (s.sender m.now) incoming e =
      handleAll m.refuses false (s.sender m.now) incoming
        ({ e with rooms := told.1, sent := e.sent ++ told.2 }.send m.refuses s.socket
          (s.welcome m.now)) := by
    rw [htold]
    simp only [stay, Effect.change, Effect.broadcast, Effect.andThen, hok]
    rfl
  have hgreeting : s.turns m (.proceeds :: (List.replicate others.length .proceeds ++
        (.proceeds :: .proceeds :: (incoming.map .speaks ++ [.hangsUp]))))
        ⟨e.rooms, some .entering, e.sent⟩ =
      s.turns m (.proceeds :: (incoming.map .speaks ++ [.hangsUp]))
        ⟨told.1, some .greeting, e.sent ++ told.2⟩ := by
    rw [turns_cons]
    simp only [turn, List.append_nil, htold, Rooms.broadcast, List.partition_eq_filter_filter]
    rw [turns_telling, turns_cons]
    simp only [turn, List.append_nil, List.nil_append]
    rfl
  rw [hstay, hgreeting]
  exact s.turns_greeting m incoming
    (e := { e with rooms := told.1, sent := e.sent ++ told.2 }) hok

/-- The turns of a visit come to the visit. -/
theorem turns_eq_visit [Halves] (r : Rooms) (incoming : List String) (taken : Nat) :
    let others := (r.connect s.socket s.room s.user m.now).1.audience s.room [s.socket] []
    s.turns m (cues others.length incoming) ⟨r, some .arriving, []⟩ =
      let e := visit m.refuses (s.sender m.now) incoming (Effect.start r taken)
      ⟨e.rooms, none, e.sent⟩ := by
  intro others
  have hok : (Effect.start r taken).result = .ok () := rfl
  rw [cues, turns_cons]
  cases hrefused : m.refuses s.socket .accept with
  | true =>
      have hsend := Effect.send_refused .accept hok hrefused
      simp only [turn, hrefused, if_true, turns_over, visit, hsend, Effect.andThen, sender]
      rfl
  | false =>
      have hsend := Effect.send_accepted .accept hok hrefused
      simp only [turn, hrefused, Bool.false_eq_true, if_false, visit, sender, hsend, Effect.andThen]
      exact s.turns_entering m incoming (e := { Effect.start r taken with
        sent := [⟨s.socket, .accept⟩] }) rfl

end Session

end Scriptorium.Rooms

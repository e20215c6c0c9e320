import Scriptorium.Proofs.Rooms.Run
import Scriptorium.Rooms.Visit
set_option autoImplicit false

/-!
# Sessions

A session connects its own socket to a room, sends messages and in the end disconnects with the
same socket, room and user.  Sessions of many clients run at the same time and their actions come in
any order.  `Interleaved` are the states that can be met so.

The end of a session always takes its own socket out.  Whether it takes out another one depends on
who is registered under the name it ends with: a user who came again has the newer socket there,
and it is this one that goes.
-/

namespace Scriptorium.Rooms

open Fields (names)

/-- A client's connection to a room. -/
structure Session where
  socket : Socket
  room : String
  user : Option String
  deriving DecidableEq, Repr

/-- The name under which a session is registered. -/
def Session.name (s : Session) : String := userOf s.socket s.user

/-- The sender of a session's messages. -/
def Session.sender (s : Session) (now : Stamp) : Sender := ⟨s.socket, s.room, s.user, now⟩

/-- The states that interleaved sessions lead to, with the sessions that are still open.  A session
has a socket of its own; anybody may broadcast. -/
inductive Interleaved [Halves] (known : Bool) : List Session → Ledger → Prop where
  | start : Interleaved known [] {}
  | opens {sessions : List Session} {l : Ledger} (s : Session) (now : Stamp)
      (h : Interleaved known sessions l) (hown : ∀ other ∈ sessions, other.socket ≠ s.socket) :
      Interleaved known (s :: sessions)
        ((Action.connect s.socket s.room s.user now).carryOut known l).ledger
  | speaks {sessions : List Session} {l : Ledger} (s : Session) (now : Stamp) (refuses : Refusals)
      (data : String) (h : Interleaved known sessions l) (hopen : s ∈ sessions) :
      Interleaved known sessions
        ((Action.message refuses (s.sender now) data).carryOut known l).ledger
  | tells {sessions : List Session} {l : Ledger} (refuses : Refusals) (room text : String)
      (except : List Socket) (exceptUsers : List String) (h : Interleaved known sessions l) :
      Interleaved known sessions
        ((Action.broadcast refuses room text except exceptUsers).carryOut known l).ledger
  | ends {sessions : List Session} {l : Ledger} (s : Session)
      (h : Interleaved known sessions l) (hopen : s ∈ sessions) :
      Interleaved known (sessions.filter (·.socket != s.socket))
        ((Action.disconnect s.socket s.room s.user).carryOut known l).ledger

/-- A socket is registered in a room. -/
def Registered (r : Rooms) (room : String) (socket : Socket) : Prop :=
  socket ∈ (r.socketsIn room).map (·.2)

instance (r : Rooms) (room : String) (socket : Socket) : Decidable (Registered r room socket) :=
  inferInstanceAs (Decidable (_ ∈ _))

theorem registered_iff (r : Rooms) (room : String) (socket : Socket) :
    Registered r room socket ↔ ∃ name, (name, socket) ∈ r.socketsIn room := by
  simp only [Registered, List.mem_map, Prod.exists, exists_eq_right]

/-! ## Every registered socket is that of an open session -/

/-- The registers hold sockets of open sessions only, each where its session belongs. -/
structure Traced (sessions : List Session) (r : Rooms) : Prop where
  own : ∀ s ∈ sessions, ∀ other ∈ sessions, s.socket = other.socket → s = other
  entries : ∀ room, ∀ entry ∈ r.socketsIn room,
    ∃ s ∈ sessions, s.room = room ∧ s.name = entry.1 ∧ s.socket = entry.2

namespace Traced

variable {sessions : List Session} {r : Rooms}

/-- A registered socket of an open session stands in the session's room under its name. -/
theorem eq_of_mem (h : Traced sessions r) {s : Session} (hs : s ∈ sessions) {room name : String}
    (hmem : (name, s.socket) ∈ r.socketsIn room) : room = s.room ∧ name = s.name := by
  obtain ⟨other, hother, hroom, hname, hsocket⟩ := h.entries room _ hmem
  obtain rfl : other = s := h.own other hother s hs hsocket
  exact ⟨hroom.symm, hname.symm⟩

/-- No socket is registered under two names. -/
theorem name_unique (h : Traced sessions r) {room name other : String} {socket : Socket}
    (hname : (name, socket) ∈ r.socketsIn room) (hother : (other, socket) ∈ r.socketsIn room) :
    name = other := by
  obtain ⟨s, hs, -, hsname, rfl⟩ := h.entries room _ hname
  exact hsname.symm.trans (h.eq_of_mem hs hother).2.symm

theorem connect (h : Traced sessions r) (s : Session) (now : Stamp)
    (hown : ∀ other ∈ sessions, other.socket ≠ s.socket) :
    Traced (s :: sessions) (r.connect s.socket s.room s.user now).1 where
  own := by
    intro first hfirst second hsecond heq
    rcases List.mem_cons.mp hfirst with rfl | hold
    · rcases List.mem_cons.mp hsecond with rfl | hold'
      · rfl
      · exact absurd heq.symm (hown second hold')
    · rcases List.mem_cons.mp hsecond with rfl | hold'
      · exact absurd heq (hown first hold)
      · exact h.own first hold second hold' heq
  entries := by
    intro room entry hentry
    have hold : ∀ room, entry ∈ r.socketsIn room → ∃ o ∈ s :: sessions,
        o.room = room ∧ o.name = entry.1 ∧ o.socket = entry.2 := by
      intro room hmem
      obtain ⟨o, ho, htraced⟩ := h.entries room entry hmem
      exact ⟨o, List.mem_cons_of_mem s ho, htraced⟩
    rw [socketsIn_connect] at hentry
    split at hentry
    · rename_i hroom
      subst hroom
      rcases Fields.mem_put hentry with rfl | hmem
      · exact ⟨s, List.mem_cons_self, rfl, rfl, rfl⟩
      · exact hold _ hmem
    · exact hold room hentry

/-- Fewer entries are traced as well. -/
theorem mono (h : Traced sessions r) {after : Rooms}
    (hsub : ∀ room, (after.socketsIn room).Sublist (r.socketsIn room)) : Traced sessions after where
  own := h.own
  entries room entry hentry := h.entries room entry ((hsub room).subset hentry)

/-- The end of a session takes its own socket out of every room. -/
theorem ne_of_mem_disconnect (h : Traced sessions r) {s : Session} (hs : s ∈ sessions)
    {room : String} {entry : String × Socket}
    (hentry : entry ∈ (r.disconnect s.socket s.room s.user).socketsIn room) :
    entry.2 ≠ s.socket := by
  obtain ⟨name, socket⟩ := entry
  rintro rfl
  have hbefore := ((within_disconnect r s.socket s.room s.user).sockets room).subset hentry
  obtain ⟨rfl, rfl⟩ := h.eq_of_mem hs hbefore
  -- the entry stands under the session's name: it goes with that name, or with its socket
  rcases disconnect_cases r s.socket s.room s.user with
    ⟨name, hnamed, heq⟩ | ⟨-, name, hname, heq⟩ | ⟨-, hnone, heq⟩
  · have hsname : s.name = name := by rw [Session.name, userOf, hnamed, Option.getD_some]
    rw [heq, socketsIn_leave, if_pos rfl, Fields.mem_erase] at hentry
    exact hentry.2 hsname
  · rw [heq, socketsIn_leave, if_pos rfl, Fields.mem_erase] at hentry
    exact hentry.2 (h.name_unique hbefore hname)
  · exact hnone _ hbefore rfl

theorem disconnect (h : Traced sessions r) {s : Session} (hs : s ∈ sessions) :
    Traced (sessions.filter (·.socket != s.socket)) (r.disconnect s.socket s.room s.user) where
  own first hfirst second hsecond :=
    h.own first (List.mem_filter.mp hfirst).1 second (List.mem_filter.mp hsecond).1
  entries := by
    intro room entry hentry
    have hne := h.ne_of_mem_disconnect hs hentry
    obtain ⟨o, ho, hroom, hname, hsocket⟩ := h.entries room entry
      (((within_disconnect r s.socket s.room s.user).sockets room).subset hentry)
    refine ⟨o, List.mem_filter.mpr ⟨ho, ?_⟩, hroom, hname, hsocket⟩
    rw [hsocket]
    exact bne_iff_ne.mpr hne

end Traced

/-- A message takes sockets out at most. -/
theorem socketsIn_message_sublist [Halves] (known : Bool) (l : Ledger) (refuses : Refusals)
    (s : Sender) (data room : String) :
    (((Action.message refuses s data).carryOut known l).rooms.socketsIn room).Sublist
      (l.rooms.socketsIn room) := by
  rw [rooms_carryOut_message]
  refine Reaction.apply_preserves (P := fun r => (r.socketsIn room).Sublist _) ?_ ?_ ?_ _ refuses s
    (List.Sublist.refl _)
  · intro r other user h
    exact (((Within.refl r).leave other user).sockets room).trans h
  · intro r other h
    rwa [socketsIn_lookInto]
  · intro r other user f h
    rwa [socketsIn_changePresence]

namespace Interleaved

variable {known : Bool} {sessions : List Session} {l : Ledger}

theorem coherent [Halves] (h : Interleaved known sessions l) : Coherent l.rooms := by
  induction h with
  | start => exact Coherent.empty
  | opens s now _ _ ih => exact ih.carryOut known _
  | speaks s now refuses data _ _ ih => exact ih.carryOut known _
  | tells refuses room text except exceptUsers _ ih => exact ih.carryOut known _
  | ends s _ _ ih => exact ih.carryOut known _

theorem traced [Halves] (h : Interleaved known sessions l) : Traced sessions l.rooms := by
  induction h with
  | start => exact ⟨by simp, by simp [socketsIn, Fields.get?]⟩
  | opens s now _ hown ih => exact ih.connect s now hown
  | speaks s now refuses data _ _ ih =>
      exact ih.mono fun room => socketsIn_message_sublist known _ refuses (s.sender now) data room
  | tells refuses room text except exceptUsers _ ih =>
      exact ih.mono (within_broadcast _ refuses room text except exceptUsers).sockets
  | ends s _ hopen ih => exact ih.disconnect hopen

end Interleaved

/-! ## Who is taken out when a session ends -/

section Ending

variable {r : Rooms} {room : String} {user : Option String} {socket other : Socket}

/-- A socket that stands under the very name that is given goes, whosever it is. -/
theorem not_registered_disconnect_of_get? {sessions : List Session} (htraced : Traced sessions r)
    {name : String} (hnamed : named? user = some name)
    (hget : Fields.get? (r.socketsIn room) name = some other) :
    ¬ Registered (r.disconnect socket room user) room other := by
  have hleave : r.disconnect socket room user = r.leave room name := by
    simp only [disconnect, hnamed]
  rw [registered_iff, hleave, socketsIn_leave, if_pos rfl]
  rintro ⟨standing, hstanding⟩
  obtain ⟨hmem, hne⟩ := (Fields.mem_erase _ _ _).mp hstanding
  exact hne (htraced.name_unique hmem (Fields.mem_of_get?_eq_some hget))

/-- A socket that does not stand under the name that is given stays. -/
theorem registered_disconnect_of_get?_ne (hcoherent : Coherent r) (hne : socket ≠ other)
    (hbefore : Registered r room other)
    (hget : ∀ name, named? user = some name →
      Fields.get? (r.socketsIn room) name ≠ some other) :
    Registered (r.disconnect socket room user) room other := by
  obtain ⟨standing, hstanding⟩ := (registered_iff r room other).mp hbefore
  have hfound := (hcoherent.get?_socketsIn_eq_some_iff room standing other).mpr hstanding
  rw [registered_iff]
  refine ⟨standing, ?_⟩
  rcases disconnect_cases r socket room user with
    ⟨name, hnamed, heq⟩ | ⟨-, name, hname, heq⟩ | ⟨-, -, heq⟩
  · rw [heq, socketsIn_leave, if_pos rfl, Fields.mem_erase]
    refine ⟨hstanding, ?_⟩
    rintro rfl
    exact hget standing hnamed hfound
  · rw [heq, socketsIn_leave, if_pos rfl, socketsIn_lookInto, Fields.mem_erase]
    refine ⟨hstanding, ?_⟩
    rintro rfl
    have hown := (hcoherent.get?_socketsIn_eq_some_iff room standing socket).mpr hname
    exact hne (Option.some.inj (hown.symm.trans hfound))
  · rwa [heq, socketsIn_lookInto]

end Ending

/-- However sessions are interleaved: a session that ends takes its own socket out of every room,
and another socket of the room stays if and only if it is not the one registered under the name
that the session ends with. -/
theorem ended_session_spares_other_socket_iff [Halves] {known : Bool} {sessions : List Session}
    {l : Ledger} (h : Interleaved known sessions l) :
    (∀ s ∈ sessions, ∀ room,
      ¬ Registered (l.rooms.disconnect s.socket s.room s.user) room s.socket) ∧
    ∀ (socket other : Socket) (room : String) (user : Option String), socket ≠ other →
      Registered l.rooms room other →
        (Registered (l.rooms.disconnect socket room user) room other ↔
          ∀ name, named? user = some name →
            Fields.get? (l.rooms.socketsIn room) name ≠ some other) := by
  refine ⟨?_, ?_⟩
  · intro s hs room hregistered
    obtain ⟨name, hmem⟩ := (registered_iff _ _ _).mp hregistered
    exact h.traced.ne_of_mem_disconnect hs hmem rfl
  · intro socket other room user hne hbefore
    refine ⟨?_, registered_disconnect_of_get?_ne h.coherent hne hbefore⟩
    intro hafter name hnamed hget
    exact not_registered_disconnect_of_get? h.traced hnamed hget hafter

/-- Two tabs of one user, and a guest. -/
def twoTabs : List Action :=
  [.connect 1 "plan" (some "ann") ⟨0, none⟩, .connect 2 "plan" (some "ann") ⟨0, none⟩,
    .connect 3 "plan" none ⟨0, none⟩]

theorem interleaved_twoTabs [Halves] :
    Interleaved true [⟨3, "plan", none⟩, ⟨2, "plan", some "ann"⟩, ⟨1, "plan", some "ann"⟩]
      (run true twoTabs {}) := by
  refine .opens _ _ (.opens _ _ (.opens _ _ .start ?_) ?_) ?_
  · simp
  · simp
  · simp

section

open scoped Halves.Plain

/-- The guest stays when the first tab is closed. -/
theorem guest_spared_by_first_tab :
    (∀ room, ¬ Registered ((run true twoTabs {}).rooms.disconnect 1 "plan" (some "ann")) room 1) ∧
    Registered (run true twoTabs {}).rooms "plan" 3 ∧
    Registered ((run true twoTabs {}).rooms.disconnect 1 "plan" (some "ann")) "plan" 3 := by
  have hguest : Registered (run true twoTabs {}).rooms "plan" 3 := by decide +kernel
  have hname : Fields.get? ((run true twoTabs {}).rooms.socketsIn "plan") "ann" ≠ some 3 := by
    decide +kernel
  obtain ⟨hown, hspares⟩ := ended_session_spares_other_socket_iff interleaved_twoTabs
  refine ⟨hown ⟨1, "plan", some "ann"⟩ (by simp), hguest, ?_⟩
  refine (hspares 1 3 "plan" (some "ann") (by decide) hguest).mpr ?_
  intro name hnamed
  obtain ⟨rfl, -⟩ : "ann" = name ∧ name ≠ "" := by simpa [named?_eq_some_iff] using hnamed
  exact hname

/-- The second tab does not: it is taken out of the room when the first one is closed. -/
theorem second_tab_lost_with_first :
    Interleaved true [⟨3, "plan", none⟩, ⟨2, "plan", some "ann"⟩, ⟨1, "plan", some "ann"⟩]
      (run true twoTabs {}) ∧
    Registered (run true twoTabs {}).rooms "plan" 2 ∧
    ¬ Registered ((run true twoTabs {}).rooms.disconnect 1 "plan" (some "ann")) "plan" 2 :=
  ⟨interleaved_twoTabs, by decide +kernel, by decide +kernel⟩

end

/-! ## Visits are sessions -/

theorem Answers.ledger {socket : Socket} {before after : Effect} (h : Answers socket before after) :
    after.ledger = before.ledger := by
  unfold Effect.ledger
  rw [h.rooms, h.taken]

theorem Reaction.ledger_apply [Halves] (reaction : Reaction) (refuses : Refusals) (s : Sender)
    (e : Effect) :
    (reaction.apply refuses s e).ledger =
      (reaction.apply refuses s (Effect.start e.rooms e.taken)).ledger := by
  unfold Reaction.apply
  cases reaction.news with
  | none => rfl
  | some told => rfl

/-- What a text leaves behind depends on what the text finds, not on what was sent before. -/
theorem ledger_handle [Halves] (refuses : Refusals) (known : Bool) (s : Sender) (data : String)
    {e : Effect} (hok : e.result = .ok ()) :
    (handle refuses known s data e).ledger =
      ((Action.message refuses s data).carryOut known e.ledger).ledger := by
  have hhere := (handle_answers refuses known s data hok).ledger
  have hthere := (handle_answers refuses known s data
    (e := Effect.start e.rooms e.taken) rfl).ledger
  rw [hhere, Reaction.ledger_apply]
  exact hthere.symm

@[simp]
theorem ledger_send (e : Effect) (refuses : Refusals) (socket : Socket) (payload : Payload) :
    (e.send refuses socket payload).ledger = e.ledger := by
  unfold Effect.send Effect.andThen
  split
  · split <;> rfl
  · rfl

namespace Interleaved

variable {sessions : List Session} {e : Effect} {known : Bool}

theorem handleAll [Halves] (refuses : Refusals) {s : Sender} (incoming : List String)
    (hopen : ⟨s.socket, s.room, s.user⟩ ∈ sessions) (h : Interleaved known sessions e.ledger) :
    Interleaved known sessions (handleAll refuses known s incoming e).ledger := by
  induction incoming generalizing e with
  | nil => exact h
  | cons data rest ih =>
      refine ih ?_
      cases hresult : e.result with
      | error fault => simpa only [Effect.andThen, hresult] using h
      | ok done =>
          simp only [Effect.andThen, hresult]
          rw [ledger_handle refuses known s data hresult]
          exact .speaks ⟨s.socket, s.room, s.user⟩ s.now refuses data h hopen

theorem stay [Halves] (refuses : Refusals) (s : Sender) (incoming : List String)
    (hok : e.result = .ok ()) (hown : ∀ other ∈ sessions, other.socket ≠ s.socket)
    (h : Interleaved false sessions e.ledger) :
    Interleaved false (⟨s.socket, s.room, s.user⟩ :: sessions)
      (stay refuses s incoming e).ledger := by
  have hopened := h.opens ⟨s.socket, s.room, s.user⟩ s.now hown
  have htold := hopened.tells refuses s.room (Json.write Json.spaced
    (.record [("type", .text "user_joined"), s.signed, s.stamped])) [s.socket] []
  refine handleAll refuses incoming List.mem_cons_self ?_
  rw [ledger_send]
  simp only [Effect.change, Effect.broadcast, Effect.andThen, hok]
  exact htold

/-- A whole visit is a session that opens, runs and ends before anybody else does anything. -/
theorem visit [Halves] (refuses : Refusals) (s : Sender) (incoming : List String)
    (hown : ∀ other ∈ sessions, other.socket ≠ s.socket)
    (h : Interleaved false sessions e.ledger) :
    Interleaved false sessions (visit refuses s incoming e).ledger := by
  have haccepted : Interleaved false sessions (e.send refuses s.socket .accept).ledger := by
    rwa [ledger_send]
  have hothers : (⟨s.socket, s.room, s.user⟩ :: sessions).filter (·.socket != s.socket) =
      sessions := by
    simpa using hown
  unfold Rooms.visit
  cases hresult : (e.send refuses s.socket .accept).result with
  | error fault => simpa only [Effect.andThen, hresult] using haccepted
  | ok done =>
      have hended := (stay refuses s incoming hresult hown haccepted).ends
        ⟨s.socket, s.room, s.user⟩ List.mem_cons_self
      rw [hothers] at hended
      rw [Effect.andThen]
      simp only [hresult]
      exact hended

end Interleaved

end Scriptorium.Rooms

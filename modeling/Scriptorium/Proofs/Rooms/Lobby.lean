import Mathlib.Data.List.Nodup
import Scriptorium.Proofs.Rooms.Turn
set_option autoImplicit false

/-!
# The lobby

Many clients visit the rooms at the same time and take their turns in any order, each at its own
time and with sockets that refuse what they like: a newcomer may still be telling the room of its
coming while those it has yet to tell are leaving.  A client that takes all its turns without a
pause makes a visit (`run_alone`).

The registers hold nobody but visitors who have entered (`Placed`).  What a visitor says is answered
to it alone, and the others hear of a visitor only when it comes.
-/

namespace Scriptorium.Rooms

/-- A client on a visit. -/
structure Visitor where
  session : Session
  stage : Stage
  deriving DecidableEq, Repr

/-- The socket of a visitor. -/
abbrev Visitor.socket (v : Visitor) : Socket := v.session.socket

/-- The rooms with those who are visiting them, each with a socket of its own. -/
@[ext]
structure Lobby where
  rooms : Rooms := {}
  visitors : List Visitor := []
  own : (visitors.map Visitor.socket).Nodup := by simp

/-- The visitors after one of them has taken a turn. -/
def settle (visitors : List Visitor) (socket : Socket) (stage : Option Stage) : List Visitor :=
  visitors.filterMap fun v =>
    if v.socket = socket then stage.map fun stage => { v with stage := stage } else some v

/-- What can happen in the lobby.  A client comes, or one of the visitors takes its turn. -/
inductive Happening where
  | arrives (s : Session)
  | turn (socket : Socket) (m : Moment) (cue : Cue)

theorem map_socket_settle_sublist (visitors : List Visitor) (socket : Socket)
    (stage : Option Stage) :
    ((settle visitors socket stage).map Visitor.socket).Sublist (visitors.map Visitor.socket) := by
  induction visitors with
  | nil => exact List.Sublist.refl _
  | cons v rest ih =>
      simp only [settle, List.filterMap_cons] at ih ⊢
      split
      · exact ih.cons v.socket
      · rename_i next hnext
        have hsocket : next.socket = v.socket := by
          split at hnext
          · obtain ⟨stage, -, rfl⟩ := Option.map_eq_some_iff.mp hnext
            rfl
          · rw [← Option.some.inj hnext]
        rw [List.map_cons, List.map_cons, hsocket]
        exact ih.cons_cons v.socket

namespace Lobby

/-- Lets something happen; also says what is sent. -/
def step [Halves] (l : Lobby) : Happening → Lobby × List Delivery
  | .arrives s =>
      if hnew : s.socket ∈ l.visitors.map Visitor.socket then (l, [])
      else (⟨l.rooms, ⟨s, .arriving⟩ :: l.visitors, List.nodup_cons.mpr ⟨hnew, l.own⟩⟩, [])
  | .turn socket m cue =>
      match l.visitors.find? (·.socket == socket) with
      | none => (l, [])
      | some v =>
          let t := v.session.turn m l.rooms v.stage cue
          (⟨t.rooms, settle l.visitors socket t.stage,
            l.own.sublist (map_socket_settle_sublist l.visitors socket t.stage)⟩, t.sent)

/-- Lets one thing happen after the other; also says what is sent on the way. -/
def run [Halves] (l : Lobby) : List Happening → Lobby × List Delivery
  | [] => (l, [])
  | happening :: rest =>
      let (next, sent) := l.step happening
      let (last, later) := next.run rest
      (last, sent ++ later)

variable {l : Lobby} {v : Visitor}

theorem eq_of_socket_eq (hv : v ∈ l.visitors) {other : Visitor} (hother : other ∈ l.visitors)
    (hsocket : v.socket = other.socket) : v = other :=
  List.inj_on_of_nodup_map l.own hv hother hsocket

theorem find?_visitors (hv : v ∈ l.visitors) :
    l.visitors.find? (·.socket == v.socket) = some v := by
  cases hfound : l.visitors.find? (·.socket == v.socket) with
  | none => exact absurd (beq_self_eq_true v.socket) (List.find?_eq_none.mp hfound v hv)
  | some other =>
      have hsocket : other.socket = v.socket := by simpa using List.find?_some hfound
      rw [eq_of_socket_eq (List.mem_of_find?_eq_some hfound) hv hsocket]

/-- The turn of a visitor is the turn of its visit. -/
theorem step_turn [Halves] (hv : v ∈ l.visitors) (m : Moment) (cue : Cue) :
    (l.step (.turn v.socket m cue)).1.rooms = (v.session.turn m l.rooms v.stage cue).rooms ∧
    (l.step (.turn v.socket m cue)).1.visitors =
      settle l.visitors v.socket (v.session.turn m l.rooms v.stage cue).stage ∧
    (l.step (.turn v.socket m cue)).2 = (v.session.turn m l.rooms v.stage cue).sent := by
  simp only [step, find?_visitors hv, and_self]

/-- Only a visitor can make something be sent. -/
theorem exists_visitor_of_sent [Halves] {happening : Happening} {d : Delivery}
    (hd : d ∈ (l.step happening).2) :
    ∃ v ∈ l.visitors, ∃ m cue, happening = .turn v.socket m cue ∧
      d ∈ (v.session.turn m l.rooms v.stage cue).sent := by
  cases happening with
  | arrives s =>
      simp only [step] at hd
      split at hd <;> simp at hd
  | turn socket m cue =>
      simp only [step] at hd
      split at hd
      · simp at hd
      · rename_i v hfound
        have hsocket : v.socket = socket := by simpa using List.find?_some hfound
        exact ⟨v, List.mem_of_find?_eq_some hfound, m, cue, by rw [hsocket], hd⟩

/-- The others stay as they are; the visitor goes on to its next stage, if the visit goes on. -/
theorem mem_settle_iff {visitors : List Visitor} {socket : Socket} {stage : Option Stage} :
    v ∈ settle visitors socket stage ↔
      (v ∈ visitors ∧ v.socket ≠ socket) ∨
      ∃ before ∈ visitors, before.socket = socket ∧ stage = some v.stage ∧
        v.session = before.session := by
  simp only [settle, List.mem_filterMap]
  constructor
  · rintro ⟨before, hbefore, hsome⟩
    split at hsome
    · rename_i hsocket
      obtain ⟨next, hnext, rfl⟩ := Option.map_eq_some_iff.mp hsome
      exact .inr ⟨before, hbefore, hsocket, hnext, rfl⟩
    · rename_i hsocket
      obtain rfl := Option.some.inj hsome
      exact .inl ⟨hbefore, hsocket⟩
  · rintro (⟨hv, hsocket⟩ | ⟨before, hbefore, hsocket, hstage, hsession⟩)
    · exact ⟨v, hv, if_neg hsocket⟩
    · refine ⟨before, hbefore, ?_⟩
      rw [if_pos hsocket, hstage, Option.map_some, ← hsession]

/-- A visitor that stays where it is changes nothing. -/
theorem settle_stage (hv : v ∈ l.visitors) :
    settle l.visitors v.socket (some v.stage) = l.visitors := by
  rw [settle, List.filterMap_congr (g := some), List.filterMap_some]
  intro other hother
  split
  · rename_i hsocket
    rw [eq_of_socket_eq hother hv hsocket]
    rfl
  · rfl

end Lobby

/-! ## A visit that nobody interrupts -/

namespace Lobby

/-- Nobody takes the turns of somebody who is not there. -/
theorem run_absent [Halves] (m : Moment) (cues : List Cue) {l : Lobby} {socket : Socket}
    (habsent : ∀ v ∈ l.visitors, v.socket ≠ socket) :
    l.run (cues.map (.turn socket m)) = (l, []) := by
  have hfound : l.visitors.find? (·.socket == socket) = none := by
    simpa [List.find?_eq_none] using habsent
  induction cues with
  | nil => rfl
  | cons cue rest ih => simp only [List.map_cons, run, step, hfound, ih, List.append_nil]

theorem settle_cons (s : Session) (stage : Stage) (next : Option Stage) {others : List Visitor}
    (hothers : ∀ v ∈ others, v.socket ≠ s.socket) :
    settle (⟨s, stage⟩ :: others) s.socket next = (next.map (Visitor.mk s)).toList ++ others := by
  have hkept : settle others s.socket next = others := by
    rw [settle, List.filterMap_congr (g := some), List.filterMap_some]
    intro v hv
    exact if_neg (hothers v hv)
  have hcons : settle (⟨s, stage⟩ :: others) s.socket next =
      (next.map (Visitor.mk s)).toList ++ settle others s.socket next := by
    rw [settle, List.filterMap_cons, if_pos rfl]
    cases next <;> rfl
  rw [hcons, hkept]

/-- Turns that one visitor takes without a pause are the turns of its visit. -/
theorem run_turns [Halves] (s : Session) (m : Moment) {others : List Visitor} (cues : List Cue)
    {l : Lobby}
    {stage : Stage} (hvisitors : l.visitors = ⟨s, stage⟩ :: others) (earlier : List Delivery) :
    let t := s.turns m cues ⟨l.rooms, some stage, earlier⟩
    (l.run (cues.map (.turn s.socket m))).1.rooms = t.rooms ∧
    (l.run (cues.map (.turn s.socket m))).1.visitors =
      (t.stage.map (Visitor.mk s)).toList ++ others ∧
    earlier ++ (l.run (cues.map (.turn s.socket m))).2 = t.sent := by
  induction cues generalizing l stage earlier with
  | nil => simp [Session.turns, run, hvisitors]
  | cons cue rest ih =>
      have hv : ⟨s, stage⟩ ∈ l.visitors := hvisitors ▸ List.mem_cons_self
      have hothers : ∀ v ∈ others, v.socket ≠ s.socket := by
        have hown := l.own
        rw [hvisitors, List.map_cons, List.nodup_cons] at hown
        intro v hv hsocket
        exact hown.1 (List.mem_map.mpr ⟨v, hv, hsocket⟩)
      obtain ⟨hrooms, hnext, hsent⟩ := step_turn hv m cue
      rw [hvisitors, settle_cons s stage _ hothers] at hnext
      obtain ⟨t, ht⟩ : ∃ t, t = s.turn m l.rooms stage cue := ⟨_, rfl⟩
      simp only [List.map_cons, run, Session.turns_cons, hsent, ← List.append_assoc]
      rw [← ht] at hrooms hnext ⊢
      obtain ⟨rooms, next, sent⟩ := t
      cases next with
      | none =>
          rw [run_absent m rest (by rwa [hnext]), Session.turns_over, List.append_nil]
          exact ⟨hrooms, hnext, rfl⟩
      | some next =>
          have hrest := ih hnext (earlier ++ sent)
          rwa [hrooms] at hrest

end Lobby

/-- A client that comes to the lobby and takes all its turns without a pause makes a visit. -/
theorem run_alone [Halves] (l : Lobby) (s : Session)
    (hnew : s.socket ∉ l.visitors.map Visitor.socket)
    (m : Moment) (incoming : List String) (taken : Nat) :
    let told := (l.rooms.connect s.socket s.room s.user m.now).1.audience s.room [s.socket] []
    let e := visit m.refuses (s.sender m.now) incoming (Effect.start l.rooms taken)
    let after := l.run (.arrives s :: (Session.cues told.length incoming).map (.turn s.socket m))
    after.1.rooms = e.rooms ∧ after.1.visitors = l.visitors ∧ after.2 = e.sent := by
  intro told e after
  obtain ⟨arrived, hstep, hrooms, hvisitors⟩ : ∃ arrived, l.step (.arrives s) = (arrived, []) ∧
      arrived.rooms = l.rooms ∧ arrived.visitors = ⟨s, .arriving⟩ :: l.visitors := by
    simp [Lobby.step, hnew]
  have hafter : after =
      arrived.run ((Session.cues told.length incoming).map (.turn s.socket m)) := by
    simp only [after, Lobby.run, hstep, List.nil_append]
  have hturns := Lobby.run_turns s m (Session.cues told.length incoming) hvisitors []
  rw [hrooms, s.turns_eq_visit m l.rooms incoming taken] at hturns
  rw [hafter]
  exact hturns

/-! ## Every registered socket is that of a visitor -/

namespace Lobby

variable {l : Lobby} {v : Visitor}

/-- The registers hold sockets of visitors only, each where its visit takes place. -/
def Placed (l : Lobby) : Prop :=
  ∀ room, ∀ entry ∈ l.rooms.socketsIn room, ∃ v ∈ l.visitors, v.stage.inside = true ∧
    v.session.room = room ∧ v.session.name = entry.1 ∧ v.socket = entry.2

theorem Placed.traced (h : l.Placed) : Traced (l.visitors.map Visitor.session) l.rooms where
  own := by
    intro first hfirst second hsecond hsocket
    obtain ⟨v, hv, rfl⟩ := List.mem_map.mp hfirst
    obtain ⟨other, hother, rfl⟩ := List.mem_map.mp hsecond
    rw [eq_of_socket_eq hv hother hsocket]
  entries := by
    intro room entry hentry
    obtain ⟨v, hv, -, hplaced⟩ := h room entry hentry
    exact ⟨v.session, List.mem_map_of_mem hv, hplaced⟩

/-- After a visit nobody is registered with the socket of the visit. -/
theorem Placed.not_registered_leaves (h : l.Placed) (hv : v ∈ l.visitors) (sent : List Delivery)
    (room : String) : ¬ Registered (v.session.leaves l.rooms sent).rooms room v.socket := by
  intro hregistered
  obtain ⟨name, hmem⟩ := (registered_iff _ _ _).mp hregistered
  exact h.traced.ne_of_mem_disconnect (List.mem_map_of_mem hv) hmem rfl

theorem Placed.step [Halves] (h : l.Placed) (happening : Happening) :
    (l.step happening).1.Placed := by
  cases happening with
  | arrives s =>
      simp only [Lobby.step]
      split
      · exact h
      · intro room entry hentry
        obtain ⟨v, hv, hplaced⟩ := h room entry hentry
        exact ⟨v, List.mem_cons_of_mem _ hv, hplaced⟩
  | turn socket m cue =>
      simp only [Lobby.step]
      split
      · exact h
      · rename_i v hfound
        have hv := List.mem_of_find?_eq_some hfound
        obtain rfl : v.socket = socket := by simpa using List.find?_some hfound
        have hadvance := v.session.advance_turn m l.rooms v.stage cue
        intro room entry hentry
        rcases hadvance.mem_socketsIn hentry with hold | ⟨rfl, rfl, next, hnext, hinside⟩
        · obtain ⟨other, hother, hinside, hplaced⟩ := h room entry hold
          by_cases hsame : other.socket = v.socket
          · obtain rfl := eq_of_socket_eq hother hv hsame
            rcases hadvance.stage hinside with hleaves | ⟨next, hnext, hnextInside⟩
            · -- the visit is over, and its socket was registered nowhere else
              simp only [hleaves] at hentry
              exact absurd hplaced.2.2.symm
                (h.traced.ne_of_mem_disconnect (List.mem_map_of_mem hv) hentry)
            · exact ⟨⟨other.session, next⟩,
                mem_settle_iff.mpr (.inr ⟨other, hv, rfl, hnext, rfl⟩), hnextInside, hplaced⟩
          · exact ⟨other, mem_settle_iff.mpr (.inl ⟨hother, hsame⟩), hinside, hplaced⟩
        · exact ⟨⟨v.session, next⟩, mem_settle_iff.mpr (.inr ⟨v, hv, rfl, hnext, rfl⟩), hinside,
            rfl, rfl, rfl⟩

theorem Placed.run [Halves] (h : l.Placed) (happenings : List Happening) :
    (l.run happenings).1.Placed := by
  induction happenings generalizing l with
  | nil => exact h
  | cons happening rest ih => exact ih (h.step happening)

theorem placed_empty : Placed {} := by
  intro room entry hentry
  simp [socketsIn, Fields.get?] at hentry

end Lobby

/-- However visits are interleaved, and at every point of a run: what a visitor says leaves the
registers and all visitors as they are and is answered by one complaint, to the visitor alone; if
that answer is refused nothing is sent, the visit is over and its socket is registered nowhere.
Whatever is sent to anybody else tells its room that a client has come.  And a client that comes and
takes all its turns without a pause makes just the visit that the server runs. -/
theorem visitors_are_heard_of_only_when_they_come [Halves] (past : List Happening) :
    let l := (Lobby.run {} past).1
    (∀ v ∈ l.visitors, v.stage = .listening → ∀ (m : Moment) (data : String),
      (m.refuses v.socket .json = false →
        l.step (.turn v.socket m (.speaks data)) =
          (l, [⟨v.socket, .json (.record [("error", .text (rebuke data))])⟩])) ∧
      (m.refuses v.socket .json = true →
        (l.step (.turn v.socket m (.speaks data))).2 = [] ∧
        (l.step (.turn v.socket m (.speaks data))).1.rooms =
          l.rooms.disconnect v.socket v.session.room v.session.user ∧
        v ∉ (l.step (.turn v.socket m (.speaks data))).1.visitors ∧
        ∀ room, ¬ Registered (l.step (.turn v.socket m (.speaks data))).1.rooms room v.socket)) ∧
    (∀ (happening : Happening), ∀ d ∈ (l.step happening).2,
      ∃ v ∈ l.visitors, (∃ m cue, happening = .turn v.socket m cue) ∧
        (d.socket = v.socket ∨
          ∃ joined pending lost, v.stage = .telling joined pending lost ∧
            d.payload = .text (v.session.announcement joined))) ∧
    ∀ (s : Session), s.socket ∉ l.visitors.map Visitor.socket →
      ∀ (m : Moment) (incoming : List String) (taken : Nat),
        let told := (l.rooms.connect s.socket s.room s.user m.now).1.audience s.room [s.socket] []
        let e := visit m.refuses (s.sender m.now) incoming (Effect.start l.rooms taken)
        let after :=
          l.run (.arrives s :: (Session.cues told.length incoming).map (.turn s.socket m))
        after.1.rooms = e.rooms ∧ after.1.visitors = l.visitors ∧ after.2 = e.sent := by
  intro l
  have hplaced : l.Placed := Lobby.placed_empty.run past
  refine ⟨?_, ?_, run_alone l⟩
  · intro v hv hlistening m data
    obtain ⟨hrooms, hvisitors, hsent⟩ := Lobby.step_turn hv m (.speaks data)
    rw [hlistening, v.session.turn_speaks] at hrooms hvisitors hsent
    refine ⟨?_, ?_⟩
    · intro haccepted
      simp only [haccepted, Bool.false_eq_true, if_false] at hrooms hvisitors hsent
      rw [← hlistening, Lobby.settle_stage hv] at hvisitors
      exact Prod.ext (Lobby.ext hrooms hvisitors) hsent
    · intro hrefused
      simp only [hrefused, if_true] at hrooms hvisitors hsent
      refine ⟨hsent, hrooms, ?_, ?_⟩
      · rw [hvisitors, Lobby.mem_settle_iff]
        rintro (⟨-, hother⟩ | ⟨-, -, -, hover, -⟩)
        · exact hother rfl
        · cases hover
      · intro room
        rw [hrooms]
        exact hplaced.not_registered_leaves hv [] room
  · intro happening d hd
    obtain ⟨v, hv, m, cue, rfl, hsent⟩ := Lobby.exists_visitor_of_sent hd
    exact ⟨v, hv, ⟨m, cue, rfl⟩, (v.session.advance_turn m l.rooms v.stage cue).sent hsent⟩

/-- Nothing is refused. -/
def quiet : Moment := ⟨⟨0, none⟩, fun _ _ => false⟩

/-- The first socket is closed. -/
def firstClosed : Moment := ⟨⟨0, none⟩, fun socket _ => socket == 1⟩

/-- Ann listens, and Bob has entered and is about to tell the room. -/
def bobComing : List Happening :=
  .arrives ⟨1, "plan", some "ann"⟩ :: (List.replicate 4 (.turn 1 quiet .proceeds) ++
    .arrives ⟨2, "plan", some "bob"⟩ :: List.replicate 2 (.turn 2 quiet .proceeds))

section

open scoped Halves.Plain

/-- What Ann says then is answered to Ann alone, or else ends the visit; and the news that Bob's
next turn sends to Ann is that Bob has come. -/
theorem ann_answered_while_bob_comes :
    let l := (Lobby.run {} bobComing).1
    ⟨⟨1, "plan", some "ann"⟩, .listening⟩ ∈ l.visitors ∧
    l.step (.turn 1 quiet (.speaks "[")) =
      (l, [⟨1, .json (.record [("error", .text "Invalid JSON format")])⟩]) ∧
    ((l.step (.turn 1 firstClosed (.speaks "["))).2 = [] ∧
      ∀ room, ¬ Registered (l.step (.turn 1 firstClosed (.speaks "["))).1.rooms room 1) ∧
    (l.step (.turn 2 quiet .proceeds)).2.map (·.socket) = [1] ∧
    ∀ d ∈ (l.step (.turn 2 quiet .proceeds)).2, ∃ v ∈ l.visitors,
      (∃ m cue, Happening.turn 2 quiet .proceeds = .turn v.socket m cue) ∧
        (d.socket = v.socket ∨ ∃ joined pending lost, v.stage = .telling joined pending lost ∧
          d.payload = .text (v.session.announcement joined)) := by
  intro l
  have hann : ⟨⟨1, "plan", some "ann"⟩, .listening⟩ ∈ l.visitors := by decide +kernel
  have hrebuke : rebuke "[" = "Invalid JSON format" := by decide +kernel
  obtain ⟨hspoken, hsent, -⟩ := visitors_are_heard_of_only_when_they_come bobComing
  obtain ⟨hanswered, -⟩ := hspoken _ hann rfl quiet "["
  obtain ⟨-, hended⟩ := hspoken _ hann rfl firstClosed "["
  obtain ⟨hnothing, -, -, hregistered⟩ := hended rfl
  rw [hrebuke] at hanswered
  refine ⟨hann, hanswered rfl, ⟨hnothing, hregistered⟩, by decide +kernel, ?_⟩
  exact hsent _

end

end Scriptorium.Rooms

import Mathlib.Data.List.Basic
import Scriptorium.Proofs.Rooms.Run
set_option autoImplicit false

/-!
# What a broadcast tries and what it leaves

A broadcast goes through those who are registered in a room as they stood at its start, tries to
send the text to each one who is not left out, and afterwards takes out those whose socket refused.
`Round` is this walk, attempt by attempt.  The registers after a broadcast are the registers before
it without the registrations of the attempts that failed: `Rooms.without` says so for all three
registers at once, entry by entry and in order.
-/

namespace Scriptorium.Rooms

open Fields (names)

/-! ## Attempts -/

/-- How far a broadcast has come: to whom the text was offered, and who did not take it. -/
structure Round where
  tried : List (String × Delivery) := []
  lost : List (String × Socket) := []

/-- Goes on to the next entry of a room, which may be left out. -/
def Round.next (refuses : Refusals) (text : String) (except : List Socket)
    (exceptUsers : List String) (round : Round) (entry : String × Socket) : Round :=
  if entry.2 ∈ except ∨ entry.1 ∈ exceptUsers then round
  else
    { tried := round.tried ++ [(entry.1, ⟨entry.2, .text text⟩)]
      lost := if refuses entry.2 .text then round.lost ++ [entry] else round.lost }

/-- The attempts of a broadcast. -/
def round (r : Rooms) (refuses : Refusals) (room text : String) (except : List Socket)
    (exceptUsers : List String) : Round :=
  (r.socketsIn room).foldl (Round.next refuses text except exceptUsers) {}

/-- The users whose socket did not take what was offered. -/
def Round.failed (refuses : Refusals) (round : Round) : List String :=
  (round.tried.filter fun attempt => refuses attempt.2.socket .text).map (·.1)

/-- Whether an entry of a room is not left out. -/
def isMeant (except : List Socket) (exceptUsers : List String) (entry : String × Socket) : Bool :=
  entry.2 ∉ except && entry.1 ∉ exceptUsers

/-- The attempt to send a text to an entry of a room. -/
def offer (text : String) (entry : String × Socket) : String × Delivery :=
  (entry.1, ⟨entry.2, .text text⟩)

section Round

variable (refuses : Refusals) (text : String) (except : List Socket) (exceptUsers : List String)

/-- Whoever is not left out is offered the text, and is lost if the socket refuses it. -/
theorem Round.next_eq (round : Round) (entry : String × Socket) :
    round.next refuses text except exceptUsers entry =
      { tried := round.tried ++ ([entry].filter (isMeant except exceptUsers)).map (offer text)
        lost := round.lost ++
          ([entry].filter (isMeant except exceptUsers)).filter fun e => refuses e.2 .text } := by
  unfold Round.next
  by_cases hleft : entry.2 ∈ except ∨ entry.1 ∈ exceptUsers
  · have hmeant : isMeant except exceptUsers entry = false := by
      simpa [isMeant, Classical.or_iff_not_imp_left] using hleft
    simp [hleft, hmeant]
  · have hmeant : isMeant except exceptUsers entry = true := by
      simp only [isMeant, Bool.and_eq_true, decide_eq_true_eq]
      exact not_or.mp hleft
    cases hrefused : refuses entry.2 .text with
    | true => simp [hleft, hmeant, hrefused, offer]
    | false => simp [hleft, hmeant, hrefused, offer]

/-- A walk through entries adds the attempts for those who are not left out, in order. -/
theorem Round.foldl_next (entries : List (String × Socket)) (round : Round) :
    entries.foldl (Round.next refuses text except exceptUsers) round =
      { tried := round.tried ++ (entries.filter (isMeant except exceptUsers)).map (offer text)
        lost := round.lost ++
          (entries.filter (isMeant except exceptUsers)).filter fun e => refuses e.2 .text } := by
  induction entries generalizing round with
  | nil => simp
  | cons entry rest ih =>
      have hsplit : (entry :: rest).filter (isMeant except exceptUsers) =
          [entry].filter (isMeant except exceptUsers) ++
            rest.filter (isMeant except exceptUsers) := by
        rw [← List.filter_append, List.singleton_append]
      rw [List.foldl_cons, Round.next_eq, ih, hsplit, List.map_append, List.filter_append,
        List.append_assoc, List.append_assoc]

variable (r : Rooms) (room : String)

theorem tried_round :
    (r.round refuses room text except exceptUsers).tried =
      ((r.socketsIn room).filter (isMeant except exceptUsers)).map (offer text) := by
  rw [round, Round.foldl_next]
  rfl

theorem lost_round :
    (r.round refuses room text except exceptUsers).lost =
      ((r.socketsIn room).filter (isMeant except exceptUsers)).filter
        fun e => refuses e.2 .text := by
  rw [round, Round.foldl_next]
  rfl

/-- The attempts that failed are those of the entries that are lost. -/
theorem failed_round :
    (r.round refuses room text except exceptUsers).failed refuses =
      names (r.round refuses room text except exceptUsers).lost := by
  rw [Round.failed, tried_round, lost_round, List.filter_map, List.map_map]
  rfl

/-- A broadcast is a round of attempts: what was taken has been sent, and who did not take it is
disconnected. -/
theorem broadcast_eq_round :
    r.broadcast refuses room text except exceptUsers =
      ((r.round refuses room text except exceptUsers).lost.foldl
          (fun r entry => r.disconnect entry.2 room (some entry.1)) r,
        ((r.round refuses room text except exceptUsers).tried.map (·.2)).filter
          fun d => !refuses d.socket .text) := by
  have haudience : r.audience room except exceptUsers =
      (r.socketsIn room).filter (isMeant except exceptUsers) := by
    apply List.filter_congr
    intro entry _
    simp [isMeant]
  rw [tried_round, lost_round, List.map_map, List.filter_map]
  simp only [broadcast, haudience, List.partition_eq_filter_filter]
  rfl

end Round

/-! ## Registers without some registrations -/

section Strike

variable {α : Type}

/-- A register of rooms without some users of one room. -/
def strike (room : String) (users : List String) (register : List (String × List (String × α))) :
    List (String × List (String × α)) :=
  register.map fun entry =>
    (entry.1, if entry.1 = room then entry.2.filter (fun e => e.1 ∉ users) else entry.2)

theorem strike_nil (room : String) (register : List (String × List (String × α))) :
    strike room [] register = register := by
  refine (List.map_congr_left ?_).trans (List.map_id register)
  rintro ⟨other, entries⟩ _
  simp

/-- Users who are struck one after the other are struck together. -/
theorem strike_strike (room user : String) (users : List String)
    (register : List (String × List (String × α))) :
    strike room users (strike room [user] register) = strike room (user :: users) register := by
  rw [strike, strike, strike, List.map_map]
  apply List.map_congr_left
  intro entry _
  by_cases hroom : entry.1 = room
  · simp [hroom, List.filter_filter, Bool.and_comm]
  · simp [hroom]

theorem eraseIn_eq_strike {register : List (String × List (String × α))}
    (hnodup : (names register).Nodup) (room user : String) :
    eraseIn register room user = strike room [user] register := by
  unfold eraseIn
  split
  · rename_i habsent
    have hnone : room ∉ names register := (Fields.get?_eq_none_iff _ _).mp habsent
    symm
    refine (List.map_congr_left ?_).trans (List.map_id register)
    intro entry hentry
    have hne : entry.1 ≠ room := by
      intro heq
      exact hnone (List.mem_map.mpr ⟨entry, hentry, heq⟩)
    simp [hne]
  · rename_i users hget
    have hmem : room ∈ names register := (Fields.mem_names_iff _ _).mpr ⟨users, hget⟩
    rw [Fields.put_eq_map hnodup hmem, strike]
    apply List.map_congr_left
    intro entry hentry
    by_cases hroom : entry.1 = room
    · have hsame : entry.2 = users := by
        have hfound := (Fields.get?_eq_some_iff_mem hnodup entry.1 entry.2).mpr hentry
        rw [hroom, hget] at hfound
        exact (Option.some.inj hfound).symm
      simp [hroom, hsame, Fields.erase, bne, Bool.beq_eq_decide_eq]
    · simp [hroom]

end Strike

/-- A register of users without one room of some users; who is left without rooms is taken out. -/
def unsubscribeAll (room : String) (users : List String) (register : List (String × List String)) :
    List (String × List String) :=
  register.filterMap fun entry =>
    if entry.1 ∈ users then
      if (entry.2.filter (· != room)).isEmpty then none
      else some (entry.1, entry.2.filter (· != room))
    else some entry

theorem unsubscribeAll_nil (room : String) (register : List (String × List String)) :
    unsubscribeAll room [] register = register := by
  simp [unsubscribeAll]

theorem unsubscribeAll_cons (room user : String) (users : List String)
    (register : List (String × List String)) :
    unsubscribeAll room users (unsubscribeAll room [user] register) =
      unsubscribeAll room (user :: users) register := by
  rw [unsubscribeAll, unsubscribeAll, unsubscribeAll, List.filterMap_filterMap]
  congr 1
  funext entry
  by_cases huser : entry.1 = user
  · by_cases hempty : (entry.2.filter (· != room)).isEmpty = true
    · simp [huser, hempty]
    · simp only [huser, if_true, hempty, Bool.false_eq_true, if_false, Option.bind_some,
        List.filter_filter, Bool.and_self, List.mem_cons, true_or, ite_self]
  · simp [huser]

theorem unsubscribe_eq {register : List (String × List String)} (hnodup : (names register).Nodup)
    (user room : String) :
    unsubscribe register user room = unsubscribeAll room [user] register := by
  -- the entry of the user is the one that is looked up
  have hown : ∀ rooms, Fields.get? register user = some rooms → ∀ entry ∈ register,
      entry.1 = user → entry.2 = rooms := by
    intro rooms hget entry hentry huser
    have hfound := (Fields.get?_eq_some_iff_mem hnodup entry.1 entry.2).mpr hentry
    rw [huser, hget] at hfound
    exact (Option.some.inj hfound).symm
  unfold unsubscribe unsubscribeAll
  split
  · rename_i habsent
    symm
    refine (List.filterMap_congr ?_).trans List.filterMap_some
    intro entry hentry
    have hne : entry.1 ≠ user := by
      intro heq
      exact (Fields.get?_eq_none_iff _ _).mp habsent (List.mem_map.mpr ⟨entry, hentry, heq⟩)
    simp [hne]
  · rename_i rooms hget
    simp only
    split
    · rename_i hempty
      rw [Fields.erase, ← List.filterMap_eq_filter]
      apply List.filterMap_congr
      intro entry hentry
      by_cases huser : entry.1 = user
      · simp [huser, hown rooms hget entry hentry huser, hempty, Option.guard]
      · simp [huser, Option.guard]
    · rename_i hfull
      have hmem : user ∈ names register := (Fields.mem_names_iff _ _).mpr ⟨rooms, hget⟩
      rw [Fields.put_eq_map hnodup hmem, ← List.filterMap_eq_map]
      apply List.filterMap_congr
      intro entry hentry
      by_cases huser : entry.1 = user
      · simp [huser, hown rooms hget entry hentry huser, hfull]
      · simp [huser]

theorem names_strike {α : Type} (room : String) (users : List String)
    (register : List (String × List (String × α))) :
    names (strike room users register) = names register := by
  simp [names, strike]

theorem names_unsubscribeAll_sublist (room : String) (users : List String)
    (register : List (String × List String)) :
    (names (unsubscribeAll room users register)).Sublist (names register) := by
  induction register with
  | nil => exact .slnil
  | cons entry rest ih =>
      rw [unsubscribeAll, List.filterMap_cons]
      split
      · exact ih.cons entry.1
      · rename_i kept hkept
        have hname : kept.1 = entry.1 := by
          grind
        rw [names, List.map_cons, hname]
        exact ih.cons_cons entry.1

/-- The registers without the registrations of some users in one room. -/
def without (r : Rooms) (room : String) (users : List String) : Rooms where
  connections := strike room users r.connections
  subscriptions := unsubscribeAll room users r.subscriptions
  presence := strike room users r.presence

theorem without_nil (r : Rooms) (room : String) : r.without room [] = r := by
  simp only [without, strike_nil, unsubscribeAll_nil]

theorem without_without (r : Rooms) (room user : String) (users : List String) :
    (r.without room [user]).without room users = r.without room (user :: users) := by
  simp only [without, strike_strike, unsubscribeAll_cons]

/-! ## Every name once -/

/-- No room and no user stands twice in a register. -/
structure Distinct (r : Rooms) : Prop where
  connections : (names r.connections).Nodup
  subscriptions : (names r.subscriptions).Nodup
  presence : (names r.presence).Nodup

namespace Distinct

variable {r : Rooms}

theorem empty : Distinct {} := ⟨List.nodup_nil, List.nodup_nil, List.nodup_nil⟩

theorem connect (h : Distinct r) (socket : Socket) (room : String) (user : Option String)
    (now : Stamp) : Distinct (r.connect socket room user now).1 where
  connections := Fields.nodup_names_put h.connections _ _
  subscriptions := Fields.nodup_names_put h.subscriptions _ _
  presence := Fields.nodup_names_put h.presence _ _

/-- Whoever leaves a room takes the one registration along. -/
theorem leave_eq (h : Distinct r) (room user : String) :
    r.leave room user = r.without room [user] := by
  simp only [Rooms.leave, without, eraseIn_eq_strike h.connections, eraseIn_eq_strike h.presence,
    unsubscribe_eq h.subscriptions]

theorem without (h : Distinct r) (room : String) (users : List String) :
    Distinct (r.without room users) where
  connections := by
    rw [Rooms.without, names_strike]
    exact h.connections
  subscriptions := (names_unsubscribeAll_sublist room users _).nodup h.subscriptions
  presence := by
    rw [Rooms.without, names_strike]
    exact h.presence

theorem leave (h : Distinct r) (room user : String) : Distinct (r.leave room user) := by
  rw [h.leave_eq]
  exact h.without room [user]

theorem lookInto (h : Distinct r) (room : String) : Distinct (r.lookInto room) where
  connections := by
    unfold Rooms.lookInto
    split
    · exact h.connections
    · exact Fields.nodup_names_put h.connections _ _
  subscriptions := by rw [subscriptions_lookInto]; exact h.subscriptions
  presence := by rw [presence_lookInto]; exact h.presence

theorem changePresence (h : Distinct r) (room : String) (user : Option String)
    (f : Presence → Presence) : Distinct (r.changePresence room user f) := by
  rcases changePresence_cases r room user f with ⟨name, p, -, -, heq⟩ | ⟨-, heq⟩
  · rw [heq]
    exact ⟨h.connections, h.subscriptions, Fields.nodup_names_put h.presence _ _⟩
  · rw [heq]
    exact h

theorem run [Halves] (h : Distinct r) (known : Bool) (actions : List Action) (taken : Nat) :
    Distinct (Rooms.run known actions ⟨r, taken⟩).rooms :=
  run_preserves (fun _ room user h => h.leave room user) (fun _ room h => h.lookInto room)
    (fun _ room user f h => h.changePresence room user f)
    (fun _ socket room user now h => h.connect socket room user now) known actions h

/-- Disconnecting users of a room one after the other takes out their registrations in it. -/
theorem disconnect_all (h : Distinct r) (room : String) {lost : List (String × Socket)}
    (hnamed : ∀ entry ∈ lost, entry.1 ≠ "") :
    lost.foldl (fun r entry => r.disconnect entry.2 room (some entry.1)) r =
      r.without room (names lost) := by
  induction lost generalizing r with
  | nil => exact (without_nil r room).symm
  | cons entry rest ih =>
      obtain ⟨hentry, hrest⟩ := List.forall_mem_cons.mp hnamed
      have hleaves : r.disconnect entry.2 room (some entry.1) = r.leave room entry.1 := by
        have hname : named? (some entry.1) = some entry.1 :=
          (named?_eq_some_iff _ _).mpr ⟨rfl, hentry⟩
        simp only [disconnect, hname]
      rw [List.foldl_cons, hleaves, ih (h.leave room entry.1) hrest, h.leave_eq, without_without]
      rfl

/-- Users keep the rooms that they are not taken out of. -/
theorem roomsOf_without (h : Distinct r) (room : String) (users : List String) (user : String) :
    (r.without room users).roomsOf user =
      if user ∈ users then (r.roomsOf user).filter (· != room) else r.roomsOf user := by
  induction users generalizing r with
  | nil => simp [without_nil]
  | cons first rest ih =>
      rw [← without_without, ih (h.without room [first]), ← h.leave_eq, roomsOf_leave]
      by_cases hfirst : user = first
      · simp [hfirst, List.filter_filter]
      · simp [hfirst]

end Distinct

/-- A register keeps its other rooms as they are. -/
theorem get?_strike {α : Type} (room : String) (users : List String)
    (register : List (String × List (String × α))) (other : String) :
    Fields.get? (strike room users register) other =
      (Fields.get? register other).map fun entries =>
        if other = room then entries.filter (fun e => e.1 ∉ users) else entries := by
  induction register with
  | nil => rfl
  | cons entry rest ih =>
      obtain ⟨key, entries⟩ := entry
      have hrest : strike room users ((key, entries) :: rest) =
        (key, if key = room then entries.filter (fun e => e.1 ∉ users) else entries) ::
          strike room users rest := rfl
      rw [hrest, Fields.get?_cons, Fields.get?_cons, ih]
      by_cases hkey : key = other
      · simp [hkey]
      · simp [hkey]

theorem socketsIn_without (r : Rooms) (room : String) (users : List String) (other : String) :
    (r.without room users).socketsIn other =
      if other = room then (r.socketsIn other).filter (fun e => e.1 ∉ users)
      else r.socketsIn other := by
  simp only [socketsIn, without, get?_strike]
  cases Fields.get? r.connections other <;> simp

theorem presencesIn_without (r : Rooms) (room : String) (users : List String) (other : String) :
    (r.without room users).presencesIn other =
      if other = room then (r.presencesIn other).filter (fun e => e.1 ∉ users)
      else r.presencesIn other := by
  simp only [presencesIn, without, get?_strike]
  cases Fields.get? r.presence other <;> simp

/-! ## Broadcasts -/

/-- After every run, for every room, text and set of those who are left out, and whichever sockets
refuse: a broadcast offers the text once to each one who is registered in the room and not left out,
in the order of the registrations, and to nobody else; it is sent to those whose socket takes it;
and the three registers are those before it without the registrations in this room of the users
whose attempt failed.  These users keep their other rooms, and all other rooms keep their users. -/
theorem broadcast_drops_exactly_failed [Halves] (known : Bool) (actions : List Action)
    (refuses : Refusals) (room text : String) (except : List Socket) (exceptUsers : List String) :
    let r := (run known actions {}).rooms
    let round := r.round refuses room text except exceptUsers
    let after := r.broadcast refuses room text except exceptUsers
    round.tried = ((r.socketsIn room).filter fun e => e.2 ∉ except ∧ e.1 ∉ exceptUsers).map
      (fun e => (e.1, ⟨e.2, .text text⟩)) ∧
    (round.tried.map (·.1)).Nodup ∧
    after.2 = (round.tried.map (·.2)).filter (fun d => !refuses d.socket .text) ∧
    after.1 = r.without room (round.failed refuses) ∧
    (∀ other, after.1.socketsIn other = if other = room
      then (r.socketsIn other).filter (fun e => e.1 ∉ round.failed refuses)
      else r.socketsIn other) ∧
    (∀ other, after.1.presencesIn other = if other = room
      then (r.presencesIn other).filter (fun e => e.1 ∉ round.failed refuses)
      else r.presencesIn other) ∧
    ∀ user, after.1.roomsOf user = if user ∈ round.failed refuses
      then (r.roomsOf user).filter (· != room) else r.roomsOf user := by
  intro r round after
  have hcoherent : Coherent r := Coherent.empty.run known actions
  have hdistinct : Distinct r := Distinct.empty.run known actions 0
  have htried : round.tried = ((r.socketsIn room).filter (isMeant except exceptUsers)).map
      (offer text) := tried_round refuses text except exceptUsers r room
  have hsub : ∀ entry ∈ round.lost, entry ∈ r.socketsIn room := by
    intro entry hentry
    rw [lost_round] at hentry
    exact (List.mem_filter.mp (List.mem_filter.mp hentry).1).1
  have hnamed : ∀ entry ∈ round.lost, entry.1 ≠ "" := by
    rintro entry hentry hempty
    exact hcoherent.named room (hempty ▸ Fields.mem_names_of_mem (hsub entry hentry))
  have hrooms : after.1 = r.without room (round.failed refuses) := by
    rw [failed_round, ← hdistinct.disconnect_all room hnamed]
    exact congrArg Prod.fst (broadcast_eq_round refuses text except exceptUsers r room)
  refine ⟨?_, ?_, ?_, hrooms, ?_, ?_, ?_⟩
  · rw [htried]
    congr 1
    apply List.filter_congr
    intro entry _
    simp [isMeant]
  · rw [htried, List.map_map]
    exact (List.filter_sublist.map _).nodup (hcoherent.distinct room)
  · exact congrArg Prod.snd (broadcast_eq_round refuses text except exceptUsers r room)
  · intro other
    rw [hrooms, socketsIn_without]
  · intro other
    rw [hrooms, presencesIn_without]
  · intro user
    rw [hrooms, hdistinct.roomsOf_without]

end Scriptorium.Rooms

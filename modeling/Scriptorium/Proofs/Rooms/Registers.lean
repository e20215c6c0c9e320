import Scriptorium.Proofs.Fields
import Scriptorium.Rooms.Delivery
set_option autoImplicit false

/-!
# What happens to the registers

The registers of all rooms are seen through three views: the sockets in a room, the presences in a
room and the rooms of a user.  For every change there is one equation for each view, and no later
proof opens a change again.  `Coherent` says how the three views belong together; every change
keeps it.
-/

namespace Scriptorium.Rooms

open Fields (names)

/-! ## The user of a socket -/

theorem named?_eq_some_iff (user : Option String) (name : String) :
    named? user = some name ↔ user = some name ∧ name ≠ "" := by
  simp only [named?, Option.filter_eq_some_iff, Bool.not_eq_true', String.isEmpty_eq_false_iff]

/-- A socket never stands for the empty name. -/
theorem userOf_ne_empty (socket : Socket) (user : Option String) : userOf socket user ≠ "" := by
  unfold userOf
  cases hnamed : named? user with
  | none =>
      rw [Option.getD_none]
      intro hempty
      have hlength := congrArg String.length hempty
      simp [String.length_append] at hlength
  | some name =>
      exact ((named?_eq_some_iff user name).mp hnamed).2

/-! ## Coming -/

theorem mem_addOnce (items : List String) (item other : String) :
    other ∈ addOnce items item ↔ other = item ∨ other ∈ items := by
  unfold addOnce
  split
  · rename_i hcontains
    have hmem : item ∈ items := List.contains_iff_mem.mp hcontains
    constructor
    · exact Or.inr
    · rintro (rfl | hother)
      · exact hmem
      · exact hother
  · rw [List.mem_append, List.mem_singleton, or_comm]

section Connect

variable (r : Rooms) (socket : Socket) (room : String) (user : Option String) (now : Stamp)

theorem socketsIn_connect (other : String) :
    (r.connect socket room user now).1.socketsIn other =
      if other = room then Fields.put (r.socketsIn room) (userOf socket user) socket
      else r.socketsIn other := by
  split
  · rename_i heq
    subst heq
    simp only [connect, socketsIn, Fields.get?_put_self, Option.getD_some]
  · rename_i hne
    simp only [connect, socketsIn, Fields.get?_put_of_ne _ _ hne]

theorem presencesIn_connect (other : String) :
    (r.connect socket room user now).1.presencesIn other =
      if other = room then Fields.put (r.presencesIn room) (userOf socket user) (online now)
      else r.presencesIn other := by
  split
  · rename_i heq
    subst heq
    simp only [connect, presencesIn, Fields.get?_put_self, Option.getD_some]
  · rename_i hne
    simp only [connect, presencesIn, Fields.get?_put_of_ne _ _ hne]

theorem roomsOf_connect (other : String) :
    (r.connect socket room user now).1.roomsOf other =
      if other = userOf socket user then addOnce (r.roomsOf other) room else r.roomsOf other := by
  split
  · rename_i heq
    subst heq
    simp only [connect, roomsOf, Fields.get?_put_self, Option.getD_some]
  · rename_i hne
    simp only [connect, roomsOf, Fields.get?_put_of_ne _ _ hne]

end Connect

/-! ## Leaving -/

/-- Taking a name out of one room leaves the other rooms as they are. -/
theorem get?_eraseIn {α : Type} (register : List (String × List (String × α)))
    (room user other : String) :
    (Fields.get? (eraseIn register room user) other).getD [] =
      if other = room then Fields.erase ((Fields.get? register other).getD []) user
      else (Fields.get? register other).getD [] := by
  unfold eraseIn
  by_cases heq : other = room
  · subst heq
    cases hroom : Fields.get? register other with
    | none => simp [hroom, Fields.erase]
    | some users => simp [Fields.get?_put_self]
  · rw [if_neg heq]
    cases Fields.get? register room with
    | none => rfl
    | some users => simp only [Fields.get?_put_of_ne _ _ heq]

section Leave

variable (r : Rooms) (room user : String)

theorem socketsIn_leave (other : String) :
    (r.leave room user).socketsIn other =
      if other = room then Fields.erase (r.socketsIn other) user else r.socketsIn other :=
  get?_eraseIn r.connections room user other

theorem presencesIn_leave (other : String) :
    (r.leave room user).presencesIn other =
      if other = room then Fields.erase (r.presencesIn other) user else r.presencesIn other :=
  get?_eraseIn r.presence room user other

theorem roomsOf_leave (other : String) :
    (r.leave room user).roomsOf other =
      if other = user then (r.roomsOf other).filter (· != room) else r.roomsOf other := by
  simp only [leave, roomsOf, unsubscribe]
  by_cases heq : other = user
  · subst heq
    cases huser : Fields.get? r.subscriptions other with
    | none => simp [huser]
    | some rooms =>
        simp only [if_true, Option.getD_some]
        split
        · rename_i hempty
          rw [Fields.get?_erase_self, Option.getD_none, List.isEmpty_iff.mp hempty]
        · rw [Fields.get?_put_self, Option.getD_some]
  · rw [if_neg heq]
    cases Fields.get? r.subscriptions user with
    | none => rfl
    | some rooms =>
        simp only
        split
        · rw [Fields.get?_erase_of_ne _ heq]
        · rw [Fields.get?_put_of_ne _ _ heq]

/-- A user who leaves takes no empty list of rooms along: it is taken from the register. -/
theorem ne_nil_of_mem_subscriptions_leave (hbusy : ∀ entry ∈ r.subscriptions, entry.2 ≠ []) :
    ∀ entry ∈ (r.leave room user).subscriptions, entry.2 ≠ [] := by
  intro entry hentry
  simp only [leave, unsubscribe] at hentry
  split at hentry
  · exact hbusy entry hentry
  · split at hentry
    · exact hbusy entry ((Fields.mem_erase _ _ _).mp hentry).1
    · rename_i hfull
      rcases Fields.mem_put hentry with rfl | hold
      · simpa using hfull
      · exact hbusy entry hold

end Leave

/-! ## Looking into a room -/

section LookInto

variable (r : Rooms) (room : String)

@[simp]
theorem socketsIn_lookInto (other : String) :
    (r.lookInto room).socketsIn other = r.socketsIn other := by
  unfold lookInto
  split
  · rfl
  · rename_i hnone
    have hget : Fields.get? r.connections room = none := by
      rw [Fields.get?_eq_none_iff, ← Fields.has_eq_true_iff]
      exact hnone
    by_cases heq : other = room
    · subst heq
      simp [socketsIn, Fields.get?_put_self, hget]
    · simp only [socketsIn, Fields.get?_put_of_ne _ _ heq]

@[simp]
theorem presence_lookInto : (r.lookInto room).presence = r.presence := by
  unfold lookInto
  split <;> rfl

@[simp]
theorem subscriptions_lookInto : (r.lookInto room).subscriptions = r.subscriptions := by
  unfold lookInto
  split <;> rfl

@[simp]
theorem presencesIn_lookInto (other : String) :
    (r.lookInto room).presencesIn other = r.presencesIn other := by
  simp only [presencesIn, presence_lookInto]

end LookInto

/-! ## Changing a presence -/

section ChangePresence

variable (r : Rooms) (room : String) (user : Option String) (f : Presence → Presence)

/-- Either the user is present in the room and the presence is written anew, or nothing happens. -/
theorem changePresence_cases :
    (∃ name p, user = some name ∧ Fields.get? (r.presencesIn room) name = some p ∧
      r.changePresence room user f = { r with
        presence := Fields.put r.presence room (Fields.put (r.presencesIn room) name (f p)) }) ∨
    ((∀ name, user = some name → Fields.get? (r.presencesIn room) name = none) ∧
      r.changePresence room user f = r) := by
  cases user with
  | none => exact Or.inr ⟨by simp, rfl⟩
  | some name =>
      simp only [changePresence, presencesIn, Option.some.injEq, forall_eq']
      cases hroom : Fields.get? r.presence room with
      | none => exact Or.inr ⟨rfl, rfl⟩
      | some users =>
          simp only [Option.getD_some]
          cases huser : Fields.get? users name with
          | none => exact Or.inr ⟨rfl, rfl⟩
          | some p => exact Or.inl ⟨name, p, rfl, huser, rfl⟩

@[simp]
theorem socketsIn_changePresence (other : String) :
    (r.changePresence room user f).socketsIn other = r.socketsIn other := by
  rcases changePresence_cases r room user f with ⟨name, p, -, -, heq⟩ | ⟨-, heq⟩
  · rw [heq]
    rfl
  · rw [heq]

@[simp]
theorem subscriptions_changePresence :
    (r.changePresence room user f).subscriptions = r.subscriptions := by
  rcases changePresence_cases r room user f with ⟨name, p, -, -, heq⟩ | ⟨-, heq⟩ <;> rw [heq]

/-- Changing a presence brings nobody and takes nobody. -/
@[simp]
theorem names_presencesIn_changePresence (other : String) :
    names ((r.changePresence room user f).presencesIn other) = names (r.presencesIn other) := by
  rcases changePresence_cases r room user f with ⟨name, p, -, hget, heq⟩ | ⟨-, heq⟩
  · rw [heq]
    by_cases hroom : other = room
    · subst hroom
      have hmem : name ∈ names (r.presencesIn other) := (Fields.mem_names_iff _ _).mpr ⟨p, hget⟩
      simp only [presencesIn, Fields.get?_put_self, Option.getD_some]
      exact Fields.names_put_of_mem _ _ hmem
    · simp only [presencesIn, Fields.get?_put_of_ne _ _ hroom]
  · rw [heq]

/-- Only the presence of the one user in the one room is changed. -/
theorem get?_presencesIn_changePresence (other name : String) :
    Fields.get? ((r.changePresence room user f).presencesIn other) name =
      if other = room ∧ user = some name then (Fields.get? (r.presencesIn other) name).map f
      else Fields.get? (r.presencesIn other) name := by
  rcases changePresence_cases r room user f with ⟨changed, p, rfl, hget, heq⟩ | ⟨hnone, heq⟩
  · rw [heq]
    by_cases hroom : other = room
    · subst hroom
      simp only [presencesIn, Fields.get?_put_self, Option.getD_some] at hget ⊢
      by_cases hname : name = changed
      · subst hname
        simp [Fields.get?_put_self, hget]
      · simp [Fields.get?_put_of_ne _ _ hname, Ne.symm hname]
    · simp [presencesIn, Fields.get?_put_of_ne _ _ hroom, hroom]
  · rw [heq]
    split
    · rename_i hboth
      obtain ⟨rfl, huser⟩ := hboth
      simp [hnone name huser]
    · rfl

@[simp]
theorem isPresent_changePresence (other : String) (someone : Option String) :
    (r.changePresence room user f).isPresent other someone = r.isPresent other someone := by
  cases someone with
  | none => rfl
  | some name =>
      simp only [isPresent, Option.any_some]
      rw [Bool.eq_iff_iff, Fields.has_eq_true_iff, Fields.has_eq_true_iff,
        names_presencesIn_changePresence]

variable {r room} in
/-- A room in which somebody is present is in the register of presences. -/
theorem get?_presence_of_present {name : String} {p : Presence}
    (h : Fields.get? (r.presencesIn room) name = some p) :
    Fields.get? r.presence room = some (r.presencesIn room) := by
  unfold presencesIn at h ⊢
  cases hroom : Fields.get? r.presence room with
  | none =>
      rw [hroom, Option.getD_none] at h
      cases h
  | some users => rfl

/-- A change that leaves a presence as it is leaves all registers as they are. -/
@[simp]
theorem changePresence_id : r.changePresence room user id = r := by
  rcases changePresence_cases r room user id with ⟨name, p, -, hget, heq⟩ | ⟨-, heq⟩
  · rw [heq, id, Fields.put_of_get?_eq_some hget,
      Fields.put_of_get?_eq_some (get?_presence_of_present hget)]
  · exact heq

/-- Two changes of one presence are one change. -/
theorem changePresence_changePresence (g : Presence → Presence) :
    (r.changePresence room user f).changePresence room user g =
      r.changePresence room user (g ∘ f) := by
  rcases changePresence_cases r room user f with ⟨name, p, rfl, hget, -⟩ | ⟨hnone, heq⟩
  · simp only [changePresence, get?_presence_of_present hget, hget, Fields.get?_put_self,
      Fields.put_put, Function.comp]
  · -- nobody is there to be changed, neither now nor later
    have hstill : ∀ h : Presence → Presence, r.changePresence room user h = r := by
      intro h
      rcases changePresence_cases r room user h with ⟨name, p, huser, hget, -⟩ | ⟨-, hsame⟩
      · rw [hnone name huser] at hget
        cases hget
      · exact hsame
    rw [heq, hstill g, hstill (g ∘ f)]

end ChangePresence

/-! ## Disconnecting and broadcasting

Both are made of leaving and looking into a room, so whatever these two keep is kept. -/

/-- A socket that is disconnected takes out the user who is named, or else a user with this very
socket, or else nobody. -/
theorem disconnect_cases (r : Rooms) (socket : Socket) (room : String) (user : Option String) :
    (∃ name, named? user = some name ∧ r.disconnect socket room user = r.leave room name) ∨
    (named? user = none ∧ ∃ name, (name, socket) ∈ r.socketsIn room ∧
      r.disconnect socket room user = (r.lookInto room).leave room name) ∨
    (named? user = none ∧ (∀ entry ∈ r.socketsIn room, entry.2 ≠ socket) ∧
      r.disconnect socket room user = r.lookInto room) := by
  unfold disconnect
  cases hnamed : named? user with
  | some name => exact Or.inl ⟨name, rfl, rfl⟩
  | none =>
      refine Or.inr ?_
      simp only [socketsIn_lookInto]
      cases hfind : (r.socketsIn room).find? fun entry => entry.2 == socket with
      | some entry =>
          obtain ⟨name, found⟩ := entry
          have hsocket : found = socket := by simpa using List.find?_some hfind
          have hmem := List.mem_of_find?_eq_some hfind
          subst hsocket
          exact Or.inl ⟨trivial, name, hmem, rfl⟩
      | none =>
          refine Or.inr ⟨trivial, ?_, rfl⟩
          intro entry hentry
          simpa using List.find?_eq_none.mp hfind entry hentry

section Preserves

variable {P : Rooms → Prop} (hleave : ∀ r room user, P r → P (r.leave room user))
  (hlook : ∀ r room, P r → P (r.lookInto room))

include hleave hlook

theorem disconnect_preserves {r : Rooms} (h : P r) (socket : Socket) (room : String)
    (user : Option String) : P (r.disconnect socket room user) := by
  rcases disconnect_cases r socket room user with
    ⟨name, -, heq⟩ | ⟨-, name, -, heq⟩ | ⟨-, -, heq⟩
  · rw [heq]
    exact hleave r room name h
  · rw [heq]
    exact hleave _ room name (hlook r room h)
  · rw [heq]
    exact hlook r room h

theorem broadcast_preserves {r : Rooms} (h : P r) (refuses : Refusals) (room text : String)
    (except : List Socket) (exceptUsers : List String) :
    P (r.broadcast refuses room text except exceptUsers).1 := by
  simp only [broadcast]
  -- who is lost is settled before the first of them is taken out
  generalize ((r.audience room except exceptUsers).partition fun entry =>
    refuses entry.2 .text).1 = lost
  induction lost generalizing r with
  | nil => exact h
  | cons entry rest ih =>
      exact ih (disconnect_preserves hleave hlook h entry.2 room (some entry.1))

end Preserves

/-- What is registered after a change was registered before. -/
structure Within (before after : Rooms) : Prop where
  sockets : ∀ room, (after.socketsIn room).Sublist (before.socketsIn room)
  presences : ∀ room, (after.presencesIn room).Sublist (before.presencesIn room)

namespace Within

theorem refl (r : Rooms) : Within r r :=
  ⟨fun _ => List.Sublist.refl _, fun _ => List.Sublist.refl _⟩

theorem leave {before r : Rooms} (h : Within before r) (room user : String) :
    Within before (r.leave room user) where
  sockets other := by
    rw [socketsIn_leave]
    split
    · exact List.filter_sublist.trans (h.sockets other)
    · exact h.sockets other
  presences other := by
    rw [presencesIn_leave]
    split
    · exact List.filter_sublist.trans (h.presences other)
    · exact h.presences other

theorem lookInto {before r : Rooms} (h : Within before r) (room : String) :
    Within before (r.lookInto room) where
  sockets other := by rw [socketsIn_lookInto]; exact h.sockets other
  presences other := by rw [presencesIn_lookInto]; exact h.presences other

end Within

theorem within_disconnect (r : Rooms) (socket : Socket) (room : String) (user : Option String) :
    Within r (r.disconnect socket room user) :=
  disconnect_preserves (fun _ room user h => h.leave room user) (fun _ room h => h.lookInto room)
    (Within.refl r) socket room user

theorem within_broadcast (r : Rooms) (refuses : Refusals) (room text : String)
    (except : List Socket) (exceptUsers : List String) :
    Within r (r.broadcast refuses room text except exceptUsers).1 :=
  broadcast_preserves (fun _ room user h => h.leave room user) (fun _ room h => h.lookInto room)
    (Within.refl r) refuses room text except exceptUsers

/-! ## Coherence -/

/-- The three registers agree: a user has a socket in a room, a presence in it and the room among
its own for the same users and rooms; sockets and presences stand in the same order; no user is kept
without rooms, without a name or twice in a room. -/
structure Coherent (r : Rooms) : Prop where
  sameNames : ∀ room, names (r.presencesIn room) = names (r.socketsIn room)
  subscribed : ∀ room user, room ∈ r.roomsOf user ↔ user ∈ names (r.socketsIn room)
  busy : ∀ entry ∈ r.subscriptions, entry.2 ≠ []
  named : ∀ room, "" ∉ names (r.socketsIn room)
  distinct : ∀ room, (names (r.socketsIn room)).Nodup

namespace Coherent

theorem empty : Coherent {} where
  sameNames _ := rfl
  subscribed room user := by simp [roomsOf, socketsIn, Fields.get?, names]
  busy := by simp
  named room := by simp [socketsIn, Fields.get?, names]
  distinct room := by simp [socketsIn, Fields.get?, names]

theorem connect {r : Rooms} (h : Coherent r) (socket : Socket) (room : String)
    (user : Option String) (now : Stamp) : Coherent (r.connect socket room user now).1 where
  sameNames other := by
    rw [presencesIn_connect, socketsIn_connect]
    split
    · exact Fields.names_put_congr (h.sameNames room) _ _ _
    · exact h.sameNames other
  subscribed other name := by
    rw [roomsOf_connect, socketsIn_connect]
    by_cases hname : name = userOf socket user <;> by_cases hroom : other = room
    · simp [hname, hroom, mem_addOnce, Fields.mem_names_put]
    · simp [hname, hroom, mem_addOnce, h.subscribed]
    · simp [hname, hroom, Fields.mem_names_put, h.subscribed]
    · simp [hname, hroom, h.subscribed]
  busy entry hentry := by
    rcases Fields.mem_put hentry with rfl | hold
    · intro hnil
      have hmem : room ∈ addOnce (r.roomsOf (userOf socket user)) room :=
        (mem_addOnce _ _ _).mpr (Or.inl rfl)
      simp only at hnil
      rw [hnil] at hmem
      exact List.not_mem_nil hmem
    · exact h.busy entry hold
  named other := by
    rw [socketsIn_connect]
    split
    · rw [Fields.mem_names_put]
      rintro (hempty | hmem)
      · exact userOf_ne_empty socket user hempty.symm
      · exact h.named room hmem
    · exact h.named other
  distinct other := by
    rw [socketsIn_connect]
    split
    · exact Fields.nodup_names_put (h.distinct room) _ _
    · exact h.distinct other

theorem leave {r : Rooms} (h : Coherent r) (room user : String) : Coherent (r.leave room user) where
  sameNames other := by
    rw [presencesIn_leave, socketsIn_leave]
    split
    · rw [Fields.names_erase, Fields.names_erase, h.sameNames]
    · exact h.sameNames other
  subscribed other name := by
    rw [roomsOf_leave, socketsIn_leave]
    by_cases hname : name = user <;> by_cases hroom : other = room
    · simp [hname, hroom, Fields.names_erase]
    · simp [hname, hroom, h.subscribed]
    · simp [hname, hroom, Fields.names_erase, h.subscribed]
    · simp [hname, hroom, h.subscribed]
  busy := ne_nil_of_mem_subscriptions_leave r room user h.busy
  named other hmem :=
    h.named other ((((Within.refl r).leave room user).sockets other).map Prod.fst |>.subset hmem)
  distinct other :=
    ((((Within.refl r).leave room user).sockets other).map Prod.fst).nodup (h.distinct other)

/-- A change that neither brings nor takes anybody keeps the registers coherent. -/
theorem congr {before after : Rooms} (h : Coherent before)
    (hsockets : ∀ room, after.socketsIn room = before.socketsIn room)
    (hpresences : ∀ room, names (after.presencesIn room) = names (before.presencesIn room))
    (hsubscriptions : after.subscriptions = before.subscriptions) : Coherent after where
  sameNames room := by rw [hpresences, hsockets, h.sameNames]
  subscribed room user := by
    rw [roomsOf, hsubscriptions, hsockets]
    exact h.subscribed room user
  busy := by rw [hsubscriptions]; exact h.busy
  named room := by rw [hsockets]; exact h.named room
  distinct room := by rw [hsockets]; exact h.distinct room

theorem lookInto {r : Rooms} (h : Coherent r) (room : String) : Coherent (r.lookInto room) :=
  h.congr (socketsIn_lookInto r room) (fun other => by rw [presencesIn_lookInto])
    (subscriptions_lookInto r room)

theorem disconnect {r : Rooms} (h : Coherent r) (socket : Socket) (room : String)
    (user : Option String) : Coherent (r.disconnect socket room user) :=
  disconnect_preserves (fun _ room user h => h.leave room user) (fun _ room h => h.lookInto room)
    h socket room user

theorem broadcast {r : Rooms} (h : Coherent r) (refuses : Refusals) (room text : String)
    (except : List Socket) (exceptUsers : List String) :
    Coherent (r.broadcast refuses room text except exceptUsers).1 :=
  broadcast_preserves (fun _ room user h => h.leave room user) (fun _ room h => h.lookInto room)
    h refuses room text except exceptUsers

theorem changePresence {r : Rooms} (h : Coherent r) (room : String) (user : Option String)
    (f : Presence → Presence) : Coherent (r.changePresence room user f) :=
  h.congr (socketsIn_changePresence r room user f) (names_presencesIn_changePresence r room user f)
    (subscriptions_changePresence r room user f)

/-- In coherent registers a socket is looked up under every name it stands under. -/
theorem get?_socketsIn_eq_some_iff {r : Rooms} (h : Coherent r) (room name : String)
    (socket : Socket) :
    Fields.get? (r.socketsIn room) name = some socket ↔ (name, socket) ∈ r.socketsIn room :=
  Fields.get?_eq_some_iff_mem (h.distinct room) name socket

theorem get?_presencesIn_eq_some_iff {r : Rooms} (h : Coherent r) (room name : String)
    (p : Presence) :
    Fields.get? (r.presencesIn room) name = some p ↔ (name, p) ∈ r.presencesIn room := by
  refine Fields.get?_eq_some_iff_mem ?_ name p
  rw [h.sameNames room]
  exact h.distinct room

end Coherent

end Scriptorium.Rooms

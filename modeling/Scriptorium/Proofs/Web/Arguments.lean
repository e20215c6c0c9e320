import Scriptorium.Proofs.Forms
import Scriptorium.Proofs.Web.Serving
set_option autoImplicit false

/-!
# The arguments of calls

An endpoint receives one argument for each parameter of its path and its query, under its name and
of its shape, and then what was read from the content.  Content that is needed as a form arrives as
a record that fits the form.
-/

namespace Scriptorium.Web

open Schema

/-! ## Joining what was read -/

theorem join_cons {read : Read Taken} {rest : List (Read Taken)} {taken : Taken}
    (h : join (read :: rest) = .ok taken) :
    ∃ a b, read = .ok a ∧ join rest = .ok b ∧
      taken = ⟨a.args ++ b.args, a.given ++ b.given, a.files ++ b.files⟩ := by
  cases read with
  | error findings =>
      cases hrest : join rest <;> simp [join, hrest] at h
  | ok a =>
      cases hrest : join rest with
      | error findings => simp [join, hrest] at h
      | ok b =>
          simp only [join, hrest, Except.ok.injEq] at h
          exact ⟨a, b, rfl, rfl, h.symm⟩

theorem join_append {first second : List (Read Taken)} {taken : Taken}
    (h : join (first ++ second) = .ok taken) :
    ∃ a b, join first = .ok a ∧ join second = .ok b ∧
      taken = ⟨a.args ++ b.args, a.given ++ b.given, a.files ++ b.files⟩ := by
  induction first generalizing taken with
  | nil => exact ⟨{}, taken, rfl, h, rfl⟩
  | cons read rest ih =>
      obtain ⟨head, later, rfl, hrest, rfl⟩ := join_cons h
      obtain ⟨a, b, ha, hb, rfl⟩ := ih hrest
      refine ⟨⟨head.args ++ a.args, head.given ++ a.given, head.files ++ a.files⟩, b, ?_, hb, ?_⟩
      · simp only [join, ha]
      · simp only [List.append_assoc]

/-- One argument from each parameter that is given as a text. -/
theorem join_texts {read : Slot FormName → Read (String × Value)}
    (hname : ∀ slot entry, read slot = .ok entry → entry.1 = slot.name)
    {slots : List (Slot FormName)} {taken : Taken}
    (h : join (slots.map fun slot => do return { args := [← read slot] }) = .ok taken) :
    taken.given = [] ∧ Fields.names taken.args = slots.map (·.name) ∧
      ∀ pair ∈ slots.zip taken.args, read pair.1 = .ok pair.2 := by
  induction slots generalizing taken with
  | nil =>
      obtain rfl := Except.ok.inj h
      simp [Fields.names]
  | cons slot rest ih =>
      obtain ⟨head, later, hhead, hlater, rfl⟩ := join_cons h
      obtain ⟨hgiven, hnames, hreads⟩ := ih hlater
      cases hread : read slot with
      | error findings => simp [hread, bind, Except.bind] at hhead
      | ok entry =>
          simp only [hread, bind, Except.bind, pure, Except.pure] at hhead
          obtain rfl := Except.ok.inj hhead
          refine ⟨hgiven, ?_, ?_⟩
          · simp only [Fields.names] at hnames
            simp [Fields.names, hname slot entry hread, hnames]
          · intro pair hpair
            rcases List.mem_cons.mp hpair with rfl | hrest
            · exact hread
            · exact hreads pair hrest

/-! ## Parameters given as texts -/

theorem readText_name [Halves] {now : Stamp} {source : String} {slot : Slot FormName}
    {given : Option String} {entry : String × Value}
    (h : readText now source slot given = .ok entry) : entry.1 = slot.name := by
  unfold readText at h
  simp only [bind, Except.bind, pure, Except.pure] at h
  split at h
  · split at h
    · cases h
    · rw [← Except.ok.inj h]
  · split at h
    · cases h
    · rw [← Except.ok.inj h]

theorem fits_checkOne [Halves] {now : Stamp} {shape : Shape FormName} {place : List Value}
    {v w : Value} (h : checkOne now shape place v = .ok w) : Fits Forms.form shape w := by
  unfold checkOne at h
  cases hcheck : checkAt Forms.form now shape place v 0 with
  | error findings => simp [hcheck, Functor.map, Except.map] at h
  | ok result =>
      simp only [hcheck, Functor.map, Except.map] at h
      obtain rfl := Except.ok.inj h
      exact fits_of_checkAt Forms.defaultsFit hcheck

/-- A parameter that has to be given fits its shape. -/
theorem fits_readText [Halves] {now : Stamp} {source : String} {slot : Slot FormName}
    {given : Option String} {entry : String × Value} (hrequired : slot.fallback = .required)
    (h : readText now source slot given = .ok entry) : Fits Forms.form slot.shape entry.2 := by
  unfold readText at h
  simp only [bind, Except.bind, pure, Except.pure] at h
  split at h
  · split at h
    · cases h
    · rename_i v hchecked
      rw [← Except.ok.inj h]
      exact fits_checkOne hchecked
  · split at h
    · cases h
    · rename_i v habsent
      simp [absent, hrequired, Fallback.fill] at habsent

/-! ## Calls -/

section Call

variable {endpoint : Endpoint} {captured : List (String × String)} {around : Surroundings}
  {request : Request} {world : World} {call : Call}

/-- The arguments are those of the parameters in their order, and then those of the content. -/
theorem Endpoint.args_of_call [Halves]
    (h : endpoint.call? captured around request world = some call) :
    ∃ texts content payload, call.args = texts ++ content.args ∧ call.given = content.given ∧
      readContent around.now endpoint.body payload = .ok content ∧
      Fields.names texts = (endpoint.path ++ endpoint.query).map (·.name) ∧
      ∀ pair ∈ (endpoint.path ++ endpoint.query).zip texts, ∃ source given,
        readText around.now source pair.1 given = .ok pair.2 := by
  obtain ⟨payload, taken, -, hread, hcall⟩ := Endpoint.of_call?_eq_some h
  unfold readParams at hread
  obtain ⟨texts, content, htexts, hcontent, rfl⟩ := join_append hread
  obtain ⟨first, second, hfirst, hsecond, rfl⟩ := join_append htexts
  rw [join_singleton] at hcontent
  obtain ⟨hgivenFirst, hnamesFirst, hreadsFirst⟩ := join_texts (fun _ _ => readText_name) hfirst
  obtain ⟨hgivenSecond, hnamesSecond, hreadsSecond⟩ :=
    join_texts (fun _ _ => readText_name) hsecond
  refine ⟨first.args ++ second.args, content, payload, ?_, ?_, hcontent, ?_, ?_⟩
  · rw [hcall]
  · rw [hcall]
    simp [hgivenFirst, hgivenSecond]
  · simp only [Fields.names] at hnamesFirst hnamesSecond ⊢
    rw [List.map_append, List.map_append, hnamesFirst, hnamesSecond]
  · intro pair hpair
    have hlength : endpoint.path.length = first.args.length := by
      simpa [Fields.names] using (congrArg List.length hnamesFirst).symm
    rw [List.zip_append hlength] at hpair
    rcases List.mem_append.mp hpair with hin | hin
    · exact ⟨"path", _, hreadsFirst pair hin⟩
    · exact ⟨"query", _, hreadsSecond pair hin⟩

/-- The argument of a parameter that has to be given fits its shape. -/
theorem Endpoint.fits_arg [Halves] (h : endpoint.call? captured around request world = some call)
    (hnodup : ((endpoint.path ++ endpoint.query).map (·.name)).Nodup) (slot : Slot FormName)
    (hslot : slot ∈ endpoint.path ++ endpoint.query) (hrequired : slot.fallback = .required) :
    Fits Forms.form slot.shape (call.arg slot.name) := by
  obtain ⟨texts, content, payload, hargs, -, -, hnames, hreads⟩ := Endpoint.args_of_call h
  have hpair : (slot, slot.name, (Fields.get? texts slot.name).getD .null) ∈
      (endpoint.path ++ endpoint.query).zip texts := by
    rw [zip_eq_map hnames hnodup]
    exact List.mem_map.mpr ⟨slot, hslot, rfl⟩
  obtain ⟨v, hget⟩ : ∃ v, Fields.get? texts slot.name = some v := by
    rw [← Fields.mem_names_iff, hnames]
    exact List.mem_map.mpr ⟨slot, hslot, rfl⟩
  have harg : call.arg slot.name = v := by
    rw [Call.arg, hargs, Fields.get?_append, hget]
    rfl
  obtain ⟨source, given, hread⟩ := hreads _ hpair
  have hfits := fits_readText hrequired hread
  rwa [hget, Option.getD_some, ← harg] at hfits

/-- Content that is needed as a form arrives as a record that fits the form. -/
theorem Endpoint.fits_body [Halves] (h : endpoint.call? captured around request world = some call)
    {name : String} {form : FormName} (hbody : endpoint.body = .whole name (.form form) true)
    (hname : name ∉ (endpoint.path ++ endpoint.query).map (·.name)) :
    Fits Forms.form (.form form) (.record (call.record name)) := by
  obtain ⟨texts, content, payload, hargs, -, hcontent, hnames, -⟩ := Endpoint.args_of_call h
  have hother : Fields.get? texts name = none := by
    rw [Fields.get?_eq_none_iff, hnames]
    exact hname
  rw [hbody] at hcontent
  simp only [readContent, if_true] at hcontent
  split at hcontent
  · cases hcontent
  · cases hcontent
  · cases hcontent
  · cases hcontent
  · rename_i v _
    cases hcheck : checkOne around.now (.form form) [.text "body"] v with
    | error findings => simp [hcheck, bind, Except.bind] at hcontent
    | ok w =>
        simp only [hcheck, bind, Except.bind, pure, Except.pure] at hcontent
        obtain rfl := Except.ok.inj hcontent
        have hfits := fits_checkOne hcheck
        have harg : call.arg name = w := by
          rw [Call.arg, hargs, Fields.get?_append, hother]
          simp [Fields.get?]
        obtain ⟨fields, rfl, -⟩ := names_of_checkOne_form hcheck
        rw [Call.record, harg]
        exact hfits

/-- What the content gave of a form are fields of the form, each at most once. -/
theorem Endpoint.names_changes_sublist [Halves]
    (h : endpoint.call? captured around request world = some call) {name : String}
    {form : FormName} (hbody : endpoint.body = .whole name (.form form) true)
    (hname : name ∉ (endpoint.path ++ endpoint.query).map (·.name)) :
    (Fields.names (call.changes name)).Sublist ((Forms.form form).fields.map (·.name)) := by
  obtain ⟨fields, hrecord, hnames⟩ := (Endpoint.fits_body h hbody hname).eq_record
  obtain rfl := Value.record.inj hrecord
  rw [← hnames]
  exact List.Sublist.map _ List.filter_sublist

/-- What the content gave of a form is what the fields of the form take. -/
theorem Endpoint.takes_changes [Halves]
    (h : endpoint.call? captured around request world = some call)
    {name : String} {form : FormName} (hbody : endpoint.body = .whole name (.form form) true)
    (hname : name ∉ (endpoint.path ++ endpoint.query).map (·.name))
    (hnodup : ((Forms.form form).fields.map (·.name)).Nodup) {slot : Slot FormName}
    (hslot : slot ∈ (Forms.form form).fields) {v : Value}
    (hgiven : Fields.get? (call.changes name) slot.name = some v) : slot.Takes Forms.form v := by
  obtain ⟨hnames, htakes⟩ := (fits_record_iff hnodup _).mp (Endpoint.fits_body h hbody hname)
  have hmem : (slot.name, v) ∈ call.record name :=
    (List.mem_filter.mp (Fields.mem_of_get?_eq_some hgiven)).1
  have hvalue : Fields.get? (call.record name) slot.name = some v := by
    rw [Fields.get?_eq_some_iff_mem (by rw [hnames]; exact hnodup)]
    exact hmem
  have hslotTakes := htakes slot hslot
  rw [hvalue] at hslotTakes
  exact hslotTakes

end Call

end Scriptorium.Web

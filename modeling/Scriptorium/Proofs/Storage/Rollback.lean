import Scriptorium.Storage.Plan
set_option autoImplicit false

/-!
# Taking the plan back

A script of creations can be taken back by the commands that undo it, last one first, and passes the
same catalogs on its way back.  It does beside any other tables and indexes what it does in an empty
database, if none of them has a name that it needs.  So what is found out about the plan in an empty
database holds in every one that has room for it: each step succeeds, no index and no foreign key is
ever left without its table, and the way back ends where the way there began.
-/

namespace Scriptorium.Storage

theorem isCalled_iff (given name : String) :
    isCalled given name = true ↔ caseless given = caseless name := by
  rw [isCalled, beq_iff_eq]

theorem isCalled_self (name : String) : isCalled name name = true :=
  (isCalled_iff name name).mpr rfl

namespace Command

/-- The command that takes back what a creation did; a drop cannot be taken back. -/
def undo : Command → Command
  | createTable form => dropTable form.name
  | createIndex index => dropIndex index.name index.table
  | other => other

/-- The name of what a command creates. -/
def created? : Command → Option String
  | createTable form => some form.name
  | createIndex index => some index.name
  | _ => none

end Command

namespace Catalog

/-- Whether neither a table nor an index has a name. -/
def isFree (c : Catalog) (name : String) : Bool := !(c.hasTable name || c.hasIndex name)

theorem isFree_iff (c : Catalog) (name : String) :
    c.isFree name = true ↔ c.hasTable name = false ∧ c.hasIndex name = false := by
  rw [isFree, Bool.not_eq_true', Bool.or_eq_false_iff]

/-- Every index belongs to a table that is there. -/
def IndexesBelong (c : Catalog) : Prop := ∀ index ∈ c.indexes, c.hasTable index.table = true

/-- Every foreign key refers to a table that is there. -/
def KeysRefer (c : Catalog) : Prop :=
  ∀ form ∈ c.tables, ∀ key ∈ form.foreignKeys, c.hasTable key.table = true

instance (c : Catalog) : Decidable c.IndexesBelong :=
  inferInstanceAs (Decidable (∀ index ∈ c.indexes, c.hasTable index.table = true))

instance (c : Catalog) : Decidable c.KeysRefer :=
  inferInstanceAs (Decidable
    (∀ form ∈ c.tables, ∀ key ∈ form.foreignKeys, c.hasTable key.table = true))

/-! ## What a creation does -/

section Creation

variable {c d : Catalog}

theorem step_createTable_eq_ok_iff {form : TableForm} :
    c.step (.createTable form) = .ok d ↔
      c.isFree form.name = true ∧ d = { c with tables := c.tables ++ [form] } := by
  rw [step, isFree]
  cases c.hasTable form.name || c.hasIndex form.name <;> simp [eq_comm]

theorem step_createIndex_eq_ok_iff {index : Index} :
    c.step (.createIndex index) = .ok d ↔
      c.isFree index.name = true ∧ c.hasTable index.table = true ∧
        d = { c with indexes := c.indexes ++ [index] } := by
  rw [step, isFree, Bool.or_comm (c.hasIndex index.name)]
  cases c.hasTable index.name || c.hasIndex index.name <;> cases c.hasTable index.table <;>
    simp [eq_comm]

/-- A creation adds one table with a free name, or one index with a free name to a table. -/
theorem creation_cases {command : Command} {name : String}
    (hcreates : command.created? = some name) (h : c.step command = .ok d) :
    c.isFree name = true ∧
      ((∃ form, command = .createTable form ∧ form.name = name ∧
          d = { c with tables := c.tables ++ [form] }) ∨
        ∃ index, command = .createIndex index ∧ index.name = name ∧
          c.hasTable index.table = true ∧ d = { c with indexes := c.indexes ++ [index] }) := by
  cases command with
  | createTable form =>
      obtain rfl := Option.some.inj hcreates
      obtain ⟨hfree, hd⟩ := step_createTable_eq_ok_iff.mp h
      exact ⟨hfree, .inl ⟨form, rfl, rfl, hd⟩⟩
  | createIndex index =>
      obtain rfl := Option.some.inj hcreates
      obtain ⟨hfree, htable, hd⟩ := step_createIndex_eq_ok_iff.mp h
      exact ⟨hfree, .inr ⟨index, rfl, rfl, htable, hd⟩⟩
  | dropIndex | dropTable => cases hcreates

/-- Dropping what is called by a name drops the last of some items, if no other is called so. -/
theorem filter_not_called {α : Type} {items : List α} {last : α} {called : α → Bool}
    (hothers : items.any called = false) (hlast : called last = true) :
    (items ++ [last]).filter (fun item => !called item) = items := by
  have hkept : ∀ item ∈ items, (!called item) = true := by
    intro item hitem
    rw [Bool.not_eq_true', Bool.eq_false_iff]
    exact fun hcalled => Bool.eq_false_iff.mp hothers (List.any_eq_true.mpr ⟨item, hitem, hcalled⟩)
  rw [List.filter_append, List.filter_eq_self.mpr hkept, List.filter_cons_of_neg (by simp [hlast]),
    List.filter_nil, List.append_nil]

/-- A creation can be taken back. -/
theorem step_undo {command : Command} {name : String} (hbelong : c.IndexesBelong)
    (hcreates : command.created? = some name) (h : c.step command = .ok d) :
    d.step command.undo = .ok c := by
  obtain ⟨hfree, ⟨form, rfl, rfl, rfl⟩ | ⟨index, rfl, rfl, -, rfl⟩⟩ := creation_cases hcreates h
  · obtain ⟨htable, -⟩ := (isFree_iff _ _).mp hfree
    -- no index is dropped with the table, since each has a table with another name
    have hindexes : c.indexes.filter (fun index => !isCalled form.name index.table) =
        c.indexes := by
      rw [List.filter_eq_self]
      intro index hindex
      obtain ⟨other, hother, hcalled⟩ := List.any_eq_true.mp (hbelong index hindex)
      rw [Bool.not_eq_true', Bool.eq_false_iff]
      intro hsame
      refine Bool.eq_false_iff.mp htable (List.any_eq_true.mpr ⟨other, hother, ?_⟩)
      rw [isCalled_iff] at hcalled hsame ⊢
      exact hsame.trans hcalled
    have hthere : hasTable { c with tables := c.tables ++ [form] } form.name = true := by
      simp [hasTable, isCalled_self]
    simp only [Command.undo, step, hthere, if_true, hindexes,
      filter_not_called htable (isCalled_self form.name)]
  · obtain ⟨-, hindex⟩ := (isFree_iff _ _).mp hfree
    have hthere : hasIndex { c with indexes := c.indexes ++ [index] } index.name = true := by
      simp [hasIndex, isCalled_self]
    simp only [Command.undo, step, hthere, if_true,
      filter_not_called hindex (isCalled_self index.name)]

/-- A creation leaves no index without a table. -/
theorem IndexesBelong.step {command : Command} {name : String} (hbelong : c.IndexesBelong)
    (hcreates : command.created? = some name) (h : c.step command = .ok d) : d.IndexesBelong := by
  obtain ⟨-, ⟨form, rfl, -, rfl⟩ | ⟨index, rfl, -, htable, rfl⟩⟩ := creation_cases hcreates h
  · intro index hindex
    have hthere := hbelong index hindex
    simp only [hasTable, List.any_append, Bool.or_eq_true] at hthere ⊢
    exact .inl hthere
  · intro other hother
    rcases List.mem_append.mp hother with hold | hnew
    · exact hbelong other hold
    · obtain rfl := List.mem_singleton.mp hnew
      exact htable

/-- A name that is free after a creation was free before. -/
theorem isFree_of_step {command : Command} {name other : String}
    (hcreates : command.created? = some name) (h : c.step command = .ok d)
    (hfree : d.isFree other = true) : c.isFree other = true := by
  rw [isFree_iff] at hfree ⊢
  obtain ⟨-, ⟨form, rfl, -, rfl⟩ | ⟨index, rfl, -, -, rfl⟩⟩ := creation_cases hcreates h
  · simp only [hasTable, List.any_append, Bool.or_eq_false_iff] at hfree
    exact ⟨hfree.1.1, hfree.2⟩
  · simp only [hasIndex, List.any_append, Bool.or_eq_false_iff] at hfree
    exact ⟨hfree.1, hfree.2.1⟩

end Creation

/-! ## Scripts -/

/-- A script of creations. -/
def Creates (commands : List Command) : Prop :=
  ∀ command ∈ commands, ∃ name, command.created? = some name

/-- All commands succeed, and the last one leaves this catalog. -/
def Passes (c : Catalog) (commands : List Command) (last : Catalog) : Prop :=
  c.run commands = (commands, last, none)

section Passes

variable {c last : Catalog}

theorem passes_cons_iff {command : Command} {rest : List Command} :
    c.Passes (command :: rest) last ↔
      ∃ next, c.step command = .ok next ∧ next.Passes rest last := by
  rw [Passes, run]
  cases c.step command with
  | error flaw => simp
  | ok next => simp [Passes, Prod.ext_iff]

theorem passes_append_iff {front back : List Command} :
    c.Passes (front ++ back) last ↔ ∃ mid, c.Passes front mid ∧ mid.Passes back last := by
  induction front generalizing c with
  | nil => simp [Passes, run]
  | cons command rest ih =>
      simp only [List.cons_append, passes_cons_iff, ih]
      constructor
      · rintro ⟨next, hstep, mid, hfront, hback⟩
        exact ⟨mid, ⟨next, hstep, hfront⟩, hback⟩
      · rintro ⟨mid, ⟨next, hstep, hfront⟩, hback⟩
        exact ⟨next, hstep, mid, hfront, hback⟩

theorem Passes.unique {commands : List Command} {other : Catalog} (h : c.Passes commands last)
    (hother : c.Passes commands other) : last = other := by
  have hsame : (commands, last, (none : Option Flaw)) = (commands, other, none) :=
    h.symm.trans hother
  simpa using hsame

theorem passes_singleton {command : Command} (h : c.step command = .ok last) :
    c.Passes [command] last := by
  rw [passes_cons_iff]
  exact ⟨last, h, rfl⟩

/-- A script of creations is taken back by its commands undone in reverse. -/
theorem passes_undo {commands : List Command} (hbelong : c.IndexesBelong)
    (hcreates : Creates commands) (h : c.Passes commands last) :
    last.Passes (commands.reverse.map Command.undo) c := by
  induction commands generalizing c with
  | nil =>
      obtain rfl : c = last := by simpa [Passes, run] using h
      rfl
  | cons command rest ih =>
      obtain ⟨next, hstep, hrest⟩ := passes_cons_iff.mp h
      obtain ⟨⟨name, hname⟩, hlater⟩ := List.forall_mem_cons.mp hcreates
      have hback := ih (hbelong.step hname hstep) hlater hrest
      rw [List.reverse_cons, List.map_append, passes_append_iff]
      exact ⟨next, hback, passes_singleton (step_undo hbelong hname hstep)⟩

/-- A script that passes finds its names free. -/
theorem isFree_of_passes {commands : List Command} (hcreates : Creates commands)
    (h : c.Passes commands last) :
    ∀ command ∈ commands, ∀ name, command.created? = some name → c.isFree name = true := by
  induction commands generalizing c with
  | nil => simp
  | cons first rest ih =>
      obtain ⟨next, hstep, hrest⟩ := passes_cons_iff.mp h
      obtain ⟨⟨taken, htaken⟩, hlater⟩ := List.forall_mem_cons.mp hcreates
      intro command hcommand name hname
      rcases List.mem_cons.mp hcommand with rfl | hmem
      · exact (creation_cases hname hstep).1
      · exact isFree_of_step htaken hstep (ih hlater hrest command hmem name hname)

end Passes

/-! ## Beside other tables and indexes -/

/-- A catalog with the tables and indexes of another one behind its own. -/
def beside (s c : Catalog) : Catalog := ⟨s.tables ++ c.tables, s.indexes ++ c.indexes⟩

section Beside

variable {s c d : Catalog}

theorem hasTable_beside (name : String) :
    (s.beside c).hasTable name = (s.hasTable name || c.hasTable name) :=
  List.any_append

variable (s) in
theorem beside_empty : s.beside {} = s := by
  simp [beside]

theorem isFree_beside {name : String} (hs : s.isFree name = true) (hc : c.isFree name = true) :
    (s.beside c).isFree name = true := by
  rw [isFree_iff] at hs hc ⊢
  simp only [hasTable, hasIndex, beside, List.any_append, Bool.or_eq_false_iff] at hs hc ⊢
  exact ⟨⟨hs.1, hc.1⟩, ⟨hs.2, hc.2⟩⟩

theorem IndexesBelong.beside (hs : s.IndexesBelong) (hc : c.IndexesBelong) :
    (s.beside c).IndexesBelong := by
  intro index hindex
  rw [hasTable_beside, Bool.or_eq_true]
  exact (List.mem_append.mp hindex).imp (hs index) (hc index)

theorem KeysRefer.beside (hs : s.KeysRefer) (hc : c.KeysRefer) : (s.beside c).KeysRefer := by
  intro form hform key hkey
  rw [hasTable_beside, Bool.or_eq_true]
  exact (List.mem_append.mp hform).imp (hs form · key hkey) (hc form · key hkey)

/-- A creation does the same beside objects with other names. -/
theorem step_beside {command : Command} {name : String} (hcreates : command.created? = some name)
    (hfree : s.isFree name = true) (h : c.step command = .ok d) :
    (s.beside c).step command = .ok (s.beside d) := by
  obtain ⟨hc, ⟨form, rfl, rfl, rfl⟩ | ⟨index, rfl, rfl, htable, rfl⟩⟩ := creation_cases hcreates h
  · rw [step_createTable_eq_ok_iff]
    refine ⟨isFree_beside hfree hc, ?_⟩
    simp only [beside, List.append_assoc]
  · rw [step_createIndex_eq_ok_iff]
    refine ⟨isFree_beside hfree hc, ?_, ?_⟩
    · rw [hasTable_beside, htable, Bool.or_true]
    · simp only [beside, List.append_assoc]

/-- So does a script of creations. -/
theorem passes_beside {commands : List Command} (hcreates : Creates commands)
    (hfree : ∀ command ∈ commands, ∀ name, command.created? = some name → s.isFree name = true)
    (h : c.Passes commands d) : (s.beside c).Passes commands (s.beside d) := by
  induction commands generalizing c with
  | nil =>
      obtain rfl : c = d := by simpa [Passes, run] using h
      rfl
  | cons command rest ih =>
      obtain ⟨next, hstep, hrest⟩ := passes_cons_iff.mp h
      obtain ⟨⟨name, hname⟩, hlater⟩ := List.forall_mem_cons.mp hcreates
      obtain ⟨hfirst, hothers⟩ := List.forall_mem_cons.mp hfree
      rw [passes_cons_iff]
      exact ⟨s.beside next, step_beside hname (hfirst name hname) hstep, ih hlater hothers hrest⟩

end Beside

/-! ## The plan -/

/-- The catalog of the plan alone. -/
def ofPlan : Catalog := ⟨plan.map (·.form), plan.flatMap (·.indexes)⟩

/-- Nothing has the name of a planned table or index. -/
def Lacks (c : Catalog) (plan : List Planned) : Prop :=
  ∀ p ∈ plan, c.isFree p.form.name = true ∧ ∀ index ∈ p.indexes, c.isFree index.name = true

instance (c : Catalog) (plan : List Planned) : Decidable (c.Lacks plan) :=
  inferInstanceAs (Decidable (∀ p ∈ plan, c.isFree p.form.name = true ∧
    ∀ index ∈ p.indexes, c.isFree index.name = true))

theorem creates_upgrade : Creates upgrade := by
  intro command hcommand
  obtain ⟨p, -, hcreation⟩ := List.mem_flatMap.mp hcommand
  rcases List.mem_cons.mp hcreation with rfl | hindex
  · exact ⟨p.form.name, rfl⟩
  · obtain ⟨index, -, rfl⟩ := List.mem_map.mp hindex
    exact ⟨index.name, rfl⟩

/-- The names that the plan needs are those that its creations take. -/
theorem lacks_plan_iff (c : Catalog) :
    c.Lacks plan ↔
      ∀ command ∈ upgrade, ∀ name, command.created? = some name → c.isFree name = true := by
  simp only [Lacks, upgrade, List.mem_flatMap, Planned.creation, List.mem_cons, List.mem_map]
  constructor
  · rintro h command ⟨p, hp, rfl | ⟨index, hindex, rfl⟩⟩ name hname
    · exact Option.some.inj hname ▸ (h p hp).1
    · exact Option.some.inj hname ▸ (h p hp).2 index hindex
  · intro h p hp
    refine ⟨h _ ⟨p, hp, .inl rfl⟩ _ rfl, ?_⟩
    intro index hindex
    exact h _ ⟨p, hp, .inr ⟨index, hindex, rfl⟩⟩ _ rfl

/-- The commands that take the plan back are those that make it, undone in reverse. -/
theorem downgrade_eq_undo : downgrade = upgrade.reverse.map Command.undo := by
  decide +kernel

/-- In an empty database every stage of the plan is reached, and nothing refers to a table that is
not there. -/
theorem stage_of_empty (n : Nat) :
    ∃ stage, ({} : Catalog).Passes (upgrade.take n) stage ∧ stage.IndexesBelong ∧
      stage.KeysRefer := by
  have hstages : ∀ n < upgrade.length + 1,
      ({} : Catalog).run (upgrade.take n) =
          (upgrade.take n, (({} : Catalog).run (upgrade.take n)).2.1, none) ∧
        (({} : Catalog).run (upgrade.take n)).2.1.IndexesBelong ∧
        (({} : Catalog).run (upgrade.take n)).2.1.KeysRefer := by
    decide +kernel
  have hmin : upgrade.take n = upgrade.take (min n upgrade.length) := by
    rw [List.take_eq_take_min]
  rw [hmin]
  exact ⟨_, hstages _ (Nat.lt_succ_of_le (Nat.min_le_right _ _))⟩

/-- Every stage of the plan is reached beside other objects too. -/
theorem stage_of_lacks {s : Catalog} (hbelong : s.IndexesBelong) (hlacks : s.Lacks plan) (n : Nat) :
    ∃ stage, s.Passes (upgrade.take n) stage ∧ stage.IndexesBelong ∧
      (s.KeysRefer → stage.KeysRefer) := by
  obtain ⟨stage, hpasses, hindexes, hkeys⟩ := stage_of_empty n
  have hpassed := passes_beside (s := s)
    (fun command hcommand => creates_upgrade command (List.mem_of_mem_take hcommand))
    (fun command hcommand => (lacks_plan_iff s).mp hlacks command (List.mem_of_mem_take hcommand))
    hpasses
  rw [beside_empty] at hpassed
  exact ⟨s.beside stage, hpassed, hbelong.beside hindexes, fun hs => hs.beside hkeys⟩

theorem passes_upgrade {s : Catalog} (hlacks : s.Lacks plan) :
    s.Passes upgrade (s.beside ofPlan) := by
  have hplan : ({} : Catalog).Passes upgrade ofPlan := by
    rw [Passes]
    decide +kernel
  have hpassed := passes_beside creates_upgrade ((lacks_plan_iff s).mp hlacks) hplan
  rwa [beside_empty] at hpassed

/-- On the way back each stage is one of the way there. -/
theorem stage_of_downgrade {s : Catalog} (hbelong : s.IndexesBelong) (hlacks : s.Lacks plan)
    (n : Nat) :
    ∃ stage, (s.beside ofPlan).Passes (downgrade.take n) stage ∧
      s.Passes (upgrade.take (upgrade.length - n)) stage := by
  have hthere := passes_upgrade hlacks
  rw [← List.take_append_drop (upgrade.length - n) upgrade, passes_append_iff] at hthere
  obtain ⟨stage, hfront, hback⟩ := hthere
  obtain ⟨_, hpasses, hindexes, -⟩ := stage_of_lacks hbelong hlacks (upgrade.length - n)
  obtain rfl := hpasses.unique hfront
  refine ⟨_, ?_, hfront⟩
  rw [downgrade_eq_undo, ← List.map_take, List.take_reverse]
  exact passes_undo hindexes
    (fun command hcommand => creates_upgrade command (List.mem_of_mem_drop hcommand)) hback

end Catalog

open Catalog

/-- For every catalog whose indexes belong to its tables: the plan can be carried out just if
nothing has a name that it needs.  Then it adds its tables and indexes behind all others, and taking
it back gives the catalog as it was.  No command of the two scripts fails, and after each of them
every index belongs to a table that is there, and every foreign key refers to one, if that was so
before. -/
theorem plan_taken_back_exactly (s : Catalog) (hbelong : s.IndexesBelong) :
    ((∃ top, s.run upgrade = (upgrade, top, none)) ↔ s.Lacks plan) ∧
    (s.Lacks plan →
      let top : Catalog := ⟨s.tables ++ plan.map (·.form), s.indexes ++ plan.flatMap (·.indexes)⟩
      s.run upgrade = (upgrade, top, none) ∧
      top.run downgrade = (downgrade, s, none) ∧
      (∀ n, ∃ stage, s.run (upgrade.take n) = (upgrade.take n, stage, none) ∧
        stage.IndexesBelong ∧ (s.KeysRefer → stage.KeysRefer)) ∧
      ∀ n, ∃ stage, top.run (downgrade.take n) = (downgrade.take n, stage, none) ∧
        stage.IndexesBelong ∧ (s.KeysRefer → stage.KeysRefer)) := by
  constructor
  · constructor
    · rintro ⟨top, hpasses⟩
      exact (lacks_plan_iff s).mpr (isFree_of_passes creates_upgrade hpasses)
    · exact fun hlacks => ⟨_, passes_upgrade hlacks⟩
  · intro hlacks top
    have hthere : s.Passes upgrade top := passes_upgrade hlacks
    refine ⟨hthere, ?_, stage_of_lacks hbelong hlacks, ?_⟩
    · rw [downgrade_eq_undo]
      exact passes_undo hbelong creates_upgrade hthere
    · intro n
      obtain ⟨stage, hback, hfront⟩ := stage_of_downgrade hbelong hlacks n
      obtain ⟨_, hpasses, hindexes, hkeys⟩ := stage_of_lacks hbelong hlacks (upgrade.length - n)
      obtain rfl := hpasses.unique hfront
      exact ⟨_, hback, hindexes, hkeys⟩

/-- A database that holds a table of notes already, which refer to each other, with an index. -/
def notebook : Catalog where
  tables := [{ name := "notes", columns := [.ident, .reference "parent_id"]
               foreignKeys := [⟨"parent_id", "notes", "id"⟩] }]
  indexes := [identIndex "notes"]

/-- The plan is carried out beside the notes and taken back, and on the way back every reference has
its table. -/
theorem notebook_kept :
    let top : Catalog := ⟨notebook.tables ++ plan.map (·.form),
      notebook.indexes ++ plan.flatMap (·.indexes)⟩
    notebook.IndexesBelong ∧ notebook.KeysRefer ∧ notebook.Lacks plan ∧
      top.run downgrade = (downgrade, notebook, none) ∧
      ∀ n, ∃ stage, top.run (downgrade.take n) = (downgrade.take n, stage, none) ∧
        stage.IndexesBelong ∧ stage.KeysRefer := by
  intro top
  have hbelong : notebook.IndexesBelong := by decide +kernel
  have hkeys : notebook.KeysRefer := by decide +kernel
  have hlacks : notebook.Lacks plan := by decide +kernel
  obtain ⟨-, hback, -, hstages⟩ := (plan_taken_back_exactly notebook hbelong).2 hlacks
  refine ⟨hbelong, hkeys, hlacks, hback, ?_⟩
  intro n
  obtain ⟨stage, hrun, hindexes, hrefer⟩ := hstages n
  exact ⟨stage, hrun, hindexes, hrefer hkeys⟩

end Scriptorium.Storage

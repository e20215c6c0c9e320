import Scriptorium.Database
import Scriptorium.Proofs.Fields
set_option autoImplicit false

/-!
# Laws of tables

What saving and deleting a row does to its table, in terms of the place where the row stands: the
row that an operation means is the first one that a test accepts, and the rows before and behind it
stay as they are.
-/

namespace Scriptorium

namespace Row

variable {changes : Fields}

/-- After a change that names no column twice, its values stand before those that were there. -/
theorem get_merge (h : (Fields.names changes).Nodup) (row : Row) (column : String) :
    get (Fields.merge row changes) column =
      ((Fields.get? changes column).or (Fields.get? row column)).getD .null := by
  rw [get, Fields.get?_merge_of_nodup row h]

theorem get_merge_of_not_mem (row : Row) {column : String} (h : column ∉ Fields.names changes) :
    get (Fields.merge row changes) column = get row column := by
  rw [get, get, Fields.get?_merge_of_not_mem row h]

end Row

namespace Table

/-- The first row that a test accepts is changed where it stands, and taken out from there. -/
theorem split_of_find? {test : Row → Bool} {rows : Table} {row : Row}
    (h : rows.find? test = some row) :
    ∃ front rest, rows = front ++ row :: rest ∧ dropFirst test rows = front ++ rest ∧
      ∀ change, changeFirst test change rows = front ++ change row :: rest := by
  induction rows with
  | nil => simp at h
  | cons head tail ih =>
      unfold changeFirst dropFirst
      cases hhead : test head with
      | true =>
          rw [List.find?_cons_of_pos hhead] at h
          obtain rfl := Option.some.inj h
          exact ⟨[], tail, rfl, rfl, fun _ => rfl⟩
      | false =>
          rw [List.find?_cons_of_neg (by simp [hhead])] at h
          obtain ⟨front, rest, hrows, hdropped, hchanged⟩ := ih h
          simp only [Bool.false_eq_true, if_false, hdropped, hchanged]
          exact ⟨head :: front, rest, by rw [hrows]; rfl, rfl, fun _ => rfl⟩

theorem dropFirst_sublist (test : Row → Bool) (rows : Table) :
    (dropFirst test rows).Sublist rows := by
  induction rows with
  | nil => exact .slnil
  | cons head tail ih =>
      unfold dropFirst
      split
      · exact List.sublist_cons_self head tail
      · exact ih.cons_cons head

/-- Where the row is changed among rows of one sort only, the other rows are as they were. -/
theorem filter_changeFirst_of_false {test keep : Row → Bool} {change : Row → Row}
    (hrow : ∀ row, test row = true → keep row = false)
    (hchange : ∀ row, keep (change row) = keep row) (rows : Table) :
    (changeFirst test change rows).filter keep = rows.filter keep := by
  induction rows with
  | nil => rfl
  | cons head tail ih =>
      unfold changeFirst
      split
      · rename_i htest
        rw [List.filter_cons_of_neg (by simp [hchange, hrow head htest]),
          List.filter_cons_of_neg (by simp [hrow head htest])]
      · rw [List.filter_cons, List.filter_cons, ih]

/-- A change among rows of one sort is a change of the rows of this sort. -/
theorem filter_changeFirst_of_true {test keep : Row → Bool} {change : Row → Row}
    (hrow : ∀ row, test row = true → keep row = true)
    (hchange : ∀ row, keep (change row) = keep row) (rows : Table) :
    (changeFirst test change rows).filter keep = changeFirst test change (rows.filter keep) := by
  induction rows with
  | nil => rfl
  | cons head tail ih =>
      rw [changeFirst]
      split
      · rename_i htest
        rw [List.filter_cons_of_pos (by simp [hchange, hrow head htest]),
          List.filter_cons_of_pos (hrow head htest), changeFirst, if_pos htest]
      · rename_i htest
        cases hkeep : keep head with
        | true =>
            rw [List.filter_cons_of_pos hkeep, List.filter_cons_of_pos hkeep, changeFirst,
              if_neg htest, ih]
        | false =>
            rw [List.filter_cons_of_neg (by simp [hkeep]),
              List.filter_cons_of_neg (by simp [hkeep]), ih]

theorem filter_dropFirst_of_false {test keep : Row → Bool}
    (hrow : ∀ row, test row = true → keep row = false) (rows : Table) :
    (dropFirst test rows).filter keep = rows.filter keep := by
  induction rows with
  | nil => rfl
  | cons head tail ih =>
      unfold dropFirst
      split
      · rename_i htest
        rw [List.filter_cons_of_neg (by simp [hrow head htest])]
      · rw [List.filter_cons, List.filter_cons, ih]

theorem filter_dropFirst_of_true {test keep : Row → Bool}
    (hrow : ∀ row, test row = true → keep row = true) (rows : Table) :
    (dropFirst test rows).filter keep = dropFirst test (rows.filter keep) := by
  induction rows with
  | nil => rfl
  | cons head tail ih =>
      rw [dropFirst]
      split
      · rename_i htest
        rw [List.filter_cons_of_pos (hrow head htest), dropFirst, if_pos htest]
      · rename_i htest
        cases hkeep : keep head with
        | true =>
            rw [List.filter_cons_of_pos hkeep, List.filter_cons_of_pos hkeep, dropFirst,
              if_neg htest, ih]
        | false =>
            rw [List.filter_cons_of_neg (by simp [hkeep]),
              List.filter_cons_of_neg (by simp [hkeep]), ih]

end Table

namespace Database

@[simp] theorem table_note (db : Database) (deeds : List Deed) (name : String) :
    (db.note deeds).table name = db.table name := rfl

@[simp] theorem table_setTable_self (db : Database) (name : String) (rows : Table) :
    (db.setTable name rows).table name = rows := by
  simp [setTable, table, Fields.get?_put_self]

theorem table_setTable_of_ne (db : Database) {name other : String} (h : other ≠ name)
    (rows : Table) : (db.setTable name rows).table other = db.table other := by
  simp [setTable, table, Fields.get?_put_of_ne _ _ h]

theorem table_save (db : Database) (name : String) (test : Row → Bool) (change : Row → Row) :
    (db.save name test change).table name = (db.table name).changeFirst test change := by
  simp [save]

theorem table_delete (db : Database) (name : String) (test : Row → Bool) :
    (db.delete name test).table name = (db.table name).dropFirst test := by
  simp [delete]

end Database

end Scriptorium

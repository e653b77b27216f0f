import Mathlib.Data.List.Nodup

/-! # Tables with a primary key

A table is the finite list of its rows in insertion order. The primary key is
part of the structure, so a table with two rows under one key cannot be built.
Results about tables are stated through `find?`; the row list is only used by
queries that enumerate.
-/

namespace RvcOrchestrator.Foundation

structure Table (Key Row : Type) [DecidableEq Key] where
  rows : List (Key × Row)
  keysNodup : (rows.map Prod.fst).Nodup

namespace Table

variable {Key Row Image : Type} [DecidableEq Key]

/-! ## Lookup -/

def empty : Table Key Row where
  rows := []
  keysNodup := List.nodup_nil

def lookup (key : Key) : List (Key × Row) → Option Row
  | [] => none
  | head :: tail => if key = head.1 then some head.2 else lookup key tail

def find? (table : Table Key Row) (key : Key) : Option Row :=
  lookup key table.rows

@[simp] theorem find?_empty (key : Key) : (empty : Table Key Row).find? key = none := rfl

private theorem lookup_eq_some_of_mem {rows : List (Key × Row)}
    (nodup : (rows.map Prod.fst).Nodup) {key : Key} {row : Row}
    (member : (key, row) ∈ rows) : lookup key rows = some row := by
  induction rows with
  | nil => cases member
  | cons head tail induction =>
      have parts := List.nodup_cons.mp nodup
      rcases List.mem_cons.mp member with equal | member
      · subst equal
        simp [lookup]
      · have different : key ≠ head.1 := fun equal =>
          parts.1 (equal ▸ List.mem_map.mpr ⟨(key, row), member, rfl⟩)
        rw [lookup, if_neg different]
        exact induction parts.2 member

private theorem mem_of_lookup_eq_some {rows : List (Key × Row)} {key : Key} {row : Row}
    (found : lookup key rows = some row) : (key, row) ∈ rows := by
  induction rows with
  | nil => cases found
  | cons head tail induction =>
      rw [lookup] at found
      by_cases equal : key = head.1
      · rw [if_pos equal] at found
        injection found with found
        subst equal found
        exact List.mem_cons_self
      · rw [if_neg equal] at found
        exact List.mem_cons_of_mem head (induction found)

/-- Enumeration and lookup agree: the key determines the row. -/
theorem mem_rows_iff (table : Table Key Row) {key : Key} {row : Row} :
    (key, row) ∈ table.rows ↔ table.find? key = some row :=
  ⟨lookup_eq_some_of_mem table.keysNodup, mem_of_lookup_eq_some⟩

private theorem lookup_eq_none_iff {rows : List (Key × Row)} {key : Key} :
    lookup key rows = none ↔ key ∉ rows.map Prod.fst := by
  induction rows with
  | nil => simp [lookup]
  | cons head tail induction =>
      rw [lookup]
      by_cases equal : key = head.1 <;> simp [equal, induction]

/-! ## Insertion -/

/-- Insert under a key that is still free. Callers obtain the freshness proof
from the primary-key check that the database makes at commit. -/
def insert (table : Table Key Row) (key : Key) (row : Row)
    (fresh : table.find? key = none) : Table Key Row where
  rows := table.rows ++ [(key, row)]
  keysNodup := by
    have absent : key ∉ table.rows.map Prod.fst := lookup_eq_none_iff.mp fresh
    rw [List.map_append]
    apply List.nodup_append.mpr
    refine ⟨table.keysNodup, by simp, ?_⟩
    intro left leftMember right rightMember equal
    simp only [List.map_cons, List.map_nil, List.mem_singleton] at rightMember
    exact absent (rightMember ▸ equal ▸ leftMember)

def single (key : Key) (row : Row) : Table Key Row := empty.insert key row (find?_empty key)

@[grind =] theorem find?_insert (table : Table Key Row) (key : Key) (row : Row)
    (fresh : table.find? key = none) (other : Key) :
    (table.insert key row fresh).find? other =
      if other = key then some row else table.find? other := by
  have splitLookup : ∀ rows : List (Key × Row),
      lookup other (rows ++ [(key, row)]) =
        (lookup other rows).or (if other = key then some row else none) := by
    intro rows
    induction rows with
    | nil => by_cases equal : other = key <;> simp [lookup, equal]
    | cons head tail induction =>
        rw [List.cons_append, lookup, lookup]
        by_cases equal : other = head.1 <;> simp [equal, induction]
  rw [find?, insert, splitLookup]
  by_cases equal : other = key
  · subst equal
    rw [show lookup other table.rows = none from fresh]
    simp
  · simp [equal, find?]

@[simp] theorem find?_insert_self (table : Table Key Row) (key : Key) (row : Row)
    (fresh : table.find? key = none) :
    (table.insert key row fresh).find? key = some row := by
  simp [find?_insert]

theorem find?_insert_of_ne (table : Table Key Row) (key : Key) (row : Row)
    (fresh : table.find? key = none) {other : Key} (different : other ≠ key) :
    (table.insert key row fresh).find? other = table.find? other := by
  simp [find?_insert, different]

/-- Rows that were there stay. -/
theorem find?_insert_of_some (table : Table Key Row) (key : Key) (row : Row)
    (fresh : table.find? key = none) {other : Key} {old : Row}
    (found : table.find? other = some old) :
    (table.insert key row fresh).find? other = some old := by
  have different : other ≠ key := by
    rintro rfl
    rw [fresh] at found
    cases found
  rw [find?_insert_of_ne table key row fresh different, found]

theorem find?_insert_eq_some_iff (table : Table Key Row) (key : Key) (row : Row)
    (fresh : table.find? key = none) {other : Key} {found : Row} :
    (table.insert key row fresh).find? other = some found ↔
      (other = key ∧ found = row) ∨ table.find? other = some found := by
  rw [find?_insert]
  by_cases equal : other = key
  · subst equal
    simp [fresh, eq_comm]
  · simp [equal]

/-! ## Updating one row -/

/-- Apply `change` to the row stored under `key`, if there is one. -/
def modify (table : Table Key Row) (key : Key) (change : Row → Row) : Table Key Row where
  rows := table.rows.map fun row => if row.1 = key then (row.1, change row.2) else row
  keysNodup := by
    have sameKeys : (table.rows.map fun row =>
          if row.1 = key then (row.1, change row.2) else row).map Prod.fst =
        table.rows.map Prod.fst := by
      rw [List.map_map]
      apply List.map_congr_left
      intro row _
      by_cases equal : row.1 = key <;> simp [equal]
    rw [sameKeys]
    exact table.keysNodup

@[grind =] theorem find?_modify (table : Table Key Row) (key : Key) (change : Row → Row) (other : Key) :
    (table.modify key change).find? other =
      if other = key then (table.find? other).map change else table.find? other := by
  simp only [find?, modify]
  induction table.rows with
  | nil => simp [lookup]
  | cons head tail induction =>
      rw [List.map_cons, lookup, lookup, induction]
      by_cases atHead : other = head.1
      · subst atHead
        by_cases atKey : head.1 = key <;> simp [atKey]
      · by_cases atKey : head.1 = key <;> simp [atKey, atHead]
        simp [show other ≠ key from atKey ▸ atHead]

@[simp] theorem find?_modify_self (table : Table Key Row) (key : Key) (change : Row → Row) :
    (table.modify key change).find? key = (table.find? key).map change := by
  simp [find?_modify]

theorem find?_modify_of_ne (table : Table Key Row) (key : Key) (change : Row → Row)
    {other : Key} (different : other ≠ key) :
    (table.modify key change).find? other = table.find? other := by
  simp [find?_modify, different]

theorem find?_modify_of_some (table : Table Key Row) (key : Key) (change : Row → Row)
    {other : Key} {row : Row} (found : table.find? other = some row) :
    (table.modify key change).find? other = some (if other = key then change row else row) := by
  rw [find?_modify, found]
  by_cases equal : other = key <;> simp [equal]

/-- Every row after an update stems from a row before it. -/
theorem find?_modify_eq_some_iff (table : Table Key Row) (key : Key) (change : Row → Row)
    {other : Key} {changed : Row} :
    (table.modify key change).find? other = some changed ↔
      ∃ row, table.find? other = some row ∧
        changed = if other = key then change row else row := by
  rw [find?_modify]
  by_cases equal : other = key
  · simp [equal, eq_comm (a := changed)]
  · simp [equal]

/-- What an update does to its row and all others do to themselves. -/
theorem find?_of_find?_modify {table : Table Key Row} {key : Key} {change : Row → Row}
    {Becomes : Row → Row → Prop} (unchanged : ∀ row, Becomes row row)
    (changed : ∀ row, table.find? key = some row → Becomes row (change row))
    {other : Key} {after : Row} (found : (table.modify key change).find? other = some after) :
    ∃ row, table.find? other = some row ∧ Becomes row after := by
  rcases (find?_modify_eq_some_iff table key change).mp found with ⟨row, rowFound, same⟩
  refine ⟨row, rowFound, ?_⟩
  by_cases equal : other = key
  · rw [same, if_pos equal]
    exact changed row (equal ▸ rowFound)
  · rw [same, if_neg equal]
    exact unchanged row

theorem find?_modify_of_find? {table : Table Key Row} {key : Key} {change : Row → Row}
    {Becomes : Row → Row → Prop} (unchanged : ∀ row, Becomes row row)
    (changed : ∀ row, table.find? key = some row → Becomes row (change row))
    {other : Key} {row : Row} (found : table.find? other = some row) :
    ∃ after, (table.modify key change).find? other = some after ∧ Becomes row after := by
  refine ⟨_, find?_modify_of_some table key change found, ?_⟩
  by_cases equal : other = key
  · rw [if_pos equal]
    exact changed row (equal ▸ found)
  · rw [if_neg equal]
    exact unchanged row

/-- Updating never adds or removes a key. -/
@[simp] theorem find?_modify_eq_none_iff (table : Table Key Row) (key : Key)
    (change : Row → Row) (other : Key) :
    (table.modify key change).find? other = none ↔ table.find? other = none := by
  rw [find?_modify]
  by_cases equal : other = key <;> simp [equal]

theorem modify_modify (table : Table Key Row) (key : Key) (first second : Row → Row) :
    (table.modify key first).modify key second =
      table.modify key fun row => second (first row) := by
  simp only [modify, List.map_map, mk.injEq]
  apply List.map_congr_left
  intro row _
  by_cases equal : row.1 = key <;> simp [equal]

theorem modify_eq_self (table : Table Key Row) (key : Key) {change : Row → Row}
    (unchanged : ∀ row, table.find? key = some row → change row = row) :
    table.modify key change = table := by
  have sameRows : (table.rows.map fun row =>
      if row.1 = key then (row.1, change row.2) else row) = table.rows := by
    apply (List.map_congr_left ?_).trans (List.map_id table.rows)
    rintro ⟨rowKey, row⟩ member
    by_cases equal : rowKey = key
    · subst equal
      simp [unchanged row (table.mem_rows_iff.mp member)]
    · simp [equal]
  cases table
  simpa only [modify, mk.injEq] using sameRows

/-! ## Queries over the rows -/

/-- A new row changes a query only if the query lists it. -/
theorem rows_insert_filter (table : Table Key Row) {key : Key} {row : Row}
    (fresh : table.find? key = none) {query : Key × Row → Bool} (unlisted : query (key, row) = false) :
    (table.insert key row fresh).rows.filter query = table.rows.filter query := by
  rw [insert, List.filter_append, List.filter_cons_of_neg (by rw [unlisted]; exact Bool.false_ne_true),
    List.filter_nil, List.append_nil]

/-- A changed row changes a query only if the query lists it before or after. -/
theorem rows_modify_filter (table : Table Key Row) {key : Key} {change : Row → Row}
    {query : Key × Row → Bool}
    (unlisted : ∀ row, table.find? key = some row →
      query (key, row) = false ∧ query (key, change row) = false) :
    (table.modify key change).rows.filter query = table.rows.filter query := by
  have each : ∀ rows : List (Key × Row), (∀ entry ∈ rows, entry ∈ table.rows) →
      (rows.map fun row => if row.1 = key then (row.1, change row.2) else row).filter query =
        rows.filter query := by
    intro rows stored
    induction rows with
    | nil => rfl
    | cons entry rest induction =>
        have tail := induction fun other member => stored other (List.mem_cons_of_mem _ member)
        rcases entry with ⟨entryKey, row⟩
        rw [List.map_cons]
        by_cases here : entryKey = key
        · have found := table.mem_rows_iff.mp (stored (entryKey, row) List.mem_cons_self)
          rw [here] at found ⊢
          have outside := unlisted row found
          simp [outside.1, outside.2, tail]
        · simp only [if_neg here, List.filter_cons, tail]
  exact each table.rows fun _ member => member

/-! ## Views of a table -/

/-- Keep the keys and project every row. -/
def map (project : Row → Image) (table : Table Key Row) : Table Key Image where
  rows := table.rows.map fun row => (row.1, project row.2)
  keysNodup := by simpa [List.map_map, Function.comp_def] using table.keysNodup

@[simp] theorem find?_map (project : Row → Image) (table : Table Key Row) (key : Key) :
    (table.map project).find? key = (table.find? key).map project := by
  simp only [find?, map]
  induction table.rows with
  | nil => simp [lookup]
  | cons head tail induction =>
      rw [List.map_cons, lookup, lookup]
      by_cases equal : key = head.1 <;> simp [equal, induction]

theorem map_insert (project : Row → Image) (table : Table Key Row) (key : Key) (row : Row)
    (fresh : table.find? key = none) :
    (table.insert key row fresh).map project =
      (table.map project).insert key (project row) (by simp [fresh]) := by
  simp [map, insert]

/-- An update of a row is an update of its view. -/
theorem map_modify (project : Row → Image) (table : Table Key Row) (key : Key)
    {change : Row → Row} {imageChange : Image → Image}
    (commutes : ∀ row, table.find? key = some row →
      project (change row) = imageChange (project row)) :
    (table.modify key change).map project = (table.map project).modify key imageChange := by
  simp only [map, modify, List.map_map, mk.injEq]
  apply List.map_congr_left
  rintro ⟨rowKey, row⟩ member
  by_cases equal : rowKey = key
  · subst equal
    simp [commutes row (table.mem_rows_iff.mp member)]
  · simp [equal]

/-- A change that the projection cannot see leaves the view alone. -/
theorem map_modify_of_invisible (project : Row → Image) (table : Table Key Row) (key : Key)
    {change : Row → Row} (invisible : ∀ row, table.find? key = some row →
      project (change row) = project row) :
    (table.modify key change).map project = table.map project := by
  have viewed : (table.modify key change).map project = (table.map project).modify key id :=
    map_modify project table key invisible
  rw [viewed]
  exact modify_eq_self _ key fun _ _ => rfl

end Table

end RvcOrchestrator.Foundation

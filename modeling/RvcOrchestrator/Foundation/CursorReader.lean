import Mathlib.Data.List.Sort

/-! # Reading a growing table behind a cursor

Rows lie in a linear order of positions. A reader fetches some of the rows beyond
its cursor, the nearest first, and moves the cursor to the last of them. Between
two reads rows are added, not necessarily beyond the cursor.
-/

namespace RvcOrchestrator.Foundation

variable {Row Position : Type} [LinearOrder Position] (position : Row → Position)

/-! ## Sorting -/

/-- Sorting looks at the rows of the list only. -/
theorem insertionSort_congr {first second : Row → Row → Prop} [DecidableRel first]
    [DecidableRel second] {rows : List Row}
    (same : ∀ left ∈ rows, ∀ right ∈ rows, first left right ↔ second left right) :
    rows.insertionSort first = rows.insertionSort second := by
  have inserted : ∀ (row : Row) (list : List Row),
      (∀ other ∈ list, first row other ↔ second row other) →
      list.orderedInsert first row = list.orderedInsert second row := by
    intro row list
    induction list with
    | nil => exact fun _ => rfl
    | cons head tail induction =>
        intro agree
        rw [List.orderedInsert_cons, List.orderedInsert_cons,
          induction fun other member => agree other (List.mem_cons_of_mem _ member)]
        simp only [agree head List.mem_cons_self]
  induction rows with
  | nil => rfl
  | cons row rows induction =>
      rw [List.insertionSort_cons, List.insertionSort_cons, induction fun left leftMember right
        rightMember => same left (List.mem_cons_of_mem _ leftMember) right
          (List.mem_cons_of_mem _ rightMember)]
      apply inserted
      intro other member
      rw [List.mem_insertionSort] at member
      exact same row List.mem_cons_self other (List.mem_cons_of_mem _ member)

/-! ## Reading -/

/-- The row lies beyond the cursor. Without a cursor every row does. -/
def Beyond (cursor : Option Position) (row : Row) : Prop :=
  match cursor with
  | none => True
  | some reached => reached < position row

instance (cursor : Option Position) : DecidablePred (Beyond position cursor) := fun row =>
  match cursor with
  | none => inferInstanceAs (Decidable True)
  | some reached => inferInstanceAs (Decidable (reached < position row))

def pending (rows : List Row) (cursor : Option Position) : List Row :=
  (rows.filter fun row => Beyond position cursor row).insertionSort fun left right =>
    position left ≤ position right

structure Reader (Row Position : Type) where
  cursor : Option Position
  received : List Row

def Reader.start : Reader Row Position where
  cursor := none
  received := []

def Reader.receive (reader : Reader Row Position) (records : List Row) :
    Reader Row Position where
  cursor :=
    match records.getLast? with
    | none => reader.cursor
    | some last => some (position last)
  received := reader.received ++ records

def Reader.read (reader : Reader Row Position) (rows : List Row) (count : Nat) :
    Reader Row Position :=
  reader.receive position ((pending position rows reader.cursor).take count)

/-! ## The rows of a page -/

section

variable {position} {rows : List Row} {cursor : Option Position}

theorem mem_pending_iff {row : Row} :
    row ∈ pending position rows cursor ↔ row ∈ rows ∧ Beyond position cursor row := by
  rw [pending, (List.perm_insertionSort _ _).mem_iff, List.mem_filter, decide_eq_true_eq]

theorem pairwise_pending (distinct : (rows.map position).Nodup) :
    (pending position rows cursor).Pairwise fun left right => position left < position right := by
  have ordered : (pending position rows cursor).Pairwise
      fun left right => position left ≤ position right :=
    List.pairwise_insertionSort (fun left right => position left ≤ position right) _
  have apart : (pending position rows cursor).Pairwise
      fun left right => position left ≠ position right := by
    have perm := (List.perm_insertionSort (fun left right => position left ≤ position right)
      (rows.filter fun row => Beyond position cursor row)).map position
    rw [← List.pairwise_map]
    exact perm.nodup_iff.mpr ((List.filter_sublist.map position).nodup distinct)
  refine (ordered.and apart).imp ?_
  rintro left right ⟨atMost, different⟩
  exact lt_of_le_of_ne atMost different

/-- A page that is not empty holds exactly the rows from the cursor up to its last
one. -/
theorem mem_page_iff (distinct : (rows.map position).Nodup) {count : Nat} {last : Row}
    (page : ((pending position rows cursor).take count).getLast? = some last) {row : Row}
    (member : row ∈ pending position rows cursor) :
    row ∈ (pending position rows cursor).take count ↔ position row ≤ position last := by
  have ordered : (pending position rows cursor).Pairwise
      fun left right => position left < position right := pairwise_pending distinct
  have split := List.take_append_drop count (pending position rows cursor)
  rcases List.getLast?_eq_some_iff.mp page with ⟨front, taken⟩
  rw [← split, taken] at ordered member
  rw [taken]
  rw [List.pairwise_append] at ordered
  rcases ordered with ⟨within, -, across⟩
  constructor
  · intro inPage
    rcases List.mem_append.mp inPage with inFront | atLast
    · exact le_of_lt ((List.pairwise_append.mp within).2.2 row inFront last List.mem_cons_self)
    · rw [List.mem_singleton.mp atLast]
  · intro atMost
    refine (List.mem_append.mp member).resolve_right ?_
    intro later
    have beyond := across last (List.mem_append_right _ List.mem_cons_self) row later
    exact absurd beyond (not_lt.mpr atMost)

/-- Beyond the last row of a page lie the rows that follow the page. -/
theorem pending_page (distinct : (rows.map position).Nodup) {count : Nat} {last : Row}
    (page : ((pending position rows cursor).take count).getLast? = some last) :
    pending position rows (some (position last)) = (pending position rows cursor).drop count := by
  have ordered : (pending position rows cursor).Pairwise
      fun left right => position left < position right := pairwise_pending distinct
  have later : (pending position rows (some (position last))).Pairwise
      fun left right => position left < position right := pairwise_pending distinct
  have nodup : ∀ {list : List Row}, list.Pairwise (fun left right => position left < position right) →
      list.Nodup := by
    intro list less
    apply less.imp
    rintro left right below rfl
    exact lt_irrefl _ below
  have rest := ordered.sublist (List.drop_sublist count _)
  apply List.Perm.eq_of_pairwise _ later rest
  · rw [List.perm_ext_iff_of_nodup (nodup later) (nodup rest)]
    intro row
    have lastPending := mem_pending_iff.mp (List.mem_of_mem_take (List.mem_of_getLast? page))
    constructor
    · intro member
      rcases mem_pending_iff.mp member with ⟨stored, beyond⟩
      have before : Beyond position cursor row := by
        rcases cursor with _ | reached
        · trivial
        · exact lt_trans lastPending.2 beyond
      have inPending := mem_pending_iff.mpr ⟨stored, before⟩
      have outside : row ∉ (pending position rows cursor).take count := by
        rw [mem_page_iff distinct page inPending]
        exact not_le.mpr beyond
      rw [← List.take_append_drop count (pending position rows cursor)] at inPending
      exact (List.mem_append.mp inPending).resolve_left outside
    · intro member
      have inPending := List.mem_of_mem_drop member
      refine mem_pending_iff.mpr ⟨(mem_pending_iff.mp inPending).1, ?_⟩
      apply lt_of_not_ge
      rw [← mem_page_iff distinct page inPending]
      intro taken
      rw [← List.take_append_drop count (pending position rows cursor)] at ordered
      exact lt_irrefl _ ((List.pairwise_append.mp ordered).2.2 row taken row member)
  · intro left right _ _ below above
    exact absurd (lt_trans below above) (lt_irrefl _)

/-- Beyond the cursor after a read lie exactly the rows that lay beyond it before and
were not read. -/
theorem beyond_read_iff (distinct : (rows.map position).Nodup) {reader : Reader Row Position}
    {count : Nat} {row : Row} (member : row ∈ rows) :
    Beyond position (reader.read position rows count).cursor row ↔
      Beyond position reader.cursor row ∧
        row ∉ (pending position rows reader.cursor).take count := by
  rcases page : ((pending position rows reader.cursor).take count).getLast? with _ | last
  · simp only [Reader.read, Reader.receive, page]
    rw [List.getLast?_eq_none_iff.mp page]
    simp
  · simp only [Reader.read, Reader.receive, page]
    have lastPending := List.mem_of_mem_take (List.mem_of_getLast? page)
    by_cases beyond : Beyond position reader.cursor row
    · rw [mem_page_iff distinct page (mem_pending_iff.mpr ⟨member, beyond⟩), not_le]
      exact ⟨fun further => ⟨beyond, further⟩, fun both => both.2⟩
    · refine ⟨?_, fun both => absurd both.1 beyond⟩
      intro further
      -- The last row read lies beyond the old cursor, so what lies beyond it does too.
      have lastBeyond := (mem_pending_iff.mp lastPending).2
      rcases cursorIs : reader.cursor with _ | reached
      · exact absurd (cursorIs ▸ trivial) beyond
      · rw [cursorIs] at lastBeyond beyond
        exact absurd (lt_trans lastBeyond further) beyond

end

/-! ## What a reader has received -/

/-- The reader has received stored rows, each once, and its cursor has passed
them. -/
structure Follows (rows : List Row) (reader : Reader Row Position) : Prop where
  distinct : (rows.map position).Nodup
  stored : ∀ row ∈ reader.received, row ∈ rows
  once : reader.received.Nodup
  passed : ∀ row ∈ reader.received, ¬Beyond position reader.cursor row

def CaughtUp (rows : List Row) (reader : Reader Row Position) : Prop :=
  ∀ row ∈ rows, ¬Beyond position reader.cursor row → row ∈ reader.received

section

variable {position} {rows : List Row} {reader : Reader Row Position}

theorem Follows.start : Follows position ([] : List Row) Reader.start where
  distinct := List.nodup_nil
  stored := by simp [Reader.start]
  once := List.nodup_nil
  passed := by simp [Reader.start]

theorem Follows.read (follows : Follows position rows reader) (count : Nat) :
    Follows position rows (reader.read position rows count) where
  distinct := follows.distinct
  stored row received := by
    rcases List.mem_append.mp received with earlier | read
    · exact follows.stored row earlier
    · exact (mem_pending_iff.mp (List.mem_of_mem_take read)).1
  once := by
    have page : ((pending position rows reader.cursor).take count).Nodup := by
      have ordered : (pending position rows reader.cursor).Pairwise
          fun left right => position left < position right := pairwise_pending follows.distinct
      refine (ordered.sublist (List.take_sublist count _)).imp ?_
      rintro left right less rfl
      exact lt_irrefl _ less
    refine List.Nodup.append follows.once page ?_
    intro row received read
    exact follows.passed row received (mem_pending_iff.mp (List.mem_of_mem_take read)).2
  passed row received := by
    rcases List.mem_append.mp received with earlier | read
    · rw [beyond_read_iff follows.distinct (follows.stored row earlier)]
      exact fun both => follows.passed row earlier both.1
    · have member := (mem_pending_iff.mp (List.mem_of_mem_take read)).1
      rw [beyond_read_iff follows.distinct member]
      exact fun both => both.2 read

/-- Reading neither loses a row nor recovers a lost one. -/
theorem caughtUp_read_iff (follows : Follows position rows reader) (count : Nat) :
    CaughtUp position rows (reader.read position rows count) ↔
      CaughtUp position rows reader := by
  constructor
  · intro caughtUp row member passed
    have received := caughtUp row member (by
      rw [beyond_read_iff follows.distinct member]
      exact fun both => passed both.1)
    refine (List.mem_append.mp received).resolve_right ?_
    intro read
    exact passed (mem_pending_iff.mp (List.mem_of_mem_take read)).2
  · intro caughtUp row member passed
    rw [beyond_read_iff follows.distinct member, not_and_not_right] at passed
    by_cases beyond : Beyond position reader.cursor row
    · exact List.mem_append_right _ (passed beyond)
    · exact List.mem_append_left _ (caughtUp row member beyond)

theorem Follows.add (follows : Follows position rows reader) {new : List Row}
    (distinct : ((rows ++ new).map position).Nodup) : Follows position (rows ++ new) reader where
  distinct := distinct
  stored row received := List.mem_append_left _ (follows.stored row received)
  once := follows.once
  passed := follows.passed

/-- A row that is added behind the cursor is lost, and no other. -/
theorem caughtUp_add_iff (follows : Follows position rows reader) {new : List Row}
    (distinct : ((rows ++ new).map position).Nodup) :
    CaughtUp position (rows ++ new) reader ↔
      CaughtUp position rows reader ∧ ∀ row ∈ new, Beyond position reader.cursor row := by
  constructor
  · intro caughtUp
    refine ⟨fun row member => caughtUp row (List.mem_append_left _ member), ?_⟩
    intro row member
    by_contra passed
    have received := caughtUp row (List.mem_append_right _ member) passed
    have stored := follows.stored row received
    rw [List.map_append] at distinct
    exact List.disjoint_of_nodup_append distinct (List.mem_map_of_mem stored)
      (List.mem_map_of_mem member)
  · rintro ⟨caughtUp, ahead⟩ row member passed
    rcases List.mem_append.mp member with stored | added
    · exact caughtUp row stored passed
    · exact absurd (ahead row added) passed

/-- A reader that finds nothing more has received every row exactly once, if it has
lost none. -/
theorem perm_iff_caughtUp (follows : Follows position rows reader)
    (drained : pending position rows reader.cursor = []) :
    reader.received.Perm rows ↔ CaughtUp position rows reader := by
  have passed : ∀ row ∈ rows, ¬Beyond position reader.cursor row := by
    intro row member beyond
    have left := mem_pending_iff.mpr ⟨member, beyond⟩
    rw [drained] at left
    cases left
  have rowsNodup : rows.Nodup := List.Nodup.of_map position follows.distinct
  rw [List.perm_ext_iff_of_nodup follows.once rowsNodup]
  constructor
  · intro same row member _
    exact (same row).mpr member
  · intro caughtUp row
    exact ⟨follows.stored row, fun member => caughtUp row member (passed row member)⟩

end

end RvcOrchestrator.Foundation

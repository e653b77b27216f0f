import Mathlib.Data.Finset.Sort

/-! # The largest elements of a sequence

A heap of bounded size is shown one element after another and keeps the largest of them. How the
heap arranges its elements does not matter, as long as the least of them comes first.
-/

namespace RvcOrchestrator.Foundation

variable {Element : Type} [LinearOrder Element]

/-- Lists whose first element is the least, with the operations of a priority queue. -/
structure MinHeap (Element : Type) [LinearOrder Element] where
  IsHeap : List Element → Prop
  push : List Element → Element → List Element
  /-- The least element goes, and another one comes. -/
  replace : List Element → Element → List Element
  isHeap_nil : IsHeap []
  isHeap_push : ∀ {heap} element, IsHeap heap → IsHeap (push heap element)
  isHeap_replace : ∀ {least rest} element, IsHeap (least :: rest) →
    IsHeap (replace (least :: rest) element)
  least_le : ∀ {least rest}, IsHeap (least :: rest) → ∀ element ∈ rest, least ≤ element
  push_perm : ∀ {heap} element, IsHeap heap → (push heap element).Perm (element :: heap)
  replace_perm : ∀ {least rest} element, IsHeap (least :: rest) →
    (replace (least :: rest) element).Perm (element :: rest)

/-- So many elements of a list, or all of them, none of which is less than another one. -/
structure Largest (count : Nat) (shown kept : List Element) : Prop where
  length : kept.length = min count shown.length
  dropped : ∃ dropped, (dropped ++ kept).Perm shown ∧
    ∀ lower ∈ dropped, ∀ higher ∈ kept, lower ≤ higher

namespace MinHeap

variable (heap : MinHeap Element)

def keep (count : Nat) (kept : List Element) (element : Element) : List Element :=
  if kept.length < count then heap.push kept element
  else
    match kept with
    | [] => []
    | least :: rest =>
        if least < element then heap.replace (least :: rest) element else least :: rest

def keepAll (count : Nat) (elements : List Element) : List Element :=
  elements.foldl (heap.keep count) []

variable {heap} {count : Nat} {shown kept : List Element}

theorem isHeap_keep (element : Element) (isHeap : heap.IsHeap kept) :
    heap.IsHeap (heap.keep count kept element) := by
  unfold keep
  split
  · exact heap.isHeap_push element isHeap
  · cases kept with
    | nil => exact isHeap
    | cons least rest =>
        simp only
        split
        · exact heap.isHeap_replace element isHeap
        · exact isHeap

end MinHeap

def MinHeap.sorted : MinHeap Element where
  IsHeap elements := elements.Pairwise (· ≤ ·)
  push elements element := elements.orderedInsert (· ≤ ·) element
  replace elements element := elements.tail.orderedInsert (· ≤ ·) element
  isHeap_nil := List.Pairwise.nil
  isHeap_push element isHeap := isHeap.orderedInsert element _
  isHeap_replace element isHeap := isHeap.of_cons.orderedInsert element _
  least_le isHeap _ member := List.rel_of_pairwise_cons isHeap member
  push_perm element _ := List.perm_orderedInsert _ element _
  replace_perm element _ := List.perm_orderedInsert _ element _

namespace Largest

variable {heap : MinHeap Element} {count : Nat} {shown kept : List Element}

theorem nil : Largest count ([] : List Element) [] where
  length := (Nat.min_zero count).symm
  dropped := ⟨[], List.Perm.refl _, by simp⟩

theorem dropped_length {dropped : List Element} (largest : Largest count shown kept)
    (whole : (dropped ++ kept).Perm shown) : dropped.length = shown.length - count := by
  have lengths := whole.length_eq
  rw [List.length_append, largest.length] at lengths
  omega

/-- While there is room, nothing has been dropped. -/
theorem perm_of_room (largest : Largest count shown kept) (room : kept.length < count) :
    kept.Perm shown := by
  rcases largest.dropped with ⟨dropped, whole, -⟩
  have nothing : dropped = [] := by
    apply List.eq_nil_of_length_eq_zero
    rw [largest.dropped_length whole]
    have length := largest.length
    omega
  rw [nothing, List.nil_append] at whole
  exact whole

theorem of_perm {before : List Element} (perm : before.Perm kept)
    (largest : Largest count shown before) : Largest count shown kept where
  length := by rw [← perm.length_eq, largest.length]
  dropped := by
    rcases largest.dropped with ⟨dropped, whole, ordered⟩
    refine ⟨dropped, (perm.append_left dropped).symm.trans whole, ?_⟩
    intro lower member higher kept
    exact ordered lower member higher (perm.mem_iff.mpr kept)

theorem push {element : Element} (largest : Largest count shown kept) (room : kept.length < count) :
    Largest count (shown ++ [element]) (element :: kept) where
  length := by
    have same := (largest.perm_of_room room).length_eq
    rw [List.length_cons, List.length_append, List.length_singleton]
    omega
  dropped := by
    refine ⟨[], ?_, by simp⟩
    exact ((largest.perm_of_room room).cons element).trans (List.perm_append_singleton _ _).symm

/-- An element that is not greater than the least one is dropped. -/
theorem skip {least element : Element} {rest : List Element}
    (largest : Largest count shown (least :: rest)) (full : ¬(least :: rest).length < count)
    (first : ∀ other ∈ rest, least ≤ other) (low : element ≤ least) :
    Largest count (shown ++ [element]) (least :: rest) where
  length := by
    have length := largest.length
    rw [List.length_append, List.length_singleton]
    omega
  dropped := by
    rcases largest.dropped with ⟨dropped, whole, ordered⟩
    refine ⟨element :: dropped, ?_, ?_⟩
    · exact (whole.cons element).trans (List.perm_append_singleton _ _).symm
    · intro lower member higher kept
      rcases List.mem_cons.mp member with rfl | member
      · rcases List.mem_cons.mp kept with rfl | other
        · exact low
        · exact low.trans (first higher other)
      · exact ordered lower member higher kept

/-- The least element is dropped for a greater one. -/
theorem replace {least element : Element} {rest : List Element}
    (largest : Largest count shown (least :: rest)) (full : ¬(least :: rest).length < count)
    (first : ∀ other ∈ rest, least ≤ other) (high : least < element) :
    Largest count (shown ++ [element]) (element :: rest) where
  length := by
    have length := largest.length
    rw [List.length_cons] at length full ⊢
    rw [List.length_append, List.length_singleton]
    omega
  dropped := by
    rcases largest.dropped with ⟨dropped, whole, ordered⟩
    refine ⟨least :: dropped, ?_, ?_⟩
    · have moved : (least :: dropped ++ element :: rest).Perm
          (element :: (dropped ++ least :: rest)) := by
        have inner : (least :: (dropped ++ rest)).Perm (dropped ++ least :: rest) :=
          List.perm_middle.symm
        exact (@List.perm_middle _ element (least :: dropped) _).trans (inner.cons element)
      exact moved.trans ((whole.cons element).trans (List.perm_append_singleton _ _).symm)
    · intro lower member higher kept
      have below : lower ≤ least := by
        rcases List.mem_cons.mp member with rfl | member
        · exact le_refl _
        · exact ordered lower member least List.mem_cons_self
      rcases List.mem_cons.mp kept with rfl | other
      · exact below.trans high.le
      · exact below.trans (first higher other)

theorem keep (element : Element) (isHeap : heap.IsHeap kept)
    (largest : Largest count shown kept) :
    Largest count (shown ++ [element]) (heap.keep count kept element) := by
  unfold MinHeap.keep
  split
  · next room => exact (largest.push room).of_perm (heap.push_perm element isHeap).symm
  · next full =>
      cases kept with
      | nil =>
          have none : count = 0 := Nat.eq_zero_of_not_pos full
          subst none
          exact ⟨(Nat.zero_min _).symm, shown ++ [element], by simp, by simp⟩
      | cons least rest =>
          have first := heap.least_le isHeap
          simp only
          split
          · next high =>
              exact (largest.replace full first high).of_perm
                (heap.replace_perm element isHeap).symm
          · next low => exact largest.skip full first (not_lt.mp low)

/-- Whatever heap it is, it keeps the largest elements. -/
theorem keepAll (heap : MinHeap Element) (count : Nat) (elements : List Element) :
    Largest count elements (heap.keepAll count elements) := by
  have both : heap.IsHeap (heap.keepAll count elements) ∧
      Largest count elements (heap.keepAll count elements) := by
    induction elements using List.reverseRecOn with
    | nil => exact ⟨heap.isHeap_nil, nil⟩
    | append_singleton elements element induction =>
        rw [MinHeap.keepAll, List.foldl_append]
        exact ⟨MinHeap.isHeap_keep element induction.1, induction.2.keep element induction.1⟩
  exact both.2

/-- In ascending order they are the last ones. -/
theorem sort_eq (largest : Largest count shown kept) :
    kept.insertionSort (· ≤ ·) =
      (shown.insertionSort (· ≤ ·)).drop (shown.length - count) := by
  rcases largest.dropped with ⟨dropped, whole, ordered⟩
  have sorted : (dropped.insertionSort (· ≤ ·) ++ kept.insertionSort (· ≤ ·)).Pairwise (· ≤ ·) := by
    refine List.pairwise_append.mpr
      ⟨List.pairwise_insertionSort _ dropped, List.pairwise_insertionSort _ kept, ?_⟩
    intro lower below higher above
    exact ordered lower ((List.mem_insertionSort _).mp below) higher
      ((List.mem_insertionSort _).mp above)
  have perm : (dropped.insertionSort (· ≤ ·) ++ kept.insertionSort (· ≤ ·)).Perm
      (shown.insertionSort (· ≤ ·)) :=
    ((List.perm_insertionSort _ dropped).append (List.perm_insertionSort _ kept)).trans
      (whole.trans (List.perm_insertionSort _ shown).symm)
  have same := perm.eq_of_pairwise' sorted (List.pairwise_insertionSort _ shown)
  rw [← same, ← largest.dropped_length whole]
  exact (List.drop_left' (List.length_insertionSort _ dropped)).symm

/-- For a list without repetition, this depends on the set of its elements only. -/
theorem sort_eq_finset (largest : Largest count shown kept) (nodup : shown.Nodup) :
    kept.insertionSort (· ≤ ·) = shown.toFinset.sort.drop (shown.toFinset.card - count) := by
  have sorted : shown.insertionSort (· ≤ ·) = shown.toFinset.sort := by
    have perm : (shown.insertionSort (· ≤ ·)).Perm shown.toFinset.sort := by
      apply (List.perm_insertionSort _ shown).trans
      exact (List.toFinset_toList nodup).symm.trans (Finset.sort_perm_toList _ _).symm
    exact perm.eq_of_pairwise' (List.pairwise_insertionSort _ shown)
      (Finset.pairwise_sort shown.toFinset (· ≤ ·))
  rw [largest.sort_eq, sorted, List.toFinset_card_of_nodup nodup]

end Largest

end RvcOrchestrator.Foundation

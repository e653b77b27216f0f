import Mathlib.Algebra.BigOperators.Group.List.Basic
import Mathlib.Data.Nat.ModEq

/-! # Sliding windows

The complete windows of one size at a fixed hop in a sequence that grows at its end, and a
ring that keeps the last window.
-/

namespace RvcOrchestrator.Foundation

namespace SlidingWindow

variable {α : Type*} {size hop : Nat}

/-! ## Complete windows -/

def count (size hop length : Nat) : Nat :=
  if length < size then 0 else (length - size) / hop + 1

def windows (size hop : Nat) (elements : List α) : List (List α) :=
  (List.range (count size hop elements.length)).map fun index =>
    (elements.drop (index * hop)).take size

def last (size : Nat) (elements : List α) : List α := elements.drop (elements.length - size)

def Completes (size hop length : Nat) : Prop := size ≤ length ∧ (length - size) % hop = 0

instance (size hop length : Nat) : Decidable (Completes size hop length) :=
  inferInstanceAs (Decidable (_ ∧ _))

@[simp] theorem windows_length (elements : List α) :
    (windows size hop elements).length = count size hop elements.length := by
  rw [windows, List.length_map, List.length_range]

theorem windows_nil (positive : 0 < size) : windows size hop ([] : List α) = [] := by
  rw [windows, count, List.length_nil, if_pos positive]
  rfl

theorem window_within {length index : Nat} (within : index < count size hop length) :
    index * hop + size ≤ length := by
  unfold count at within
  split at within
  · omega
  · next enough =>
      have reach : index * hop ≤ length - size :=
        le_trans (Nat.mul_le_mul_right _ (Nat.lt_succ_iff.mp within)) (Nat.div_mul_le_self ..)
      omega

theorem count_succ (length : Nat) :
    count size hop (length + 1) =
      count size hop length + if Completes size hop (length + 1) then 1 else 0 := by
  unfold count
  by_cases short : length + 1 < size
  · have incomplete : ¬Completes size hop (length + 1) := by
      intro completes
      have enough := completes.1
      omega
    rw [if_pos short, if_pos (by omega), if_neg incomplete]
  · rw [if_neg short]
    by_cases first : length + 1 = size
    · have completes : Completes size hop (length + 1) :=
        ⟨by omega, by rw [first, Nat.sub_self, Nat.zero_mod]⟩
      rw [if_pos (by omega), if_pos completes, first, Nat.sub_self, Nat.zero_div]
    · have later : length + 1 - size = length - size + 1 := by omega
      rw [if_neg (by omega), later, Nat.succ_div]
      by_cases divides : hop ∣ length - size + 1
      · have completes : Completes size hop (length + 1) :=
          ⟨by omega, by rw [later, Nat.mod_eq_zero_of_dvd divides]⟩
        rw [if_pos divides, if_pos completes]
      · have incomplete : ¬Completes size hop (length + 1) := by
          intro completes
          rw [Completes, later] at completes
          exact divides (Nat.dvd_of_mod_eq_zero completes.2)
        rw [if_neg divides, if_neg incomplete]

/-- The next element completes at most one window, which is then the last. -/
theorem windows_concat (elements : List α) (element : α) :
    windows size hop (elements ++ [element]) =
      windows size hop elements ++
        if Completes size hop (elements.length + 1) then [last size (elements ++ [element])]
        else [] := by
  have earlier : (List.range (count size hop elements.length)).map (fun index =>
      ((elements ++ [element]).drop (index * hop)).take size) = windows size hop elements := by
    apply List.map_congr_left
    intro index member
    have within := window_within (List.mem_range.mp member)
    rw [List.drop_append_of_le_length (by omega),
      List.take_append_of_le_length (by rw [List.length_drop]; omega)]
  rw [windows, List.length_append, List.length_singleton, count_succ]
  split
  · next completes =>
      have start : count size hop elements.length * hop = elements.length + 1 - size := by
        have counted : count size hop (elements.length + 1) = _ := count_succ elements.length
        rw [if_pos completes] at counted
        unfold count at counted
        rw [if_neg (by have enough := completes.1; omega)] at counted
        rw [count, ← Nat.succ.inj counted]
        exact Nat.div_mul_cancel (Nat.dvd_of_mod_eq_zero completes.2)
      rw [List.range_succ, List.map_append, earlier, List.map_singleton, start, last,
        List.length_append, List.length_singleton, List.take_of_length_le]
      rw [List.length_drop, List.length_append, List.length_singleton]
      have enough := completes.1
      omega
  · rw [Nat.add_zero, earlier, List.append_nil]

/-! ## The ring -/

/-- The ring holds the last elements, each at its index modulo the size. -/
structure Ring (size : Nat) (elements ring : List α) : Prop where
  length : ring.length = size
  recent : ∀ index < elements.length, elements.length ≤ index + size →
    ring[index % size]? = elements[index]?

theorem Ring.nil {ring : List α} (length : ring.length = size) : Ring size [] ring where
  length := length
  recent _ inRange := by cases inRange

theorem Ring.concat {elements ring : List α} (positive : 0 < size)
    (holds : Ring size elements ring) (element : α) :
    Ring size (elements ++ [element]) (ring.set (elements.length % size) element) where
  length := by rw [List.length_set, holds.length]
  recent index inRange near := by
    rw [List.length_append, List.length_singleton] at inRange near
    have place : elements.length % size < ring.length := by
      rw [holds.length]
      exact Nat.mod_lt _ positive
    by_cases newest : index = elements.length
    · rw [newest, List.getElem?_set_self place, List.getElem?_concat_length]
    · have elsewhere : elements.length % size ≠ index % size := by
        intro same
        have congruent : size ∣ elements.length - index :=
          (Nat.modEq_iff_dvd' (by omega)).mp same.symm
        have distance := Nat.le_of_dvd (by omega) congruent
        omega
      rw [List.getElem?_set_ne elsewhere, holds.recent index (by omega) (by omega),
        List.getElem?_append_left (by omega)]

/-- What the next element overwrites in a full ring. -/
theorem Ring.oldest {elements ring : List α} (positive : 0 < size)
    (holds : Ring size elements ring) (full : size ≤ elements.length) :
    ring[elements.length % size]? = elements[elements.length - size]? := by
  have place : elements.length % size = (elements.length - size) % size :=
    Nat.mod_eq_sub_mod full
  rw [place]
  exact holds.recent _ (by omega) (by omega)

/-! ## Sums -/

variable [AddCommGroup α]

theorem last_sum_filling {elements : List α} (filling : elements.length < size) (element : α) :
    (last size (elements ++ [element])).sum = (last size elements).sum + element := by
  have start : (elements ++ [element]).length - size = 0 := by
    rw [List.length_append, List.length_singleton]
    omega
  have before : elements.length - size = 0 := by omega
  rw [last, start, last, before, List.drop_zero, List.drop_zero, List.sum_append,
    List.sum_singleton]

theorem last_sum_sliding {elements : List α} {oldest : α}
    (found : elements[elements.length - size]? = some oldest) (full : size ≤ elements.length)
    (element : α) :
    (last size (elements ++ [element])).sum = (last size elements).sum + (element - oldest) := by
  rcases List.getElem?_eq_some_iff.mp found with ⟨inRange, rfl⟩
  have start : (elements ++ [element]).length - size = elements.length - size + 1 := by
    rw [List.length_append, List.length_singleton]
    omega
  rw [last, start, last, List.drop_eq_getElem_cons inRange,
    List.drop_append_of_le_length (by omega), List.sum_append, List.sum_singleton, List.sum_cons,
    add_comm (elements[elements.length - size]), add_assoc, add_sub_cancel]

end SlidingWindow

end RvcOrchestrator.Foundation

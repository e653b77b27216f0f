import RvcOrchestrator.Foundation.Wave
import Mathlib.Data.Nat.ModEq
import Mathlib.Data.Rat.Floor
import Mathlib.Tactic.Positivity

/-! # PCM samples

Integers in little-endian two's complement, unsigned where a sample has one byte, and the
tally of a sequence of samples. The tallies of consecutive parts add up to the tally of the
whole.
-/

namespace RvcOrchestrator.Foundation

namespace Pcm

/-! ## Decoding -/

/-- Two's complement. -/
def signed (bytes : List UInt8) : Int :=
  let number := WaveRead.unsigned bytes
  if number < 2 ^ (bytes.length * 8 - 1) then number
  else (number : Int) - 2 ^ (bytes.length * 8)

/-- The samples of more than one byte. -/
def decodeSigned (width : Nat) (bytes : List UInt8) : List Int :=
  (List.range (bytes.length / width)).map fun index =>
    signed (WaveRead.slice bytes (index * width) width)

/-- The samples of one byte. -/
def decodeOffset (bytes : List UInt8) : List Int :=
  bytes.map fun byte => (byte.toNat : Int) - 128

def decode (width : Nat) (bytes : List UInt8) : List Int :=
  if width = 1 then decodeOffset bytes else decodeSigned width bytes

theorem unsigned_lt (bytes : List UInt8) : WaveRead.unsigned bytes < 2 ^ (bytes.length * 8) := by
  induction bytes with
  | nil => simp [WaveRead.unsigned]
  | cons byte bytes induction =>
      have byteBound := byte.toNat_lt
      have power : 2 ^ ((bytes.length + 1) * 8) = 256 * 2 ^ (bytes.length * 8) := by
        rw [Nat.add_mul, pow_add]
        ring
      rw [WaveRead.unsigned, List.length_cons, power]
      omega

/-- A sample lies between the rails of its width. -/
theorem signed_bounds {bytes : List UInt8} (nonempty : bytes ≠ []) :
    -(2 ^ (bytes.length * 8 - 1) : Int) ≤ signed bytes ∧
      signed bytes ≤ 2 ^ (bytes.length * 8 - 1) - 1 := by
  have positive : 0 < bytes.length := List.length_pos_iff.mpr nonempty
  have bound := unsigned_lt bytes
  have half : 2 ^ (bytes.length * 8) = 2 * 2 ^ (bytes.length * 8 - 1) := by
    rw [← pow_succ']
    congr 1
    omega
  unfold signed
  simp only
  generalize WaveRead.unsigned bytes = number at bound
  have halfInt : (2 : Int) ^ (bytes.length * 8) = 2 * 2 ^ (bytes.length * 8 - 1) := by
    exact_mod_cast half
  split
  · next below =>
      have belowInt : (number : Int) < 2 ^ (bytes.length * 8 - 1) := by exact_mod_cast below
      omega
  · next above =>
      have aboveInt : (2 : Int) ^ (bytes.length * 8 - 1) ≤ number := by
        exact_mod_cast not_lt.mp above
      have boundInt : (number : Int) < 2 * 2 ^ (bytes.length * 8 - 1) := by
        rw [half] at bound
        exact_mod_cast bound
      rw [halfInt]
      omega

theorem decode_bounds {width : Nat} (positive : 0 < width) {bytes : List UInt8} {sample : Int}
    (member : sample ∈ decode width bytes) :
    -(2 ^ (width * 8 - 1) : Int) ≤ sample ∧ sample ≤ 2 ^ (width * 8 - 1) - 1 := by
  unfold decode at member
  split at member
  · next one =>
      rcases List.mem_map.mp member with ⟨byte, -, rfl⟩
      have bound := byte.toNat_lt
      subst one
      norm_num
      omega
  · rcases List.mem_map.mp member with ⟨index, inRange, rfl⟩
    have within : index < bytes.length / width := List.mem_range.mp inRange
    have reach : (index + 1) * width ≤ bytes.length :=
      le_trans (Nat.mul_le_mul_right _ within) (Nat.div_mul_le_self ..)
    have length : (WaveRead.slice bytes (index * width) width).length = width := by
      rw [WaveRead.slice, List.length_take, List.length_drop]
      rw [Nat.add_mul, Nat.one_mul] at reach
      omega
    have nonempty : WaveRead.slice bytes (index * width) width ≠ [] := by
      intro nothing
      rw [nothing, List.length_nil] at length
      omega
    have bounds := signed_bounds nonempty
    rw [length] at bounds
    exact bounds

theorem decode_length (width : Nat) (bytes : List UInt8) :
    (decode width bytes).length = bytes.length / width := by
  unfold decode
  split
  · next one => rw [decodeOffset, List.length_map, one, Nat.div_one]
  · rw [decodeSigned, List.length_map, List.length_range]

/-- Parts of whole samples are decoded one after the other. -/
theorem decode_append {width : Nat} (positive : 0 < width) {left : List UInt8}
    (whole : width ∣ left.length) (right : List UInt8) :
    decode width (left ++ right) = decode width left ++ decode width right := by
  unfold decode
  split
  · exact List.map_append
  · rcases whole with ⟨count, length⟩
    have leftCount : left.length / width = count := by
      rw [length, Nat.mul_div_cancel_left _ positive]
    have total : (left ++ right).length / width = count + right.length / width := by
      rw [List.length_append, length, Nat.mul_add_div positive]
    unfold decodeSigned
    rw [total, leftCount, List.range_add, List.map_append, List.map_map]
    congr 1
    · apply List.map_congr_left
      intro index member
      have within : index < count := List.mem_range.mp member
      have reach : (index + 1) * width ≤ left.length := by
        rw [length, Nat.mul_comm width]
        exact Nat.mul_le_mul_right _ within
      rw [Nat.add_mul, Nat.one_mul] at reach
      rw [WaveRead.slice, WaveRead.slice, List.drop_append_of_le_length (by omega),
        List.take_append_of_le_length (by rw [List.length_drop]; omega)]
    · apply List.map_congr_left
      intro index _
      have start : (count + index) * width = left.length + index * width := by
        rw [length]
        ring
      have beyond : left.length + index * width - left.length = index * width := by omega
      rw [Function.comp_apply, WaveRead.slice, WaveRead.slice, start, List.drop_append,
        List.drop_eq_nil_of_le (by omega), List.nil_append, beyond]

/-! ## Frames -/

def groups {α : Type*} (size : Nat) : Nat → List α → List (List α)
  | 0, _ => []
  | count + 1, elements => elements.take size :: groups size count (elements.drop size)

theorem groups_append {α : Type*} {size count : Nat} {left : List α}
    (length : left.length = count * size) (later : Nat) (right : List α) :
    groups size (count + later) (left ++ right) =
      groups size count left ++ groups size later right := by
  induction count generalizing left with
  | zero =>
      have nothing : left = [] := by
        rw [← List.length_eq_zero_iff, length, Nat.zero_mul]
      rw [nothing, Nat.zero_add]
      rfl
  | succ count induction =>
      rw [Nat.add_mul, Nat.one_mul] at length
      have order : count + 1 + later = count + later + 1 := by omega
      rw [order, groups, groups, List.take_append_of_le_length (by omega),
        List.drop_append_of_le_length (by omega), induction (by rw [List.length_drop]; omega)]
      rfl

theorem groups_length_eq {α : Type*} {size count : Nat} {elements : List α}
    (length : elements.length = count * size) :
    ∀ group ∈ groups size count elements, group.length = size := by
  induction count generalizing elements with
  | zero =>
      intro group member
      cases member
  | succ count induction =>
      rw [Nat.add_mul, Nat.one_mul] at length
      intro group member
      rcases List.mem_cons.mp member with rfl | later
      · rw [List.length_take]
        omega
      · exact induction (by rw [List.length_drop]; omega) group later

/-- Interleaved samples, one of each channel. -/
def frames (channels width : Nat) (bytes : List UInt8) : List (List Int) :=
  groups channels (bytes.length / (channels * width)) (decode width bytes)

section

variable {channels width : Nat} {bytes : List UInt8}

theorem decode_length_frames (positive : 0 < width) (whole : channels * width ∣ bytes.length) :
    (decode width bytes).length = bytes.length / (channels * width) * channels := by
  rcases whole with ⟨count, length⟩
  rw [decode_length, length]
  by_cases silent : channels = 0
  · rw [silent, Nat.zero_mul, Nat.zero_mul, Nat.zero_div, Nat.mul_zero]
  · have some_byte : 0 < channels * width := Nat.mul_pos (Nat.pos_of_ne_zero silent) positive
    rw [Nat.mul_div_cancel_left _ some_byte, Nat.mul_comm channels, Nat.mul_assoc,
      Nat.mul_div_cancel_left _ positive, Nat.mul_comm]

theorem frames_append (positive : 0 < width) (whole : channels * width ∣ bytes.length)
    (right : List UInt8) :
    frames channels width (bytes ++ right) =
      frames channels width bytes ++ frames channels width right := by
  have samples := decode_append positive ((Nat.dvd_mul_left ..).trans whole) right
  unfold frames
  rw [samples, List.length_append, Nat.add_div_of_dvd_right whole,
    groups_append (decode_length_frames positive whole)]

theorem frames_length_eq (positive : 0 < width) (whole : channels * width ∣ bytes.length) :
    ∀ frame ∈ frames channels width bytes, frame.length = channels :=
  groups_length_eq (decode_length_frames positive whole)

end

/-! ## Tallies -/

/-- Where samples of a width clip, and what counts as silence. -/
structure Rails where
  scale : Int
  negativeClip : Int
  positiveClip : Int
  silence : ℚ
deriving DecidableEq

structure Tally where
  count : Nat
  squareSum : ℚ
  peak : ℚ
  clipped : Nat
  silent : Nat
  peakNonneg : 0 ≤ peak
deriving DecidableEq

namespace Tally

def zero : Tally where
  count := 0
  squareSum := 0
  peak := 0
  clipped := 0
  silent := 0
  peakNonneg := le_refl 0

def merge (left right : Tally) : Tally where
  count := left.count + right.count
  squareSum := left.squareSum + right.squareSum
  peak := max left.peak right.peak
  clipped := left.clipped + right.clipped
  silent := left.silent + right.silent
  peakNonneg := le_max_of_le_left left.peakNonneg

def add (rails : Rails) (tally : Tally) (sample : Int) : Tally :=
  let normalized : ℚ := sample / rails.scale
  let amplitude := |normalized|
  { count := tally.count + 1
    squareSum := tally.squareSum + normalized * normalized
    peak := max tally.peak amplitude
    clipped := tally.clipped +
      if sample ≤ rails.negativeClip ∨ rails.positiveClip ≤ sample then 1 else 0
    silent := tally.silent + if amplitude ≤ rails.silence then 1 else 0
    peakNonneg := le_max_of_le_left tally.peakNonneg }

def ofSamples (rails : Rails) (samples : List Int) : Tally :=
  samples.foldl (add rails) zero

@[simp] theorem merge_zero (tally : Tally) : tally.merge zero = tally := by
  cases tally with
  | mk count squareSum peak clipped silent peakNonneg => simp [merge, zero, peakNonneg]

@[simp] theorem zero_merge (tally : Tally) : zero.merge tally = tally := by
  cases tally with
  | mk count squareSum peak clipped silent peakNonneg => simp [merge, zero, peakNonneg]

theorem merge_assoc (first second third : Tally) :
    (first.merge second).merge third = first.merge (second.merge third) := by
  simp only [merge, add_assoc, max_assoc]

theorem add_merge (rails : Rails) (left right : Tally) (sample : Int) :
    left.merge (right.add rails sample) = (left.merge right).add rails sample := by
  simp only [merge, add, mk.injEq]
  refine ⟨?_, ?_, ?_, ?_, ?_⟩
  · omega
  · ring
  · rw [max_assoc]
  · omega
  · omega

theorem foldl_add (rails : Rails) (left right : Tally) (samples : List Int) :
    samples.foldl (add rails) (left.merge right) =
      left.merge (samples.foldl (add rails) right) := by
  induction samples generalizing right with
  | nil => rfl
  | cons sample samples induction =>
      rw [List.foldl_cons, List.foldl_cons, ← add_merge]
      exact induction (right.add rails sample)

/-- The tally of a whole from those of its parts. -/
theorem ofSamples_append (rails : Rails) (left right : List Int) :
    ofSamples rails (left ++ right) = (ofSamples rails left).merge (ofSamples rails right) := by
  unfold ofSamples
  rw [List.foldl_append, ← foldl_add, merge_zero]

theorem count_ofSamples (rails : Rails) (samples : List Int) :
    (ofSamples rails samples).count = samples.length := by
  have counted : ∀ tally : Tally,
      (samples.foldl (add rails) tally).count = tally.count + samples.length := by
    induction samples with
    | nil => exact fun _ => rfl
    | cons sample samples induction =>
        intro tally
        rw [List.foldl_cons, induction, List.length_cons]
        simp only [add]
        omega
  rw [ofSamples, counted]
  exact Nat.zero_add _

end Tally

/-- A byte string in consecutive chunks of whole samples, none of them empty. -/
structure Split (width : Nat) (bytes : List UInt8) (chunks : List (List UInt8)) : Prop where
  whole : chunks.flatten = bytes
  nonempty : ∀ chunk ∈ chunks, chunk ≠ []
  wholeSamples : ∀ chunk ∈ chunks, width ∣ chunk.length

namespace Split

variable {width : Nat} {bytes chunk : List UInt8} {chunks : List (List UInt8)}

theorem tail (split : Split width bytes (chunk :: chunks)) : Split width chunks.flatten chunks where
  whole := rfl
  nonempty other member := split.nonempty other (List.mem_cons_of_mem _ member)
  wholeSamples other member := split.wholeSamples other (List.mem_cons_of_mem _ member)

end Split

/-- Consecutive slices of one length, which the number of bytes need not be a multiple of. -/
theorem flatten_slices (bytes : List UInt8) (size count : Nat) :
    ((List.range count).map fun index => WaveRead.slice bytes (index * size) size).flatten =
      bytes.take (count * size) := by
  induction count with
  | zero => simp
  | succ count induction =>
      rw [List.range_succ, List.map_append, List.flatten_append, induction, Nat.add_mul,
        Nat.one_mul, List.take_add]
      simp [WaveRead.slice]

end Pcm

end RvcOrchestrator.Foundation

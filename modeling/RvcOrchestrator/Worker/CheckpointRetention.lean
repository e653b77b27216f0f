import Mathlib.Data.Finset.Option
import Mathlib.Data.Prod.Lex
import Mathlib.Data.String.Basic
import RvcOrchestrator.Foundation.LargestElements
import RvcOrchestrator.Foundation.Pattern

/-! # Checkpoints that are kept

A Worker uploads the checkpoints of the last epochs. It finds them in a directory, which is listed
in any order.
-/

namespace RvcOrchestrator.Worker

open RvcOrchestrator.Foundation
open Pattern

/-! ## Directories -/

inductive DirectoryEntryKind where
  | regular
  | symlink
  | other
deriving DecidableEq

structure DirectoryEntry where
  name : String
  kind : DirectoryEntryKind
deriving DecidableEq

structure DirectoryListing where
  entries : List DirectoryEntry
  nodup : (entries.map DirectoryEntry.name).Nodup

/-- A pattern of `glob` with one star. -/
structure GlobPattern where
  before : String
  after : String

def GlobPattern.accepts (pattern : GlobPattern) (name : String) : Bool :=
  pattern.before.toList.isPrefixOf name.toList &&
    pattern.after.toList.isSuffixOf (name.toList.drop pattern.before.length)

def generatorCheckpoints : GlobPattern := ⟨"G_", ".pth"⟩

def discriminatorCheckpoints : GlobPattern := ⟨"D_", ".pth"⟩

/-! ## Checkpoints -/

/-- `_CHECKPOINT_NAME` -/
def checkpointName : Pattern := all
  [one fun char => char = 'G' || char = 'D', literal "_", group "epoch" (oneOrMore Char.isDigit),
    literal ".pth"]

/-- The epoch in the name of a checkpoint. A file name has fewer digits than `int` takes. -/
def checkpointEpoch (name : String) : Option Nat :=
  ((checkpointName.ways none name.toList).find? fun way => way.rest = []).map fun way =>
    Nat.ofDigitChars 10 (way.group "epoch") 0

/-- The epoch and the name, from which the path follows. -/
abbrev CheckpointEntry := Nat ×ₗ String

def checkpointEntry (pattern : GlobPattern) (entry : DirectoryEntry) : Option CheckpointEntry :=
  if pattern.accepts entry.name && entry.kind = .regular then
    (checkpointEpoch entry.name).map fun epoch => toLex (epoch, entry.name)
  else none

/-- `_retained_checkpoints` -/
def retainedCheckpoints (heap : MinHeap CheckpointEntry) (listing : List DirectoryEntry)
    (pattern : GlobPattern) (retention : Int) : List String :=
  if retention ≤ 0 then []
  else
    let latest := listing.foldl (fun latest entry =>
      match checkpointEntry pattern entry with
      | some checkpoint => heap.keep retention.toNat latest checkpoint
      | none => latest) []
    (latest.insertionSort (· ≤ ·)).map fun entry => (ofLex entry).2

def checkpoints (entries : Finset DirectoryEntry) (pattern : GlobPattern) :
    Finset CheckpointEntry :=
  (entries.image (checkpointEntry pattern)).eraseNone

section

variable {listing : List DirectoryEntry} {pattern : GlobPattern}

theorem checkpointEntry_eq_some {entry : DirectoryEntry} {checkpoint : CheckpointEntry}
    (found : checkpointEntry pattern entry = some checkpoint) :
    checkpointEpoch entry.name = some (ofLex checkpoint).1 ∧
      entry = ⟨(ofLex checkpoint).2, .regular⟩ := by
  unfold checkpointEntry at found
  split at found
  · next accepted =>
      rcases Option.map_eq_some_iff.mp found with ⟨epoch, known, rfl⟩
      rw [Bool.and_eq_true, decide_eq_true_eq] at accepted
      rcases entry with ⟨name, kind⟩
      have regular : kind = .regular := accepted.2
      subst regular
      exact ⟨known, rfl⟩
  · cases found

theorem toFinset_checkpoints :
    (listing.filterMap (checkpointEntry pattern)).toFinset =
      checkpoints listing.toFinset pattern := by
  ext checkpoint
  simp only [checkpoints, List.mem_toFinset, List.mem_filterMap, Finset.mem_eraseNone,
    Finset.mem_image]

/-- Different checkpoints have different names. -/
theorem eq_of_sameName {first second : CheckpointEntry}
    (one : first ∈ checkpoints listing.toFinset pattern)
    (two : second ∈ checkpoints listing.toFinset pattern)
    (same : (ofLex first).2 = (ofLex second).2) : first = second := by
  simp only [checkpoints, Finset.mem_eraseNone, Finset.mem_image] at one two
  rcases one with ⟨firstEntry, -, isFirst⟩
  rcases two with ⟨secondEntry, -, isSecond⟩
  rcases checkpointEntry_eq_some isFirst with ⟨firstEpoch, rfl⟩
  rcases checkpointEntry_eq_some isSecond with ⟨secondEpoch, rfl⟩
  have epochs : some (ofLex first).1 = some (ofLex second).1 := by
    rw [← firstEpoch, ← secondEpoch, same]
  exact ofLex.injective (Prod.ext (Option.some.inj epochs) same)

theorem nodup_checkpoints (names : (listing.map DirectoryEntry.name).Nodup) :
    (listing.filterMap (checkpointEntry pattern)).Nodup := by
  refine List.Nodup.filterMap ?_ (List.Nodup.of_map _ names)
  intro first second checkpoint isFirst isSecond
  rw [(checkpointEntry_eq_some isFirst).2, (checkpointEntry_eq_some isSecond).2]

/-- The loop over the directory shows its checkpoints to the heap. -/
theorem latest_eq (heap : MinHeap CheckpointEntry) (retention : Nat) :
    listing.foldl (fun latest entry =>
        match checkpointEntry pattern entry with
        | some checkpoint => heap.keep retention latest checkpoint
        | none => latest) [] =
      heap.keepAll retention (listing.filterMap (checkpointEntry pattern)) := by
  rw [MinHeap.keepAll, List.foldl_filterMap]
  congr 1
  funext latest entry
  cases checkpointEntry pattern entry <;> rfl

end

/-- The kept checkpoints are the last ones of all checkpoints of the directory by epoch and name, in
ascending order and without repetition, however the directory is listed. -/
theorem retainedCheckpoints_newest (heap : MinHeap CheckpointEntry) (listing : DirectoryListing)
    (pattern : GlobPattern) (retention : Int) :
    let all := checkpoints listing.entries.toFinset pattern
    let kept := retainedCheckpoints heap listing.entries pattern retention
    kept = (all.sort.drop (all.card - retention.toNat)).map (fun entry => (ofLex entry).2) ∧
      kept.Nodup := by
  intro all kept
  have newest : kept =
      (all.sort.drop (all.card - retention.toNat)).map fun entry => (ofLex entry).2 := by
    change retainedCheckpoints heap listing.entries pattern retention = _
    unfold retainedCheckpoints
    split
    · next none =>
        rw [Int.toNat_of_nonpos none, Nat.sub_zero, ← Finset.length_sort (· ≤ ·), List.drop_length]
        rfl
    · have largest := Largest.keepAll heap retention.toNat
        (listing.entries.filterMap (checkpointEntry pattern))
      have sorted := largest.sort_eq_finset (nodup_checkpoints listing.nodup)
      rw [toFinset_checkpoints] at sorted
      rw [latest_eq]
      exact congrArg (List.map fun entry => (ofLex entry).2) sorted
  refine ⟨newest, ?_⟩
  rw [newest]
  apply List.Nodup.map_on
  · intro first one second two same
    have inside : ∀ {entry}, entry ∈ all.sort.drop (all.card - retention.toNat) → entry ∈ all :=
      fun member => (Finset.mem_sort _).mp (List.mem_of_mem_drop member)
    exact eq_of_sameName (inside one) (inside two) same
  · exact (Finset.sort_nodup all (· ≤ ·)).drop

example :
    retainedCheckpoints MinHeap.sorted
      [⟨"G_10.pth", .regular⟩, ⟨"G_9.pth", .regular⟩, ⟨"G_8.pth", .regular⟩, ⟨"G_11.pth", .symlink⟩]
      generatorCheckpoints 2 = ["G_9.pth", "G_10.pth"] := by decide +kernel

end RvcOrchestrator.Worker

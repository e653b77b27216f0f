import Mathlib.Data.List.Infix

/-! # Open files

A descriptor refers to a description, which has the offset of the next byte to be read. A duplicate
shares the description of the original, and a file that is opened anew has one of its own. What a
program does with descriptors of its own leaves those alone that were open before.
-/

namespace RvcOrchestrator.Foundation

structure Description (File : Type) where
  file : File
  offset : Nat
deriving DecidableEq

/-- The descriptions ever made, and which of them each descriptor refers to unless it is closed. -/
structure OpenFiles (File : Type) where
  descriptions : List (Description File)
  descriptors : List (Option Nat)
deriving DecidableEq

namespace OpenFiles

variable {File Byte : Type}

def none : OpenFiles File := ⟨[], []⟩

def place (files : OpenFiles File) (descriptor : Nat) : Option Nat :=
  files.descriptors[descriptor]?.join

def description (files : OpenFiles File) (descriptor : Nat) : Option (Description File) :=
  (files.place descriptor).bind fun place => files.descriptions[place]?

def openFile (files : OpenFiles File) (file : File) : Nat × OpenFiles File :=
  (files.descriptors.length,
    { descriptions := files.descriptions ++ [⟨file, 0⟩]
      descriptors := files.descriptors ++ [some files.descriptions.length] })

def duplicate (files : OpenFiles File) (descriptor : Nat) : Nat × OpenFiles File :=
  (files.descriptors.length,
    { files with descriptors := files.descriptors ++ [files.place descriptor] })

def seek (files : OpenFiles File) (descriptor offset : Nat) : OpenFiles File :=
  match files.place descriptor with
  | .none => files
  | some place =>
      { files with
        descriptions := files.descriptions.modify place fun description =>
          { description with offset } }

def close (files : OpenFiles File) (descriptor : Nat) : OpenFiles File :=
  { files with descriptors := files.descriptors.set descriptor .none }

def unread (content : File → List Byte) (files : OpenFiles File) (descriptor : Nat) : List Byte :=
  match files.description descriptor with
  | .none => []
  | some description => (content description.file).drop description.offset

def read (content : File → List Byte) (files : OpenFiles File) (descriptor count : Nat) :
    List Byte × OpenFiles File :=
  match files.description descriptor with
  | .none => ([], files)
  | some description =>
      let bytes := ((content description.file).drop description.offset).take count
      (bytes, files.seek descriptor (description.offset + bytes.length))

/-! ## Descriptors of one's own -/

structure Kept (before after : OpenFiles File) : Prop where
  descriptions : before.descriptions <+: after.descriptions
  descriptors : before.descriptors <+: after.descriptors

structure Own (before files : OpenFiles File) (descriptor : Nat) : Prop where
  number : before.descriptors.length ≤ descriptor
  place : ∃ place, files.place descriptor = some place ∧ before.descriptions.length ≤ place ∧
    place < files.descriptions.length

def Sound (files : OpenFiles File) : Prop :=
  ∀ place, some place ∈ files.descriptors → place < files.descriptions.length

theorem Kept.refl (files : OpenFiles File) : Kept files files :=
  ⟨List.prefix_rfl, List.prefix_rfl⟩

theorem Kept.trans {first second third : OpenFiles File} (early : Kept first second)
    (late : Kept second third) : Kept first third :=
  ⟨early.descriptions.trans late.descriptions, early.descriptors.trans late.descriptors⟩

theorem sound_none : (none : OpenFiles File).Sound := by
  intro place member
  cases member

theorem place_lt {files : OpenFiles File} (sound : files.Sound) {descriptor place : Nat}
    (refers : files.place descriptor = some place) : place < files.descriptions.length := by
  apply sound
  rw [OpenFiles.place, Option.join_eq_some_iff] at refers
  exact List.mem_of_getElem? refers

section

variable {before after files : OpenFiles File} {descriptor : Nat}

theorem Kept.place_eq (kept : Kept before after)
    (early : descriptor < before.descriptors.length) :
    after.place descriptor = before.place descriptor := by
  rcases kept.descriptors with ⟨later, equal⟩
  rw [OpenFiles.place, OpenFiles.place, ← equal, List.getElem?_append_left early]

theorem place_eq_none (late : files.descriptors.length ≤ descriptor) :
    files.place descriptor = .none := by
  rw [OpenFiles.place, List.getElem?_eq_none late]
  rfl

theorem Kept.description_eq (kept : Kept before after) (sound : before.Sound)
    {description : Description File} (opened : before.description descriptor = some description) :
    after.description descriptor = some description := by
  rcases Option.bind_eq_some_iff.mp opened with ⟨place, refers, found⟩
  have early : descriptor < before.descriptors.length := by
    by_contra late
    rw [place_eq_none (Nat.le_of_not_lt late)] at refers
    cases refers
  rcases kept.descriptions with ⟨later, equal⟩
  rw [OpenFiles.description, kept.place_eq early, refers, Option.bind_some, ← equal,
    List.getElem?_append_left (place_lt sound refers)]
  exact found

/-- It stays one's own while other files are opened and closed. -/
theorem Own.later (own : Own before files descriptor) (kept : Kept files after) :
    Own before after descriptor := by
  rcases own.place with ⟨place, refers, late, exists_⟩
  have early : descriptor < files.descriptors.length := by
    by_contra past
    rw [place_eq_none (Nat.le_of_not_lt past)] at refers
    cases refers
  exact ⟨own.number, place, (kept.place_eq early).trans refers, late,
    exists_.trans_le kept.descriptions.length_le⟩

/-! ### Opening -/

theorem place_openFile (file : File) :
    (files.openFile file).2.place files.descriptors.length = some files.descriptions.length := by
  rw [OpenFiles.place, openFile, List.getElem?_concat_length]
  rfl

theorem description_openFile (file : File) :
    (files.openFile file).2.description files.descriptors.length = some ⟨file, 0⟩ := by
  rw [OpenFiles.description, place_openFile, Option.bind_some]
  exact List.getElem?_concat_length

theorem kept_openFile (files : OpenFiles File) (file : File) :
    Kept files (files.openFile file).2 :=
  ⟨List.prefix_append _ _, List.prefix_append _ _⟩

theorem own_openFile (files : OpenFiles File) (file : File) :
    Own files (files.openFile file).2 files.descriptors.length := by
  refine ⟨le_rfl, files.descriptions.length, place_openFile file, le_rfl, ?_⟩
  rw [openFile, List.length_append]
  exact Nat.lt_succ_self _

theorem sound_openFile (sound : files.Sound) (file : File) : (files.openFile file).2.Sound := by
  intro place member
  rw [openFile, List.length_append]
  rcases List.mem_append.mp member with old | new
  · exact Nat.lt_succ_of_lt (sound place old)
  · rw [Option.some.inj (List.mem_singleton.mp new)]
    exact Nat.lt_succ_self _

/-! ### Duplicating -/

theorem place_duplicate :
    (files.duplicate descriptor).2.place files.descriptors.length = files.place descriptor := by
  rw [OpenFiles.place, duplicate, List.getElem?_concat_length]
  rfl

theorem kept_duplicate (files : OpenFiles File) (descriptor : Nat) :
    Kept files (files.duplicate descriptor).2 :=
  ⟨List.prefix_rfl, List.prefix_append _ _⟩

theorem own_duplicate (kept : Kept before files) (own : Own before files descriptor) :
    Own before (files.duplicate descriptor).2 files.descriptors.length := by
  rcases own.place with ⟨place, refers, late, exists_⟩
  exact ⟨kept.descriptors.length_le, place, place_duplicate.trans refers, late, exists_⟩

theorem description_duplicate :
    (files.duplicate descriptor).2.description files.descriptors.length =
      files.description descriptor := by
  rw [OpenFiles.description, place_duplicate]
  rfl

theorem sound_duplicate (sound : files.Sound) (descriptor : Nat) :
    (files.duplicate descriptor).2.Sound := by
  intro place member
  rcases List.mem_append.mp member with old | new
  · exact sound place old
  · exact place_lt sound (List.mem_singleton.mp new).symm

/-! ### Seeking -/

theorem place_seek (files : OpenFiles File) (descriptor offset other : Nat) :
    (files.seek descriptor offset).place other = files.place other := by
  unfold seek
  split <;> rfl

theorem length_seek (files : OpenFiles File) (descriptor offset : Nat) :
    (files.seek descriptor offset).descriptions.length = files.descriptions.length := by
  unfold seek
  split
  · rfl
  · exact List.length_modify _ _ _

theorem Own.seek (own : Own before files descriptor) (other offset : Nat) :
    Own before (files.seek other offset) descriptor := by
  rcases own.place with ⟨place, refers, late, exists_⟩
  exact ⟨own.number, place, (place_seek files other offset descriptor).trans refers, late,
    (length_seek files other offset).symm ▸ exists_⟩

theorem kept_seek (kept : Kept before files) (own : Own before files descriptor) (offset : Nat) :
    Kept before (files.seek descriptor offset) := by
  rcases own.place with ⟨place, refers, late, _⟩
  have unchanged : before.descriptions = (files.descriptions.modify place fun description =>
      { description with offset }).take before.descriptions.length := by
    rw [List.take_modify, List.modify_eq_self]
    · exact List.prefix_iff_eq_take.mp kept.descriptions
    · exact (List.length_take_le _ _).trans late
  rw [OpenFiles.seek, refers]
  exact ⟨List.prefix_iff_eq_take.mpr unchanged, kept.descriptors⟩

theorem sound_seek (sound : files.Sound) (descriptor offset : Nat) :
    (files.seek descriptor offset).Sound := by
  intro place member
  rw [length_seek]
  apply sound
  unfold OpenFiles.seek at member
  split at member <;> exact member

theorem description_seek {description : Description File}
    (opened : files.description descriptor = some description) (offset : Nat) :
    (files.seek descriptor offset).description descriptor = some { description with offset } := by
  rcases Option.bind_eq_some_iff.mp opened with ⟨place, refers, found⟩
  rw [OpenFiles.description, place_seek, refers, Option.bind_some, OpenFiles.seek, refers]
  simp only
  rw [List.getElem?_modify_eq, found]
  rfl

/-! ### Closing -/

theorem kept_close (kept : Kept before files) (late : before.descriptors.length ≤ descriptor) :
    Kept before (files.close descriptor) := by
  rcases kept.descriptors with ⟨later, equal⟩
  apply Kept.mk
  · exact kept.descriptions
  · rw [OpenFiles.close, ← equal, List.set_append_right _ _ late]
    exact List.prefix_append _ _

theorem sound_close (sound : files.Sound) (descriptor : Nat) : (files.close descriptor).Sound := by
  intro place member
  rcases List.mem_or_eq_of_mem_set member with old | new
  · exact sound place old
  · cases new

end

end OpenFiles

end RvcOrchestrator.Foundation

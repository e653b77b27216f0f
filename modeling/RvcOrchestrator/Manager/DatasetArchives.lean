import Mathlib.Data.String.Basic
import RvcOrchestrator.Foundation.FileTree
import RvcOrchestrator.Manager.DatasetLoudness

/-! # Dataset archives

The members of an uploaded ZIP archive, the checks they all have to pass before any of them
is read, and the order they are read in.
-/

namespace RvcOrchestrator.Manager

open RvcOrchestrator.Foundation

/-! ## Members -/

inductive Fault where
  | os
  /-- `BadZipFile`, `LargeZipFile`, `NotImplementedError` or `RuntimeError`. -/
  | archive
  /-- `EOFError`, `ValueError`, `struct.error` or `wave.Error`. -/
  | data
  | other
deriving DecidableEq

/-- The sizes are unsigned fields of the format. -/
structure ZipInfo where
  filename : String
  flagBits : Nat
  compressType : Nat
  fileSize : Nat
  compressSize : Nat
  externalAttr : Nat
deriving DecidableEq

def ZipInfo.isDir (info : ZipInfo) : Bool := info.filename.toList.getLast? = some '/'

structure ByteStream where
  /-- Raised when it is opened. -/
  opening : Option Fault
  /-- The chunks of the given size, and what is raised after them. -/
  chunks : Nat → List (List UInt8) × Option Fault

structure ZipMember where
  info : ZipInfo
  stream : ByteStream

/-- `unicodedata.normalize` to NFC, and `str.casefold`. -/
structure UnicodeText where
  nfc : String → String
  casefold : String → String

structure ArchiveMember where
  member : ZipMember
  normalizedPath : String

/-! ## Names -/

def unsafeArchive (message : String) : IngestionException := .ingestion .unsafeArchive message

def limitExceeded (message : String) : IngestionException :=
  .ingestion .datasetLimitExceeded message

def isAsciiLetter (letter : Char) : Bool :=
  'A' ≤ letter && letter ≤ 'Z' || 'a' ≤ letter && letter ≤ 'z'

/-- The pattern `^[A-Za-z]:($|/)`. -/
def hasDrive : List Char → Bool
  | letter :: ':' :: rest => isAsciiLetter letter && (rest = [] || rest = ['\n'] || rest.head? = some '/')
  | _ => false

section

variable (unicode : UnicodeText)

def safeMemberPath (rawName : String) : Except IngestionException String :=
  if rawName = "" ∨ '\x00' ∈ rawName.toList then
    .error (unsafeArchive "ZIP member name is empty or contains NUL")
  else if '\\' ∈ rawName.toList then
    .error (unsafeArchive "ZIP member paths may not contain backslashes")
  else if rawName.toList.head? = some '/' ∨ hasDrive rawName.toList = true then
    .error (unsafeArchive "ZIP member path must be relative")
  else if ".." ∈ pathComponents rawName then
    .error (unsafeArchive "ZIP member path traversal is not accepted")
  else
    let parts := (pathComponents rawName).map unicode.nfc
    if parts = [] then .error (unsafeArchive "ZIP member path has no usable components")
    else
      .ok ("/".intercalate parts ++ if rawName.toList.getLast? = some '/' then "/" else "")

inductive SkipReason where
  | hidden
  | macosMetadata
  | nonAudio
deriving DecidableEq

def skipReason (memberPath : String) : Option SkipReason :=
  let parts := pathComponents memberPath
  let folded := parts.map unicode.casefold
  if "__macosx" ∈ folded ∨ ".ds_store" ∈ folded ∨ parts.any (fun part => part.startsWith "._") then
    some .macosMetadata
  else if parts.any fun part => part.startsWith "." then some .hidden
  else none

/-- `PurePosixPath(...).suffix`. -/
def pathSuffix (path : String) : String :=
  let name := ((pathComponents path).getLast?.getD "").toList
  let ending := (name.reverse.takeWhile fun letter => letter ≠ '.').reverse
  if ending = [] ∨ name.length ≤ ending.length + 1 then "" else String.ofList ('.' :: ending)

/-- No letter of the supported extensions is the lower case of one outside ASCII. -/
def lowered (text : String) : String := String.ofList (text.toList.map Char.toLower)

def supportedAudioExtensions : List AudioExtension := [.wav, .flac, .mp3, .m4a, .ogg, .aac]

def audioExtension (path : String) : Option AudioExtension :=
  supportedAudioExtensions.find? fun extension => extension.text = lowered (pathSuffix path)

/-! ## Checks -/

def supportedZipCompression : List Nat := [0, 8, 12, 14]

/-- `stat.S_IFMT(external_attr >> 16)`. -/
def ZipInfo.fileType (info : ZipInfo) : Nat := (info.externalAttr >>> 16) &&& 0o170000

def validateMemberType (info : ZipInfo) : Except IngestionException Unit :=
  if info.isDir then
    if info.fileType ∉ [0, 0o040000] then
      .error (unsafeArchive "ZIP directory member has a special file type")
    else .ok ()
  else if info.fileType ∉ [0, 0o100000] then
    .error (unsafeArchive "ZIP symlink and special-file members are not accepted")
  else .ok ()

/-- The ratio is a double, and infinite for something made of nothing. -/
def exceedsCompressionRatio (uncompressed compressed : Nat) (limit : PyFloat) : Bool :=
  if uncompressed = 0 then decide (limit.value < 0)
  else if compressed = 0 then true
  else decide (limit.value < PyFloat.nearestDouble uncompressed compressed)

/-- The double next to 33 / 10 is the one that 3.3 stands for. -/
example : exceedsCompressionRatio 33 10 ⟨false, 33, -1, .inr (by decide)⟩ = false := by
  decide +kernel

def checkMember (limits : IngestionLimits) (info : ZipInfo) (totalUncompressed : Nat) :
    Except IngestionException Nat :=
  match validateMemberType info with
  | .error error => .error error
  | .ok () =>
      if info.flagBits &&& 1 ≠ 0 then
        .error (unsafeArchive "encrypted ZIP members are not accepted")
      else if info.compressType ∉ supportedZipCompression then
        .error (unsafeArchive "ZIP member uses unsupported compression")
      else if info.isDir then .ok totalUncompressed
      else if limits.maxFileUncompressedBytes < info.fileSize then
        .error (limitExceeded "archive member exceeds max_file_uncompressed_bytes")
      else if limits.maxTotalUncompressedBytes < totalUncompressed + info.fileSize then
        .error (limitExceeded "archive exceeds max_total_uncompressed_bytes")
      else if exceedsCompressionRatio info.fileSize info.compressSize limits.maxCompressionRatio then
        .error (limitExceeded "archive member exceeds max_compression_ratio")
      else .ok (totalUncompressed + info.fileSize)

def foldedPath (normalizedPath : String) : String := unicode.casefold (unicode.nfc normalizedPath)

def collectMembers (limits : IngestionLimits) :
    List ZipMember → Nat → List String → Except IngestionException (List ArchiveMember)
  | [], _, _ => .ok []
  | member :: members, totalUncompressed, seenNames =>
      match safeMemberPath unicode member.info.filename with
      | .error error => .error error
      | .ok normalizedPath =>
          let duplicateKey := foldedPath unicode normalizedPath
          if duplicateKey ∈ seenNames then
            .error (unsafeArchive "archive contains duplicate member paths")
          else
            match checkMember limits member.info totalUncompressed with
            | .error error => .error error
            | .ok totalUncompressed =>
                (collectMembers limits members totalUncompressed (duplicateKey :: seenNames)).map
                  fun rest => { member, normalizedPath } :: rest

def memberOrder (left right : ArchiveMember) : Bool :=
  let leftKey := foldedPath unicode left.normalizedPath
  let rightKey := foldedPath unicode right.normalizedPath
  leftKey < rightKey || leftKey = rightKey && left.normalizedPath ≤ right.normalizedPath

def validateArchiveMembers (limits : IngestionLimits) (infos : List ZipMember) :
    Except IngestionException (List ArchiveMember) :=
  if limits.maxEntries < infos.length then .error (limitExceeded "archive exceeds max_entries")
  else (collectMembers unicode limits infos 0 []).map fun members => members.mergeSort (memberOrder unicode)

end

/-! ## What is accepted -/

/-- The checks of one member that do not depend on the others. -/
structure MemberAccepted (limits : IngestionLimits) (info : ZipInfo) : Prop where
  fileType : validateMemberType info = .ok ()
  plain : info.flagBits &&& 1 = 0
  compression : info.compressType ∈ supportedZipCompression
  size : info.isDir = false → info.fileSize ≤ limits.maxFileUncompressedBytes
  ratio : info.isDir = false →
    exceedsCompressionRatio info.fileSize info.compressSize limits.maxCompressionRatio = false

def ZipInfo.countedSize (info : ZipInfo) : Nat := if info.isDir then 0 else info.fileSize

section

variable {unicode : UnicodeText} {limits : IngestionLimits} {info : ZipInfo} {total : Nat}

theorem checkMember_eq_ok_iff {after : Nat} (within : total ≤ limits.maxTotalUncompressedBytes) :
    checkMember limits info total = .ok after ↔
      MemberAccepted limits info ∧ after = total + info.countedSize ∧
        after ≤ limits.maxTotalUncompressedBytes := by
  unfold checkMember ZipInfo.countedSize
  constructor
  · intro accepted
    split at accepted
    · cases accepted
    · next fileType =>
        split at accepted
        · cases accepted
        · next plain =>
            split at accepted
            · cases accepted
            · next compression =>
                split at accepted
                · next directory =>
                    cases accepted
                    refine ⟨⟨fileType, not_not.mp plain, not_not.mp compression, ?_, ?_⟩, ?_, within⟩
                    · intro notDirectory
                      rw [directory] at notDirectory
                      cases notDirectory
                    · intro notDirectory
                      rw [directory] at notDirectory
                      cases notDirectory
                    · rw [if_pos directory, Nat.add_zero]
                · next notDirectory =>
                    split at accepted
                    · cases accepted
                    · next size =>
                        split at accepted
                        · cases accepted
                        · next sum =>
                            split at accepted
                            · cases accepted
                            · next ratio =>
                                cases accepted
                                refine ⟨⟨fileType, not_not.mp plain, not_not.mp compression,
                                  fun _ => not_lt.mp size, fun _ => by simpa using ratio⟩, ?_,
                                  not_lt.mp sum⟩
                                rw [if_neg notDirectory]
  · rintro ⟨accepted, rfl, atMost⟩
    rw [accepted.fileType]
    simp only [accepted.plain, accepted.compression, ne_eq, not_true_eq_false, if_false]
    cases directory : info.isDir with
    | true => simp
    | false =>
        simp only [directory, Bool.false_eq_true, if_false] at atMost ⊢
        rw [if_neg (not_lt.mpr (accepted.size directory)), if_neg (not_lt.mpr atMost),
          accepted.ratio directory]
        rfl

def describedMember (unicode : UnicodeText) (member : ZipMember) : ArchiveMember where
  member := member
  normalizedPath := (safeMemberPath unicode member.info.filename).toOption.getD ""

def memberKey (unicode : UnicodeText) (member : ZipMember) : String :=
  foldedPath unicode (describedMember unicode member).normalizedPath

structure MembersAccepted (unicode : UnicodeText) (limits : IngestionLimits)
    (members : List ZipMember) (total : Nat) (seenNames : List String) : Prop where
  named : ∀ member ∈ members, ∃ path, safeMemberPath unicode member.info.filename = .ok path
  each : ∀ member ∈ members, MemberAccepted limits member.info
  distinct : (members.map (memberKey unicode)).Nodup
  fresh : ∀ member ∈ members, memberKey unicode member ∉ seenNames
  sum : total + (members.map fun member => member.info.countedSize).sum ≤
    limits.maxTotalUncompressedBytes

theorem collectMembers_eq_ok_iff {members : List ZipMember} {seenNames : List String}
    {collected : List ArchiveMember} (within : total ≤ limits.maxTotalUncompressedBytes) :
    collectMembers unicode limits members total seenNames = .ok collected ↔
      MembersAccepted unicode limits members total seenNames ∧
        collected = members.map (describedMember unicode) := by
  induction members generalizing total seenNames collected with
  | nil =>
      constructor
      · intro accepted
        cases accepted
        refine ⟨⟨?_, ?_, List.nodup_nil, ?_, by simpa using within⟩, rfl⟩
        all_goals simp
      · rintro ⟨-, rfl⟩
        rfl
  | cons member members induction =>
      have keyOf : ∀ {path}, safeMemberPath unicode member.info.filename = .ok path →
          (describedMember unicode member).normalizedPath = path ∧
            memberKey unicode member = foldedPath unicode path := by
        intro path safe
        have described : (describedMember unicode member).normalizedPath = path := by
          simp [describedMember, safe, Except.toOption]
        exact ⟨described, by rw [memberKey, described]⟩
      constructor
      · intro accepted
        unfold collectMembers at accepted
        split at accepted
        · cases accepted
        · next path safe =>
            rcases keyOf safe with ⟨described, key⟩
            simp only at accepted
            split at accepted
            · cases accepted
            · next unseen =>
                split at accepted
                · cases accepted
                · next after checked =>
                    rcases (checkMember_eq_ok_iff within).mp checked with ⟨own, rfl, atMost⟩
                    cases rest : collectMembers unicode limits members (total + member.info.countedSize)
                        (foldedPath unicode path :: seenNames) with
                    | error error =>
                        rw [rest] at accepted
                        cases accepted
                    | ok others =>
                        rw [rest] at accepted
                        cases accepted
                        rcases (induction atMost).mp rest with ⟨others, rfl⟩
                        refine ⟨⟨?_, ?_, ?_, ?_, ?_⟩, ?_⟩
                        · exact List.forall_mem_cons.mpr ⟨⟨path, safe⟩, others.named⟩
                        · exact List.forall_mem_cons.mpr ⟨own, others.each⟩
                        · rw [List.map_cons, List.nodup_cons]
                          refine ⟨?_, others.distinct⟩
                          intro again
                          rcases List.mem_map.mp again with ⟨other, otherMember, same⟩
                          refine others.fresh other otherMember ?_
                          rw [same, key]
                          exact List.mem_cons_self
                        · intro other otherMember seen
                          rcases List.mem_cons.mp otherMember with rfl | later
                          · exact unseen (key ▸ seen)
                          · exact others.fresh other later (List.mem_cons_of_mem _ seen)
                        · rw [List.map_cons, List.sum_cons, ← Nat.add_assoc]
                          exact others.sum
                        · rw [List.map_cons, ← described]
                          rfl
      · rintro ⟨accepted, rfl⟩
        rcases accepted.named member List.mem_cons_self with ⟨path, safe⟩
        rcases keyOf safe with ⟨described, key⟩
        have unseen : foldedPath unicode path ∉ seenNames :=
          key ▸ accepted.fresh member List.mem_cons_self
        have sum := accepted.sum
        rw [List.map_cons, List.sum_cons, ← Nat.add_assoc] at sum
        have atMost : total + member.info.countedSize ≤ limits.maxTotalUncompressedBytes := by omega
        have checked : checkMember limits member.info total =
            .ok (total + member.info.countedSize) :=
          (checkMember_eq_ok_iff within).mpr
            ⟨accepted.each member List.mem_cons_self, rfl, atMost⟩
        have distinct := accepted.distinct
        rw [List.map_cons, List.nodup_cons] at distinct
        have others : MembersAccepted unicode limits members (total + member.info.countedSize)
            (foldedPath unicode path :: seenNames) := by
          refine ⟨?_, ?_, distinct.2, ?_, sum⟩
          · exact fun other otherMember => accepted.named other (List.mem_cons_of_mem _ otherMember)
          · exact fun other otherMember => accepted.each other (List.mem_cons_of_mem _ otherMember)
          · intro other otherMember seen
            rcases List.mem_cons.mp seen with same | earlier
            · exact distinct.1 (List.mem_map.mpr ⟨other, otherMember, same.trans key.symm⟩)
            · exact accepted.fresh other (List.mem_cons_of_mem _ otherMember) earlier
        unfold collectMembers
        rw [safe]
        simp only [if_neg unseen, checked, (induction atMost).mpr ⟨others, rfl⟩]
        rw [List.map_cons, ← described]
        rfl

/-! ## Any order -/

theorem MembersAccepted.perm {members others : List ZipMember} {seenNames : List String}
    (accepted : MembersAccepted unicode limits members total seenNames)
    (reordered : members.Perm others) :
    MembersAccepted unicode limits others total seenNames where
  named member inOthers := accepted.named member (reordered.mem_iff.mpr inOthers)
  each member inOthers := accepted.each member (reordered.mem_iff.mpr inOthers)
  distinct := (reordered.map _).nodup_iff.mp accepted.distinct
  fresh member inOthers := accepted.fresh member (reordered.mem_iff.mpr inOthers)
  sum := (reordered.map fun member => member.info.countedSize).sum_eq ▸ accepted.sum

theorem memberOrder_iff {left right : ArchiveMember} :
    memberOrder unicode left right = true ↔
      foldedPath unicode left.normalizedPath < foldedPath unicode right.normalizedPath ∨
        foldedPath unicode left.normalizedPath = foldedPath unicode right.normalizedPath ∧
          left.normalizedPath ≤ right.normalizedPath := by
  simp [memberOrder]

theorem memberOrder_trans (first second third : ArchiveMember)
    (left : memberOrder unicode first second = true)
    (right : memberOrder unicode second third = true) : memberOrder unicode first third = true := by
  rw [memberOrder_iff] at left right ⊢
  rcases left with before | ⟨same, atMost⟩
  · rcases right with further | ⟨equal, -⟩
    · exact .inl (before.trans further)
    · exact .inl (equal ▸ before)
  · rcases right with further | ⟨equal, within⟩
    · exact .inl (same ▸ further)
    · exact .inr ⟨same.trans equal, atMost.trans within⟩

theorem memberOrder_total (left right : ArchiveMember) :
    (memberOrder unicode left right || memberOrder unicode right left) = true := by
  rw [Bool.or_eq_true, memberOrder_iff, memberOrder_iff]
  rcases lt_trichotomy (foldedPath unicode left.normalizedPath)
    (foldedPath unicode right.normalizedPath) with before | same | after
  · exact .inl (.inl before)
  · rcases le_total left.normalizedPath right.normalizedPath with atMost | atLeast
    · exact .inl (.inr ⟨same, atMost⟩)
    · exact .inr (.inr ⟨same.symm, atLeast⟩)
  · exact .inr (.inl after)

/-- Members with different keys have one sorted order. -/
theorem mergeSort_of_perm {members others : List ArchiveMember} (reordered : members.Perm others)
    (distinct : (members.map fun member => foldedPath unicode member.normalizedPath).Nodup) :
    members.mergeSort (memberOrder unicode) = others.mergeSort (memberOrder unicode) := by
  have sorted : ∀ list : List ArchiveMember,
      (list.mergeSort (memberOrder unicode)).Pairwise fun left right => memberOrder unicode left right :=
    List.pairwise_mergeSort memberOrder_trans memberOrder_total
  have permuted : (members.mergeSort (memberOrder unicode)).Perm
      (others.mergeSort (memberOrder unicode)) :=
    (members.mergeSort_perm _).trans (reordered.trans (others.mergeSort_perm _).symm)
  refine permuted.eq_of_pairwise ?_ (sorted members) (sorted others)
  intro left right leftMember rightMember before after
  have inMembers : left ∈ members ∧ right ∈ members :=
    ⟨(members.mergeSort_perm _).mem_iff.mp leftMember,
      reordered.mem_iff.mpr ((others.mergeSort_perm _).mem_iff.mp rightMember)⟩
  apply List.inj_on_of_nodup_map distinct inMembers.1 inMembers.2
  rw [memberOrder_iff] at before after
  rcases before with less | ⟨same, -⟩
  · rcases after with more | ⟨equal, -⟩
    · exact absurd (less.trans more) (lt_irrefl _)
    · exact equal.symm
  · exact same

/-- Both orders of the members are accepted with one result, or both are refused. -/
theorem validateArchiveMembers_of_perm {members others : List ZipMember}
    (reordered : members.Perm others) :
    (∃ accepted, validateArchiveMembers unicode limits members = .ok accepted ∧
        validateArchiveMembers unicode limits others = .ok accepted) ∨
      ∃ error other, validateArchiveMembers unicode limits members = .error error ∧
        validateArchiveMembers unicode limits others = .error other := by
  have nothing : 0 ≤ limits.maxTotalUncompressedBytes := Nat.zero_le _
  unfold validateArchiveMembers
  rw [reordered.length_eq]
  split
  · exact .inr ⟨_, _, rfl, rfl⟩
  · cases collected : collectMembers unicode limits members 0 [] with
    | ok found =>
        rcases (collectMembers_eq_ok_iff nothing).mp collected with ⟨accepted, rfl⟩
        rw [(collectMembers_eq_ok_iff nothing).mpr ⟨accepted.perm reordered, rfl⟩]
        refine .inl ⟨_, rfl, ?_⟩
        rw [Except.map, ← mergeSort_of_perm (reordered.map (describedMember unicode))]
        rw [List.map_map]
        exact accepted.distinct
    | error error =>
        cases again : collectMembers unicode limits others 0 [] with
        | error other => exact .inr ⟨error, other, rfl, rfl⟩
        | ok found =>
            rcases (collectMembers_eq_ok_iff nothing).mp again with ⟨accepted, -⟩
            rw [(collectMembers_eq_ok_iff nothing).mpr
              ⟨accepted.perm reordered.symm, rfl⟩] at collected
            cases collected

end

/-- Which archives are accepted: every member by itself has a safe path and is within its limits,
no two have the same path in either case, and together they are within the limits of the whole. -/
theorem validateArchiveMembers_eq_ok_iff (unicode : UnicodeText) (limits : IngestionLimits)
    (members : List ZipMember) (accepted : List ArchiveMember) :
    validateArchiveMembers unicode limits members = .ok accepted ↔
      members.length ≤ limits.maxEntries ∧
        (∀ member ∈ members, MemberAccepted limits member.info ∧
          ∃ path, safeMemberPath unicode member.info.filename = .ok path) ∧
        (members.map (memberKey unicode)).Nodup ∧
        (members.map fun member => member.info.countedSize).sum ≤
          limits.maxTotalUncompressedBytes ∧
        accepted = (members.map (describedMember unicode)).mergeSort (memberOrder unicode) := by
  have nothing : 0 ≤ limits.maxTotalUncompressedBytes := Nat.zero_le _
  unfold validateArchiveMembers
  constructor
  · intro validated
    split at validated
    · cases validated
    · next enough =>
        cases collected : collectMembers unicode limits members 0 [] with
        | error error =>
            rw [collected] at validated
            cases validated
        | ok found =>
            rw [collected] at validated
            cases validated
            rcases (collectMembers_eq_ok_iff nothing).mp collected with ⟨all, rfl⟩
            refine ⟨Nat.not_lt.mp enough, ?_, all.distinct, by simpa using all.sum, rfl⟩
            exact fun member listed => ⟨all.each member listed, all.named member listed⟩
  · rintro ⟨enough, each, distinct, sum, rfl⟩
    have all : MembersAccepted unicode limits members 0 [] :=
      { named := fun member listed => (each member listed).2
        each := fun member listed => (each member listed).1
        distinct := distinct
        fresh := fun member listed => List.not_mem_nil
        sum := by simpa using sum }
    rw [if_neg (Nat.not_lt.mpr enough), (collectMembers_eq_ok_iff nothing).mpr ⟨all, rfl⟩]
    rfl

end RvcOrchestrator.Manager

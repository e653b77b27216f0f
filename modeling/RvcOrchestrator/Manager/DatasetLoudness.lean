import RvcOrchestrator.Manager.WavInspection

/-! # The loudness of a dataset

The blocks of all files pass one gate in two stages. The first pass over the files has counted
those above the absolute gate, the second counts those above the final one.
-/

namespace RvcOrchestrator.Manager

open RvcOrchestrator.Foundation

/-! ## Errors -/

inductive IngestionErrorCode where
  | unsafePath
  | unsafeArchive
  | datasetLimitExceeded
  | unsupportedInput
  | destinationExists
  | publishConflict
  | invalidWav
  | noUsableAudio
deriving DecidableEq

inductive IngestionException where
  | ingestion (code : IngestionErrorCode) (message : String)
  | valueError (message : String)
  /-- Of the operating system, at any of its calls. -/
  | osError
deriving DecidableEq

/-! ## The files of a manifest -/

inductive AudioExtension where
  | wav
  | flac
  | mp3
  | m4a
  | ogg
  | aac
deriving DecidableEq

def AudioExtension.text : AudioExtension → String
  | .wav => ".wav"
  | .flac => ".flac"
  | .mp3 => ".mp3"
  | .m4a => ".m4a"
  | .ogg => ".ogg"
  | .aac => ".aac"

/-- A place in `prepared_flat`. -/
structure CanonicalPath where
  sequence : Nat
  extension : AudioExtension
deriving DecidableEq

/-- At least six digits. -/
def paddedSequence (sequence : Nat) : String :=
  "".pushn '0' (6 - (toString sequence).length) ++ toString sequence

def CanonicalPath.name (path : CanonicalPath) : String :=
  paddedSequence path.sequence ++ path.extension.text

def CanonicalPath.text (path : CanonicalPath) : String := "prepared_flat/" ++ path.name

structure ManifestFile where
  sequence : Nat
  canonicalPath : CanonicalPath
  sourcePath : String
  extension : AudioExtension
  sizeBytes : Nat
  sha256 : String
  inspection : AudioInspection
deriving DecidableEq

/-! ## The aggregate -/

/-- The names and parameters of the algorithm are constants. -/
structure PcmLoudnessAggregate where
  analyzedFileCount : Nat
  blockCount : Nat
  gatedBlockCount : Nat
  integratedLufs : Option ℚ
  unavailableReason : Option LoudnessUnavailableReason
deriving DecidableEq

def loudnessMaxBlockCount : Nat := 9007199254740991

/-- `__post_init__`. -/
def PcmLoudnessAggregate.checked (aggregate : PcmLoudnessAggregate) :
    Except IngestionException PcmLoudnessAggregate :=
  if 10000 < aggregate.analyzedFileCount ∨ loudnessMaxBlockCount < aggregate.blockCount ∨
      loudnessMaxBlockCount < aggregate.gatedBlockCount ∨
      aggregate.blockCount < aggregate.gatedBlockCount then
    .error (.valueError "PCM loudness counts are invalid")
  else
    match aggregate.integratedLufs with
    | none =>
        if aggregate.unavailableReason = none ∨ aggregate.gatedBlockCount ≠ 0 then
          .error (.valueError
            "unavailable PCM loudness must include a reason and no gated blocks")
        else .ok aggregate
    | some lufs =>
        if aggregate.unavailableReason ≠ none ∨ aggregate.gatedBlockCount = 0 ∨ lufs < -70 ∨
            10 < lufs then
          .error (.valueError "integrated PCM loudness is invalid")
        else .ok aggregate

def unavailablePcmLoudness (reason : LoudnessUnavailableReason)
    (analyzedFileCount blockCount : Nat) : Except IngestionException PcmLoudnessAggregate :=
  PcmLoudnessAggregate.checked
    { analyzedFileCount
      blockCount
      gatedBlockCount := 0
      integratedLufs := none
      unavailableReason := some reason }

def AudioInspection.evidence : AudioInspection → Option PcmAggregateEvidence
  | .decoderPending => none
  | .validatedPcm pcm => some pcm.evidence

def aggregateEvidence (files : List ManifestFile) : List PcmAggregateEvidence :=
  files.filterMap fun entry => entry.inspection.evidence

section

variable (arithmetic : LoudnessArithmetic)

def secondLoudnessPass (flat : String → Option (List UInt8)) (finalGateLufs : ℚ) :
    List ManifestFile → Except IngestionException (List PcmLoudnessScan)
  | [] => .ok []
  | entry :: files =>
      match entry.inspection with
      | .decoderPending => secondLoudnessPass flat finalGateLufs files
      | .validatedPcm pcm =>
          match flat entry.canonicalPath.name with
          | none =>
              .error (.ingestion .unsafePath
                "source could not be opened without following symlinks")
          | some bytes =>
              match scanPcmWavLoudness arithmetic bytes pcm finalGateLufs with
              | .error message => .error (.ingestion .invalidWav message)
              | .ok scan =>
                  if scan.blockCount ≠ pcm.evidence.loudness.blockCount then
                    .error (.ingestion .invalidWav
                      "loudness block count changed between analysis passes")
                  else
                    match secondLoudnessPass flat finalGateLufs files with
                    | .error error => .error error
                    | .ok scans => .ok (scan :: scans)

def buildPcmLoudness (flat : String → Option (List UInt8)) (files : List ManifestFile)
    (evidence : List PcmAggregateEvidence) : Except IngestionException PcmLoudnessAggregate :=
  let unavailable := evidence.filterMap fun item => item.loudness.unavailableReason
  if unavailable ≠ [] then
    unavailablePcmLoudness
      (if .unsupportedChannelLayout ∈ unavailable then .unsupportedChannelLayout
        else .unsupportedSampleRate) 0 0
  else
    let blockCount := (evidence.map fun item => item.loudness.blockCount).sum
    if blockCount = 0 then unavailablePcmLoudness .insufficientDuration evidence.length 0
    else
      let absoluteGatedCount := (evidence.map fun item => item.loudness.gatedBlockCount).sum
      if absoluteGatedCount = 0 then
        unavailablePcmLoudness .belowAbsoluteGate evidence.length blockCount
      else
        let absoluteGatedEnergy := (evidence.map fun item => item.loudness.gatedEnergySum).sum
        if absoluteGatedEnergy ≤ 0 then
          .error (.ingestion .invalidWav "absolute-gated dataset loudness energy is invalid")
        else
          let relativeGateLufs :=
            energyToLufs arithmetic (absoluteGatedEnergy / absoluteGatedCount) +
              loudnessRelativeGateLu
          let finalGateLufs := max loudnessAbsoluteGateLufs relativeGateLufs
          match secondLoudnessPass arithmetic flat finalGateLufs files with
          | .error error => .error error
          | .ok secondPass =>
              let gatedBlockCount := (secondPass.map fun item => item.gatedBlockCount).sum
              let gatedEnergySum := (secondPass.map fun item => item.gatedEnergySum).sum
              if gatedBlockCount = 0 ∨ gatedEnergySum ≤ 0 then
                .error (.ingestion .invalidWav "relative loudness gate produced no valid blocks")
              else
                let integratedLufs :=
                  stableFloat (energyToLufs arithmetic (gatedEnergySum / gatedBlockCount))
                if integratedLufs < -70 ∨ 10 < integratedLufs then
                  .error (.ingestion .invalidWav
                    "integrated PCM loudness is outside the supported finite range")
                else
                  PcmLoudnessAggregate.checked
                    { analyzedFileCount := evidence.length
                      blockCount
                      gatedBlockCount
                      integratedLufs := some integratedLufs
                      unavailableReason := none }

end

/-! ## The gates -/

section

variable {arithmetic : LoudnessArithmetic}

theorem gatedEnergies_pos {gateLufs : ℚ} {blocks : List ℚ} :
    ∀ energy ∈ gatedEnergies arithmetic gateLufs blocks, 0 < energy := by
  intro energy member
  have passes := (List.mem_filter.mp member).2
  exact (of_decide_eq_true passes).1

theorem gatedEnergies_sum_pos {gateLufs : ℚ} {blocks : List ℚ}
    (some_block : gatedEnergies arithmetic gateLufs blocks ≠ []) :
    0 < (gatedEnergies arithmetic gateLufs blocks).sum :=
  List.sum_pos _ gatedEnergies_pos some_block

/-- Some number is not below the mean. -/
theorem exists_mean_le {numbers : List ℚ} (nonempty : numbers ≠ []) :
    ∃ number ∈ numbers, numbers.sum / numbers.length ≤ number := by
  have length : (numbers.length : ℚ) ≠ 0 := by
    exact_mod_cast (List.length_pos_iff.mpr nonempty).ne'
  apply List.exists_le_of_sum_le nonempty (fun _ => numbers.sum / numbers.length) id
  rw [List.map_const', List.sum_replicate, nsmul_eq_mul, mul_div_cancel₀ _ length, List.map_id]

theorem energyToLufs_mono {lower upper : ℚ} (positive : 0 < lower) (atMost : lower ≤ upper) :
    energyToLufs arithmetic lower ≤ energyToLufs arithmetic upper := by
  rcases atMost.eq_or_lt with rfl | below
  · exact le_refl _
  · have logarithm := arithmetic.increasing lower upper positive below
    unfold energyToLufs
    linarith

/-- The final gate keeps the loudest block: it is not below the mean of the blocks above the
absolute gate, from which the relative gate is derived. -/
theorem finalGate_keeps {blocks : List ℚ}
    (some_block : gatedEnergies arithmetic loudnessAbsoluteGateLufs blocks ≠ []) :
    gatedEnergies arithmetic
      (max loudnessAbsoluteGateLufs
        (energyToLufs arithmetic
            ((gatedEnergies arithmetic loudnessAbsoluteGateLufs blocks).sum /
              (gatedEnergies arithmetic loudnessAbsoluteGateLufs blocks).length) +
          loudnessRelativeGateLu)) blocks ≠ [] := by
  rcases exists_mean_le some_block with ⟨energy, member, notBelow⟩
  have length : (0 : ℚ) <
      (gatedEnergies arithmetic loudnessAbsoluteGateLufs blocks).length := by
    exact_mod_cast List.length_pos_iff.mpr some_block
  have mean := div_pos (gatedEnergies_sum_pos some_block) length
  have louder : energyToLufs arithmetic _ ≤ energyToLufs arithmetic energy :=
    energyToLufs_mono mean notBelow
  have kept := List.mem_filter.mp member
  have passes : LoudnessBlockScanner.Gated arithmetic loudnessAbsoluteGateLufs energy :=
    of_decide_eq_true kept.2
  apply List.ne_nil_of_mem
  apply List.mem_filter.mpr
  refine ⟨kept.1, decide_eq_true ⟨passes.1, max_lt passes.2 ?_⟩⟩
  unfold loudnessRelativeGateLu
  linarith

/-! ## Two passes -/

variable {limits : IngestionLimits} {flat : String → Option (List UInt8)}
  {files : List ManifestFile}

/-- The flat directory holds the files as the first pass has validated them. -/
def Unchanged (arithmetic : LoudnessArithmetic) (limits : IngestionLimits)
    (flat : String → Option (List UInt8)) (files : List ManifestFile) : Prop :=
  ∀ entry ∈ files, ∀ pcm, entry.inspection = .validatedPcm pcm →
    ∃ bytes, flat entry.canonicalPath.name = some bytes ∧
      DatasetIngestion.inspectPcmWav arithmetic limits bytes = .ok pcm

/-- The two passes over a file of a supported layout and rate see the same blocks. -/
theorem passes_blocks {bytes : List UInt8} {pcm : ValidatedPcm}
    (accepted : DatasetIngestion.inspectPcmWav arithmetic limits bytes = .ok pcm)
    (available : pcm.evidence.loudness.unavailableReason = none) :
    ∃ blocks,
      pcm.evidence.loudness = scanOfBlocks arithmetic loudnessAbsoluteGateLufs blocks ∧
        ∀ gateLufs, scanPcmWavLoudness arithmetic bytes pcm gateLufs =
          .ok (scanOfBlocks arithmetic gateLufs blocks) := by
  rcases DatasetIngestion.inspectPcmWav_eq_ok accepted with ⟨audio, scanner, measure, inspected⟩
  have loudness := inspected.loudness
  split at loudness
  · rw [loudness] at available
    cases available
  · next supported => exact ⟨fileBlocks arithmetic audio, loudness, inspected.secondPass supported⟩

theorem Unchanged.tail {entry : ManifestFile}
    (unchanged : Unchanged arithmetic limits flat (entry :: files)) :
    Unchanged arithmetic limits flat files :=
  fun other member => unchanged other (List.mem_cons_of_mem _ member)

/-- The blocks of all files, in both passes. -/
theorem Unchanged.blocks (unchanged : Unchanged arithmetic limits flat files)
    (available : ∀ item ∈ aggregateEvidence files, item.loudness.unavailableReason = none) :
    ∃ blocks : List (List ℚ),
      (aggregateEvidence files).map PcmAggregateEvidence.loudness =
          blocks.map (scanOfBlocks arithmetic loudnessAbsoluteGateLufs) ∧
        ∀ gateLufs, secondLoudnessPass arithmetic flat gateLufs files =
          .ok (blocks.map (scanOfBlocks arithmetic gateLufs)) := by
  induction files with
  | nil => exact ⟨[], rfl, fun _ => rfl⟩
  | cons entry files induction =>
      cases inspection : entry.inspection with
      | decoderPending =>
          have skipped : aggregateEvidence (entry :: files) = aggregateEvidence files :=
            List.filterMap_cons_none (by rw [inspection]; rfl)
          rw [skipped] at available ⊢
          rcases induction unchanged.tail available with ⟨blocks, first, second⟩
          refine ⟨blocks, first, ?_⟩
          intro gateLufs
          rw [secondLoudnessPass, inspection]
          exact second gateLufs
      | validatedPcm pcm =>
          have taken : aggregateEvidence (entry :: files) =
              pcm.evidence :: aggregateEvidence files :=
            List.filterMap_cons_some (by rw [inspection]; rfl)
          rw [taken] at available ⊢
          rcases unchanged entry List.mem_cons_self pcm inspection with ⟨bytes, found, accepted⟩
          rcases passes_blocks accepted (available _ List.mem_cons_self) with
            ⟨own, firstOwn, secondOwn⟩
          rcases induction unchanged.tail fun item member =>
              available item (List.mem_cons_of_mem _ member) with ⟨blocks, first, second⟩
          refine ⟨own :: blocks, ?_, ?_⟩
          · rw [List.map_cons, List.map_cons, first, firstOwn]
          · intro gateLufs
            rw [secondLoudnessPass, inspection]
            have sameCount : (scanOfBlocks arithmetic gateLufs own).blockCount =
                (scanOfBlocks arithmetic loudnessAbsoluteGateLufs own).blockCount := rfl
            simp only [found, secondOwn, second, firstOwn, if_neg (not_not.mpr sameCount)]
            rfl

theorem gatedEnergies_flatten (gateLufs : ℚ) (blocks : List (List ℚ)) :
    gatedEnergies arithmetic gateLufs blocks.flatten =
      (blocks.map (gatedEnergies arithmetic gateLufs)).flatten :=
  List.filter_flatten

theorem scans_gatedBlockCount (gateLufs : ℚ) (blocks : List (List ℚ)) :
    ((blocks.map (scanOfBlocks arithmetic gateLufs)).map PcmLoudnessScan.gatedBlockCount).sum =
      (gatedEnergies arithmetic gateLufs blocks.flatten).length := by
  rw [gatedEnergies_flatten, List.length_flatten, List.map_map, List.map_map]
  rfl

theorem scans_gatedEnergySum (gateLufs : ℚ) (blocks : List (List ℚ)) :
    ((blocks.map (scanOfBlocks arithmetic gateLufs)).map PcmLoudnessScan.gatedEnergySum).sum =
      (gatedEnergies arithmetic gateLufs blocks.flatten).sum := by
  rw [gatedEnergies_flatten, List.sum_flatten, List.map_map, List.map_map]
  rfl

theorem PcmLoudnessAggregate.checked_error {aggregate : PcmLoudnessAggregate}
    {error : IngestionException} (failed : aggregate.checked = .error error) :
    ∃ message, error = .valueError message := by
  unfold checked at failed
  split at failed
  · cases failed
    exact ⟨_, rfl⟩
  · split at failed
    · split at failed
      · cases failed
        exact ⟨_, rfl⟩
      · cases failed
    · split at failed
      · cases failed
        exact ⟨_, rfl⟩
      · cases failed

/-- Of files that stay as they are, neither pass loses a block: only the checks on the
aggregate's numbers remain. -/
theorem Unchanged.buildPcmLoudness_error (unchanged : Unchanged arithmetic limits flat files)
    {error : IngestionException}
    (failed : buildPcmLoudness arithmetic flat files (aggregateEvidence files) = .error error) :
    error = .ingestion .invalidWav
        "integrated PCM loudness is outside the supported finite range" ∨
      ∃ message, error = .valueError message := by
  rw [buildPcmLoudness] at failed
  simp only at failed
  split at failed
  · exact .inr (PcmLoudnessAggregate.checked_error failed)
  · next noneUnavailable =>
      have available : ∀ item ∈ aggregateEvidence files,
          item.loudness.unavailableReason = none :=
        List.filterMap_eq_nil_iff.mp (not_not.mp noneUnavailable)
      rcases unchanged.blocks available with ⟨blocks, first, second⟩
      have gatedCount : ((aggregateEvidence files).map fun item =>
          item.loudness.gatedBlockCount).sum =
            (gatedEnergies arithmetic loudnessAbsoluteGateLufs blocks.flatten).length := by
        rw [← scans_gatedBlockCount, ← first, List.map_map]
        rfl
      have gatedEnergy : ((aggregateEvidence files).map fun item =>
          item.loudness.gatedEnergySum).sum =
            (gatedEnergies arithmetic loudnessAbsoluteGateLufs blocks.flatten).sum := by
        rw [← scans_gatedEnergySum, ← first, List.map_map]
        rfl
      split at failed
      · exact .inr (PcmLoudnessAggregate.checked_error failed)
      · split at failed
        · exact .inr (PcmLoudnessAggregate.checked_error failed)
        · next some_gated =>
            rw [gatedCount, List.length_eq_zero_iff] at some_gated
            rw [gatedCount, gatedEnergy, second,
              if_neg (not_le.mpr (gatedEnergies_sum_pos some_gated))] at failed
            have kept := finalGate_keeps some_gated
            simp only [scans_gatedBlockCount, scans_gatedEnergySum] at failed
            rw [if_neg] at failed
            · split at failed
              · cases failed
                exact .inl rfl
              · exact .inr (PcmLoudnessAggregate.checked_error failed)
            · rintro (noBlock | noEnergy)
              · exact kept (List.length_eq_zero_iff.mp noBlock)
              · exact absurd noEnergy (not_le.mpr (gatedEnergies_sum_pos kept))

/-! ## The scanner on every sequence of frames -/

def completeBlocks (blockFrames hopFrames : Nat) (energies : List ℚ) : List ℚ :=
  (List.range (if energies.length < blockFrames then 0
      else (energies.length - blockFrames) / hopFrames + 1)).map fun index =>
    ((energies.drop (index * hopFrames)).take blockFrames).sum / blockFrames

/-- What a scanner has found in frames, of which the filters make the energies. -/
structure ScanResult (arithmetic : LoudnessArithmetic) (scanner : LoudnessBlockScanner)
    (frames : List (List ℚ)) (energies : List ℚ) (after : LoudnessBlockScanner) : Prop where
  length : energies.length = frames.length
  window : scanner.blockFrames ≤ frames.length →
    after.windowEnergy = (energies.drop (frames.length - scanner.blockFrames)).sum
  blockCount : after.blockCount =
    if frames.length < scanner.blockFrames then 0
    else (frames.length - scanner.blockFrames) / scanner.hopFrames + 1
  gatedBlockCount : after.gatedBlockCount =
    ((completeBlocks scanner.blockFrames scanner.hopFrames energies).filter fun energy =>
      LoudnessBlockScanner.Gated arithmetic scanner.gateLufs energy).length
  gatedEnergySum : after.gatedEnergySum =
    ((completeBlocks scanner.blockFrames scanner.hopFrames energies).filter fun energy =>
      LoudnessBlockScanner.Gated arithmetic scanner.gateLufs energy).sum

theorem blockEnergies_eq (blockFrames hopFrames : Nat) (energies : List ℚ) :
    blockEnergies blockFrames hopFrames energies =
      completeBlocks blockFrames hopFrames energies := by
  rw [blockEnergies, SlidingWindow.windows, List.map_map]
  rfl

theorem create_eq_ok {sampleRateHz channels : Nat} {gateLufs : ℚ} {scanner : LoudnessBlockScanner}
    (created : LoudnessBlockScanner.create arithmetic sampleRateHz channels gateLufs =
      .ok scanner) :
    scanner = .start arithmetic sampleRateHz channels gateLufs ∧ 0 < scanner.blockFrames := by
  rw [LoudnessBlockScanner.create] at created
  split at created
  · cases created
  · split at created
    · cases created
    · next positive =>
        split at created
        · cases created
        · cases created
          exact ⟨rfl, by omega⟩

theorem scanner_result {sampleRateHz channels : Nat} {gateLufs : ℚ}
    {scanner : LoudnessBlockScanner}
    (created : LoudnessBlockScanner.create arithmetic sampleRateHz channels gateLufs = .ok scanner)
    {frames : List (List ℚ)} (uniform : ∀ frame ∈ frames, frame.length = channels) :
    ∃ after, frames.foldlM (LoudnessBlockScanner.processFrame arithmetic) scanner = .ok after ∧
      ScanResult arithmetic scanner frames (frameEnergies scanner.filters frames).2 after := by
  rcases create_eq_ok created with ⟨rfl, positive⟩
  have filters : (LoudnessBlockScanner.start arithmetic sampleRateHz channels
      gateLufs).filters.length = channels := List.length_replicate
  rcases (LoudnessBlockScanner.start_scanned positive).foldlM positive
      fun frame member => (uniform frame member).trans filters.symm with ⟨after, folded, scanned⟩
  have length := frameEnergies_length
    (LoudnessBlockScanner.start arithmetic sampleRateHz channels gateLufs).filters frames
  rw [List.nil_append] at scanned
  have gatedBlockCount := scanned.gatedBlockCount
  have gatedEnergySum := scanned.gatedEnergySum
  rw [blockEnergies_eq] at gatedBlockCount gatedEnergySum
  refine ⟨after, folded, length, ?_, ?_, gatedBlockCount, gatedEnergySum⟩
  · intro enough
    rw [scanned.slid.windowEnergy, SlidingWindow.last, length]
  · rw [scanned.blockCount, blockEnergies, List.length_map, SlidingWindow.windows_length, length]
    rfl

/-- Any loop over a complete file scans its frames as one sequence. -/
theorem loop_scan {loop : FrameLoop} {audio : WaveRead} (positive : 0 < audio.sampleWidth)
    (channels : 0 < audio.channels)
    (complete : audio.nframes * audio.frameSize ≤ audio.data.length)
    (scanner : LoudnessBlockScanner) :
    loop.read (scanFrame arithmetic audio.sampleWidth) audio audio.nframes 0 scanner audio.data =
      (((declaredFrames audio).map (normalizedFrame audio.sampleWidth)).foldlM
        (LoudnessBlockScanner.processFrame arithmetic) scanner).map
          fun scanner => (audio.nframes, scanner) := by
  rw [loop.read_declared positive channels complete, List.foldlM_map]
  rfl

end

/-- The scanner finds the complete blocks of every sequence of frames, whatever the chunks they
are read in, and the second pass over files that stay as they are finds those of the first and
keeps one of them. -/
theorem loudness_exact (arithmetic : LoudnessArithmetic) :
    (∀ sampleRateHz channels gateLufs scanner,
      LoudnessBlockScanner.create arithmetic sampleRateHz channels gateLufs = .ok scanner →
      ∀ frames : List (List ℚ), (∀ frame ∈ frames, frame.length = channels) →
        ∃ after,
          frames.foldlM (LoudnessBlockScanner.processFrame arithmetic) scanner = .ok after ∧
            ScanResult arithmetic scanner frames (frameEnergies scanner.filters frames).2
              after) ∧
      (∀ (loop : FrameLoop) (audio : WaveRead), 0 < audio.sampleWidth → 0 < audio.channels →
        audio.nframes * audio.frameSize ≤ audio.data.length →
        ∀ scanner,
          loop.read (scanFrame arithmetic audio.sampleWidth) audio audio.nframes 0 scanner
              audio.data =
            (((declaredFrames audio).map (normalizedFrame audio.sampleWidth)).foldlM
              (LoudnessBlockScanner.processFrame arithmetic) scanner).map
                fun scanner => (audio.nframes, scanner)) ∧
      (∀ (limits other : IngestionLimits) bytes pcm,
        other.silenceThresholdDbfs = limits.silenceThresholdDbfs →
        DatasetIngestion.inspectPcmWav arithmetic limits bytes = .ok pcm →
        DatasetIngestion.inspectPcmWav arithmetic other bytes = .ok pcm) ∧
      ∀ (limits : IngestionLimits) flat files, Unchanged arithmetic limits flat files →
        (∀ entry ∈ files, ∀ pcm, entry.inspection = .validatedPcm pcm →
          pcm.evidence.loudness.unavailableReason = none →
          ∀ gateLufs, ∃ bytes scan, flat entry.canonicalPath.name = some bytes ∧
            scanPcmWavLoudness arithmetic bytes pcm gateLufs = .ok scan ∧
            scan.blockCount = pcm.evidence.loudness.blockCount) ∧
          buildPcmLoudness arithmetic flat files (aggregateEvidence files) ≠
            .error (.ingestion .invalidWav
              "loudness block count changed between analysis passes") ∧
          buildPcmLoudness arithmetic flat files (aggregateEvidence files) ≠
            .error (.ingestion .invalidWav
              "relative loudness gate produced no valid blocks") := by
  refine ⟨?_, ?_, ?_, ?_⟩
  · intro sampleRateHz channels gateLufs scanner created frames uniform
    exact scanner_result created uniform
  · intro loop audio positive channels complete scanner
    exact loop_scan positive channels complete scanner
  · intro limits other bytes pcm same accepted
    exact DatasetIngestion.inspectPcmWav_chunks same accepted
  · intro limits flat files unchanged
    refine ⟨?_, ?_, ?_⟩
    · intro entry member pcm inspection available gateLufs
      rcases unchanged entry member pcm inspection with ⟨bytes, found, accepted⟩
      rcases passes_blocks accepted available with ⟨blocks, first, second⟩
      refine ⟨bytes, _, found, second gateLufs, ?_⟩
      rw [first]
      rfl
    · intro failed
      rcases unchanged.buildPcmLoudness_error failed with other | ⟨message, other⟩
      · simp at other
      · cases other
    · intro failed
      rcases unchanged.buildPcmLoudness_error failed with other | ⟨message, other⟩
      · simp at other
      · cases other

/-! ## A file of two frames -/

def sampleLoudnessArithmetic : LoudnessArithmetic where
  log10 := id
  sqrt := id
  tan := id
  power _ _ := 1
  pi := 3
  increasing _ _ _ below := below

def defaultIngestionLimits : IngestionLimits where
  maxArchiveBytes := 5 * 1024 ^ 3
  maxEntries := 10000
  maxFileUncompressedBytes := 2 * 1024 ^ 3
  maxTotalUncompressedBytes := 20 * 1024 ^ 3
  maxCompressionRatio := ⟨false, 2, 2, .inr (by decide)⟩
  copyChunkBytes := 1024 * 1024
  wavAnalysisChunkFrames := 4096
  silenceThresholdDbfs := -50
  positive := by norm_num
  ratio := by decide +kernel
  threshold := by norm_num

/-- Mono PCM16 at 8 kHz. -/
def twoFrames : List UInt8 :=
  WaveRead.name "RIFF" ++ [40, 0, 0, 0] ++ WaveRead.name "WAVE" ++
    WaveRead.name "fmt " ++ [16, 0, 0, 0, 1, 0, 1, 0, 64, 31, 0, 0, 128, 62, 0, 0, 2, 0, 16, 0] ++
    WaveRead.name "data" ++ [4, 0, 0, 0] ++ [1, 0, 7, 0]

def twoFramesEntry (pcm : ValidatedPcm) : ManifestFile where
  sequence := 1
  canonicalPath := ⟨1, .wav⟩
  sourcePath := "a.wav"
  extension := .wav
  sizeBytes := 48
  sha256 := ""
  inspection := .validatedPcm pcm

theorem loudness_exact_twoFrames :
    ∃ pcm, DatasetIngestion.inspectPcmWav sampleLoudnessArithmetic defaultIngestionLimits twoFrames = .ok pcm ∧
      buildPcmLoudness sampleLoudnessArithmetic (fun _ => some twoFrames) [twoFramesEntry pcm]
          (aggregateEvidence [twoFramesEntry pcm]) ≠
        .error (.ingestion .invalidWav "relative loudness gate produced no valid blocks") := by
  cases inspected :
      DatasetIngestion.inspectPcmWav sampleLoudnessArithmetic defaultIngestionLimits twoFrames with
  | error message =>
      have accepted : (DatasetIngestion.inspectPcmWav sampleLoudnessArithmetic defaultIngestionLimits
          twoFrames).toOption.isSome = true := by decide +kernel
      rw [inspected] at accepted
      cases accepted
  | ok pcm =>
      have unchanged : Unchanged sampleLoudnessArithmetic defaultIngestionLimits
          (fun _ => some twoFrames) [twoFramesEntry pcm] := by
        intro entry member other inspection
        rcases List.mem_singleton.mp member with rfl
        cases inspection
        exact ⟨twoFrames, rfl, inspected⟩
      exact ⟨pcm, rfl, ((loudness_exact sampleLoudnessArithmetic).2.2.2 _ _ _ unchanged).2.2⟩

end RvcOrchestrator.Manager

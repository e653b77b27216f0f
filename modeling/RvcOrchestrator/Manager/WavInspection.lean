import RvcOrchestrator.Foundation.Float
import RvcOrchestrator.Foundation.Pcm
import RvcOrchestrator.Manager.Loudness

/-! # The inspection of WAV files

A WAV file of a dataset is read in chunks of frames, which are measured and scanned for
loudness. The arithmetic is exact: floats are rationals.
-/

namespace RvcOrchestrator.Manager

open RvcOrchestrator.Foundation

structure IngestionLimits where
  maxArchiveBytes : Nat
  maxEntries : Nat
  maxFileUncompressedBytes : Nat
  maxTotalUncompressedBytes : Nat
  maxCompressionRatio : PyFloat
  copyChunkBytes : Nat
  wavAnalysisChunkFrames : Nat
  silenceThresholdDbfs : ℚ
  positive : 0 < maxArchiveBytes ∧ 0 < maxEntries ∧ 0 < maxFileUncompressedBytes ∧
    0 < maxTotalUncompressedBytes ∧ 0 < copyChunkBytes ∧ 0 < wavAnalysisChunkFrames
  ratio : 1 ≤ maxCompressionRatio.value
  threshold : -120 ≤ silenceThresholdDbfs ∧ silenceThresholdDbfs < 0

inductive LoudnessUnavailableReason where
  | belowAbsoluteGate
  | insufficientDuration
  | unsupportedChannelLayout
  | unsupportedSampleRate
deriving DecidableEq

structure PcmLoudnessScan where
  unavailableReason : Option LoudnessUnavailableReason
  blockCount : Nat
  gatedBlockCount : Nat
  gatedEnergySum : ℚ
deriving DecidableEq

structure PcmAggregateEvidence where
  sampleCount : Nat
  clippedSampleCount : Nat
  silentSampleCount : Nat
  normalizedSquareSum : ℚ
  loudness : PcmLoudnessScan
deriving DecidableEq

structure ValidatedPcm where
  durationSeconds : ℚ
  sampleRateHz : Nat
  channels : Nat
  sampleWidthBytes : Nat
  peakRatio : ℚ
  clippingRatio : ℚ
  silenceRatio : ℚ
  rmsRatio : ℚ
  evidence : PcmAggregateEvidence
deriving DecidableEq

inductive AudioInspection where
  | decoderPending
  | validatedPcm (pcm : ValidatedPcm)
deriving DecidableEq

/-- Python's `round` to twelve digits, to even in the middle. -/
def stableFloat (value : ℚ) : ℚ :=
  let scaled : ℚ := value * 10 ^ 12
  let lower : Int := ⌊scaled⌋
  let nearest : Int :=
    if scaled - lower < 1 / 2 then lower
    else if 1 / 2 < scaled - lower then lower + 1
    else if lower % 2 = 0 then lower
    else lower + 1
  nearest / 10 ^ 12

def loudnessUnavailableReason (sampleRateHz channels : Nat) : Option LoudnessUnavailableReason :=
  if channels ∉ [1, 2] then some .unsupportedChannelLayout
  else if sampleRateHz < loudnessMinSampleRateHz ∨ loudnessMaxSampleRateHz < sampleRateHz then
    some .unsupportedSampleRate
  else none

/-! ## Reading frames -/

section

variable {σ : Type} (step : σ → List Int → Except String σ)

def foldFrames (channels : Nat) : Nat → σ → List Int → Except String (σ × List Int)
  | 0, state, samples => .ok (state, samples)
  | count + 1, state, samples =>
      let frame := samples.take channels
      if frame.length < channels then .error "WAV PCM frame has missing channel data"
      else
        match step state frame with
        | .error error => .error error
        | .ok state => foldFrames channels count state (samples.drop channels)

def foldFrameData (audio : WaveRead) (state : σ) (frameData : List UInt8) : Except String σ :=
  match foldFrames step audio.channels (frameData.length / audio.frameSize) state
      (Pcm.decode audio.sampleWidth frameData) with
  | .error error => .error error
  | .ok (state, rest) =>
      if rest ≠ [] then .error "WAV PCM frame has unexpected channel data" else .ok state

/-- What the two passes do about a chunk of no bytes, and about one that ends in a frame. -/
structure FrameLoop where
  chunkFrames : Nat
  /-- `none` where the loop ends. -/
  empty : Option String
  truncated : String
  positive : 0 < chunkFrames

def FrameLoop.read (loop : FrameLoop) (audio : WaveRead) :
    Nat → Nat → σ → List UInt8 → Except String (Nat × σ)
  | 0, framesRead, state, _ => .ok (framesRead, state)
  | fuel + 1, framesRead, state, rest =>
      if audio.nframes ≤ framesRead then .ok (framesRead, state)
      else
        let (frameData, rest) :=
          audio.readframes (min loop.chunkFrames (audio.nframes - framesRead)) rest
        if frameData = [] then
          match loop.empty with
          | none => .ok (framesRead, state)
          | some error => .error error
        else if frameData.length % audio.frameSize ≠ 0 then .error loop.truncated
        else
          match foldFrameData step audio state frameData with
          | .error error => .error error
          | .ok state =>
              FrameLoop.read loop audio fuel (framesRead + frameData.length / audio.frameSize)
                state rest

end

/-! ## The first pass -/

structure PcmMeasure where
  sampleCount : Nat
  clippedSamples : Nat
  silentSamples : Nat
  maxAbsoluteSample : Int
  sumSquares : ℚ
  scanner : Option LoudnessBlockScanner
deriving DecidableEq

def fullScale (sampleWidth : Nat) : Int := 2 ^ (sampleWidth * 8 - 1)

def measureSample (clippingLevel : Int) (silenceLevel : ℚ) (measure : PcmMeasure)
    (sample : Int) : PcmMeasure :=
  let absoluteSample := |sample|
  { measure with
    sampleCount := measure.sampleCount + 1
    clippedSamples := measure.clippedSamples + if clippingLevel ≤ absoluteSample then 1 else 0
    silentSamples := measure.silentSamples + if absoluteSample ≤ silenceLevel then 1 else 0
    maxAbsoluteSample := max measure.maxAbsoluteSample absoluteSample
    sumSquares := measure.sumSquares + (sample * sample : Int) }

def normalizedFrame (sampleWidth : Nat) (frame : List Int) : List ℚ :=
  frame.map fun (sample : Int) => (sample : ℚ) / fullScale sampleWidth

section

variable (arithmetic : LoudnessArithmetic)

def measureFrame (sampleWidth : Nat) (silenceLevel : ℚ) (measure : PcmMeasure)
    (frame : List Int) : Except String PcmMeasure :=
  let measure := frame.foldl (measureSample (fullScale sampleWidth - 1) silenceLevel) measure
  match measure.scanner with
  | none => .ok measure
  | some scanner =>
      (scanner.processFrame arithmetic (normalizedFrame sampleWidth frame)).map fun scanner =>
        { measure with scanner := some scanner }

def loudnessAbsoluteGateLufs : ℚ := -70

def loudnessRelativeGateLu : ℚ := -10

def IngestionLimits.analysisLoop (limits : IngestionLimits) : FrameLoop where
  chunkFrames := limits.wavAnalysisChunkFrames
  empty := none
  truncated := "WAV contains a truncated PCM frame"
  positive := limits.positive.2.2.2.2.2

def LoudnessBlockScanner.scan (scanner : LoudnessBlockScanner) : PcmLoudnessScan where
  unavailableReason := none
  blockCount := scanner.blockCount
  gatedBlockCount := scanner.gatedBlockCount
  gatedEnergySum := scanner.gatedEnergySum

/-- The scanner of the first pass, for a supported layout and rate. -/
def analysisScanner (sampleRateHz channels : Nat) : Except String (Option LoudnessBlockScanner) :=
  match loudnessUnavailableReason sampleRateHz channels with
  | some _ => .ok none
  | none =>
      (LoudnessBlockScanner.create arithmetic sampleRateHz channels loudnessAbsoluteGateLufs).map
        some

def PcmMeasure.start (scanner : Option LoudnessBlockScanner) : PcmMeasure where
  sampleCount := 0
  clippedSamples := 0
  silentSamples := 0
  maxAbsoluteSample := 0
  sumSquares := 0
  scanner := scanner

def PcmMeasure.report (measure : PcmMeasure) (audio : WaveRead) : ValidatedPcm :=
  let scale : ℚ := fullScale audio.sampleWidth
  let rms := arithmetic.sqrt (measure.sumSquares / measure.sampleCount) / scale
  { durationSeconds := stableFloat (audio.nframes / audio.sampleRate)
    sampleRateHz := audio.sampleRate
    channels := audio.channels
    sampleWidthBytes := audio.sampleWidth
    peakRatio := stableFloat (min (measure.maxAbsoluteSample / scale) 1)
    clippingRatio := stableFloat (measure.clippedSamples / measure.sampleCount)
    silenceRatio := stableFloat (measure.silentSamples / measure.sampleCount)
    rmsRatio := stableFloat (min rms 1)
    evidence :=
      { sampleCount := measure.sampleCount
        clippedSampleCount := measure.clippedSamples
        silentSampleCount := measure.silentSamples
        normalizedSquareSum := measure.sumSquares / (scale * scale)
        loudness :=
          match measure.scanner with
          | none =>
              { unavailableReason := loudnessUnavailableReason audio.sampleRate audio.channels
                blockCount := 0
                gatedBlockCount := 0
                gatedEnergySum := 0 }
          | some scanner => scanner.scan } }

def silenceLevel (silenceThresholdDbfs : ℚ) (sampleWidth : Nat) : ℚ :=
  fullScale sampleWidth * arithmetic.power 10 (silenceThresholdDbfs / 20)

/-- The text of an `InvalidWavError`. -/
def DatasetIngestion.inspectPcmWav (limits : IngestionLimits) (bytes : List UInt8) : Except String ValidatedPcm :=
  match WaveRead.open? bytes with
  | none => .error "invalid WAV container or unsupported PCM encoding"
  | some audio =>
      if audio.channels = 0 ∨ 64 < audio.channels then
        .error "WAV channel count is outside the supported range"
      else if audio.sampleWidth ∉ [1, 2, 3, 4] then
        .error "WAV sample width must be 8, 16, 24, or 32-bit PCM"
      else if audio.sampleRate = 0 ∨ audio.nframes = 0 then
        .error "WAV must contain PCM frames with a positive sample rate"
      else
        match analysisScanner arithmetic audio.sampleRate audio.channels with
        | .error _ => .error "invalid WAV container or unsupported PCM encoding"
        | .ok scanner =>
            match limits.analysisLoop.read
                (measureFrame arithmetic audio.sampleWidth
                  (silenceLevel arithmetic limits.silenceThresholdDbfs audio.sampleWidth))
                audio audio.nframes 0 (.start scanner) audio.data with
            | .error error => .error error
            | .ok (framesRead, measure) =>
                if framesRead ≠ audio.nframes ∨
                    measure.sampleCount ≠ audio.nframes * audio.channels then
                  .error "WAV frame data is shorter than its header declares"
                else .ok (measure.report arithmetic audio)

/-! ## The second pass -/

def secondPassLoop : FrameLoop where
  chunkFrames := 4096
  empty := some "WAV changed or truncated during loudness analysis"
  truncated := "WAV changed or truncated during loudness analysis"
  positive := by decide

def scanFrame (sampleWidth : Nat) (scanner : LoudnessBlockScanner) (frame : List Int) :
    Except String LoudnessBlockScanner :=
  scanner.processFrame arithmetic (normalizedFrame sampleWidth frame)

/-- The text of an `InvalidWavError`. -/
def scanPcmWavLoudness (bytes : List UInt8) (inspection : ValidatedPcm) (gateLufs : ℚ) :
    Except String PcmLoudnessScan :=
  if loudnessUnavailableReason inspection.sampleRateHz inspection.channels ≠ none then
    .error "second loudness pass received unsupported PCM metadata"
  else
    match LoudnessBlockScanner.create arithmetic inspection.sampleRateHz inspection.channels
        gateLufs, WaveRead.open? bytes with
    | .error error, _ => .error error
    | .ok _, none => .error "second loudness pass could not validate PCM"
    | .ok scanner, some audio =>
        if audio.sampleRate ≠ inspection.sampleRateHz ∨ audio.channels ≠ inspection.channels ∨
            audio.sampleWidth ≠ inspection.sampleWidthBytes ∨ audio.nframes = 0 then
          .error "PCM metadata changed between loudness passes"
        else
          match secondPassLoop.read (scanFrame arithmetic audio.sampleWidth) audio audio.nframes 0
              scanner audio.data with
          | .error error => .error error
          | .ok (framesRead, scanner) =>
              if framesRead ≠ audio.nframes then
                .error "WAV frame data changed between loudness passes"
              else .ok scanner.scan

end

/-! ## What is read -/

section

variable {σ : Type} {step : σ → List Int → Except String σ} {audio : WaveRead}

theorem foldFrames_eq {channels count : Nat} {samples : List Int}
    (length : samples.length = count * channels) (state : σ) :
    foldFrames step channels count state samples =
      ((Pcm.groups channels count samples).foldlM step state).map fun state => (state, []) := by
  induction count generalizing state samples with
  | zero =>
      have nothing : samples = [] := by
        rw [← List.length_eq_zero_iff, length, Nat.zero_mul]
      rw [nothing]
      rfl
  | succ count induction =>
      rw [Nat.add_mul, Nat.one_mul] at length
      have complete : ¬(samples.take channels).length < channels := by
        rw [List.length_take]
        omega
      rw [foldFrames, Pcm.groups, List.foldlM_cons]
      simp only [if_neg complete]
      cases step state (samples.take channels) with
      | error error => rfl
      | ok state => exact induction (by rw [List.length_drop]; omega) state

theorem foldFrameData_eq (positive : 0 < audio.sampleWidth) {frameData : List UInt8}
    (whole : audio.frameSize ∣ frameData.length) (state : σ) :
    foldFrameData step audio state frameData =
      (Pcm.frames audio.channels audio.sampleWidth frameData).foldlM step state := by
  have samples : (Pcm.decode audio.sampleWidth frameData).length =
      frameData.length / audio.frameSize * audio.channels :=
    Pcm.decode_length_frames positive whole
  have frames : Pcm.frames audio.channels audio.sampleWidth frameData =
      Pcm.groups audio.channels (frameData.length / audio.frameSize)
        (Pcm.decode audio.sampleWidth frameData) := rfl
  rw [foldFrameData, foldFrames_eq samples, frames]
  cases (Pcm.groups audio.channels (frameData.length / audio.frameSize)
      (Pcm.decode audio.sampleWidth frameData)).foldlM step state with
  | error error => rfl
  | ok state => rfl

/-- If all frames are there, they are folded, in chunks of whatever length. -/
theorem FrameLoop.read_of_complete (loop : FrameLoop) (positive : 0 < audio.sampleWidth)
    (channels : 0 < audio.channels) {fuel framesRead : Nat} {state : σ} {rest : List UInt8}
    (atMost : framesRead ≤ audio.nframes)
    (complete : (audio.nframes - framesRead) * audio.frameSize ≤ rest.length)
    (enough : audio.nframes - framesRead ≤ fuel) :
    loop.read step audio fuel framesRead state rest =
      ((Pcm.frames audio.channels audio.sampleWidth
          (rest.take ((audio.nframes - framesRead) * audio.frameSize))).foldlM step state).map
        fun state => (audio.nframes, state) := by
  have frameBytes : 0 < audio.frameSize := Nat.mul_pos channels positive
  have finish : ∀ (state : σ) (rest : List UInt8),
      Except.ok (audio.nframes, state) =
        ((Pcm.frames audio.channels audio.sampleWidth
            (rest.take ((audio.nframes - audio.nframes) * audio.frameSize))).foldlM step
          state).map fun state => (audio.nframes, state) := by
    intro state rest
    have nothing : Pcm.frames audio.channels audio.sampleWidth [] = [] := by
      rw [Pcm.frames, List.length_nil, Nat.zero_div]
      rfl
    rw [Nat.sub_self, Nat.zero_mul, List.take_zero, nothing]
    rfl
  induction fuel generalizing framesRead state rest with
  | zero =>
      have finished : framesRead = audio.nframes := by omega
      rw [FrameLoop.read, finished]
      exact finish state rest
  | succ fuel induction =>
      rw [FrameLoop.read]
      split
      · next done =>
          have finished : framesRead = audio.nframes := by omega
          rw [finished]
          exact finish state rest
      · next unfinished =>
          have some_frame := loop.positive
          generalize chunk : min loop.chunkFrames (audio.nframes - framesRead) = count
          have within : count ≤ audio.nframes - framesRead := by omega
          have block : count * audio.frameSize ≤ rest.length :=
            le_trans (Nat.mul_le_mul_right _ within) complete
          have length := WaveRead.readframes_length block
          have remaining := audio.readframes_rest count rest
          have some_byte : 0 < count * audio.frameSize := Nat.mul_pos (by omega) frameBytes
          have nonempty : (audio.readframes count rest).1 ≠ [] := by
            intro nothing
            rw [nothing, List.length_nil] at length
            omega
          have whole : audio.frameSize ∣ (audio.readframes count rest).1.length := by
            rw [length]
            exact Nat.dvd_mul_left ..
          have split : (audio.nframes - framesRead) * audio.frameSize =
              count * audio.frameSize + (audio.nframes - (framesRead + count)) * audio.frameSize := by
            rw [← Nat.add_mul]
            congr 1
            omega
          have parts : rest.take ((audio.nframes - framesRead) * audio.frameSize) =
              (audio.readframes count rest).1 ++
                (audio.readframes count rest).2.take
                  ((audio.nframes - (framesRead + count)) * audio.frameSize) := by
            rw [split, List.take_add]
            rfl
          simp only
          rw [if_neg nonempty, if_neg (not_not.mpr (Nat.mod_eq_zero_of_dvd whole)),
            foldFrameData_eq positive whole, parts, Pcm.frames_append positive whole,
            List.foldlM_append, length, Nat.mul_div_cancel _ frameBytes]
          cases (Pcm.frames audio.channels audio.sampleWidth
              (audio.readframes count rest).1).foldlM step state with
          | error error => rfl
          | ok state => exact induction (by omega) (by omega) (by omega)

/-- As many frames as have been read were there. -/
theorem FrameLoop.read_within (loop : FrameLoop) {fuel framesRead after : Nat} {state final : σ}
    {rest : List UInt8}
    (read : loop.read step audio fuel framesRead state rest = .ok (after, final)) :
    after * audio.frameSize ≤ framesRead * audio.frameSize + rest.length := by
  induction fuel generalizing framesRead state rest with
  | zero =>
      cases read
      exact Nat.le_add_right ..
  | succ fuel induction =>
      rw [FrameLoop.read] at read
      split at read
      · cases read
        exact Nat.le_add_right ..
      · simp only at read
        split at read
        · split at read
          · cases read
            exact Nat.le_add_right ..
          · cases read
        · split at read
          · cases read
          · next aligned =>
              split at read
              · cases read
              · have bound := induction read
                generalize min loop.chunkFrames (audio.nframes - framesRead) = count at bound
                have parts : (audio.readframes count rest).1.length +
                    (audio.readframes count rest).2.length = rest.length := by
                  rw [← List.length_append, WaveRead.readframes, List.take_append_drop]
                have covered := Nat.div_mul_le_self (audio.readframes count rest).1.length
                  audio.frameSize
                rw [Nat.add_mul] at bound
                omega

end

/-! ## Validated files -/

def declaredFrames (audio : WaveRead) : List (List Int) :=
  Pcm.frames audio.channels audio.sampleWidth (audio.data.take (audio.nframes * audio.frameSize))

section

variable {arithmetic : LoudnessArithmetic} {limits : IngestionLimits} {bytes : List UInt8}
  {pcm : ValidatedPcm}

/-- What the first pass has found in a file, whatever its chunks were. -/
structure Inspected (arithmetic : LoudnessArithmetic) (silenceThresholdDbfs : ℚ)
    (bytes : List UInt8) (pcm : ValidatedPcm) (audio : WaveRead)
    (scanner : Option LoudnessBlockScanner) (measure : PcmMeasure) : Prop where
  opened : WaveRead.open? bytes = some audio
  channels : ¬(audio.channels = 0 ∨ 64 < audio.channels)
  sampleWidth : audio.sampleWidth ∈ [1, 2, 3, 4]
  nonempty : ¬(audio.sampleRate = 0 ∨ audio.nframes = 0)
  complete : audio.nframes * audio.frameSize ≤ audio.data.length
  created : analysisScanner arithmetic audio.sampleRate audio.channels = .ok scanner
  measured : (declaredFrames audio).foldlM
    (measureFrame arithmetic audio.sampleWidth
      (silenceLevel arithmetic silenceThresholdDbfs audio.sampleWidth)) (.start scanner) =
    .ok measure
  samples : measure.sampleCount = audio.nframes * audio.channels
  report : pcm = measure.report arithmetic audio

theorem Inspected.width_pos {silenceThresholdDbfs : ℚ} {audio : WaveRead}
    {scanner : Option LoudnessBlockScanner} {measure : PcmMeasure}
    (inspected : Inspected arithmetic silenceThresholdDbfs bytes pcm audio scanner measure) :
    0 < audio.sampleWidth := by
  have member := inspected.sampleWidth
  simp only [List.mem_cons, List.not_mem_nil, or_false] at member
  omega

/-- All frames are read at once. -/
theorem FrameLoop.read_declared {σ : Type} {step : σ → List Int → Except String σ}
    (loop : FrameLoop) {audio : WaveRead} (positive : 0 < audio.sampleWidth)
    (channels : 0 < audio.channels)
    (complete : audio.nframes * audio.frameSize ≤ audio.data.length) (state : σ) :
    loop.read step audio audio.nframes 0 state audio.data =
      ((declaredFrames audio).foldlM step state).map fun state => (audio.nframes, state) :=
  loop.read_of_complete positive channels (Nat.zero_le _) complete (Nat.sub_le ..)

theorem DatasetIngestion.inspectPcmWav_eq_ok (accepted : DatasetIngestion.inspectPcmWav arithmetic limits bytes = .ok pcm) :
    ∃ audio scanner measure,
      Inspected arithmetic limits.silenceThresholdDbfs bytes pcm audio scanner measure := by
  rw [DatasetIngestion.inspectPcmWav] at accepted
  split at accepted
  · cases accepted
  · next audio opened =>
      split at accepted
      · cases accepted
      · next channels =>
          split at accepted
          · cases accepted
          · next supported =>
              split at accepted
              · cases accepted
              · next nonempty =>
                  split at accepted
                  · cases accepted
                  · next scanner created =>
                      split at accepted
                      · cases accepted
                      · next framesRead measure read =>
                          split at accepted
                          · cases accepted
                          · next whole =>
                              simp only [ne_eq, not_or, not_not] at whole supported
                              rcases whole with ⟨rfl, samples⟩
                              have complete := FrameLoop.read_within _ read
                              rw [Nat.zero_mul, Nat.zero_add] at complete
                              have width : 0 < audio.sampleWidth := by
                                simp only [List.mem_cons, List.not_mem_nil, or_false] at supported
                                omega
                              rw [FrameLoop.read_declared _ width (by omega) complete] at read
                              cases accepted
                              refine ⟨audio, scanner, measure, opened, channels, supported,
                                nonempty, complete, created, ?_, samples, rfl⟩
                              cases folded : (declaredFrames audio).foldlM
                                  (measureFrame arithmetic audio.sampleWidth
                                    (silenceLevel arithmetic limits.silenceThresholdDbfs
                                      audio.sampleWidth)) (.start scanner) with
                              | error error =>
                                  rw [folded] at read
                                  cases read
                              | ok after =>
                                  rw [folded] at read
                                  cases read
                                  rfl

theorem Inspected.accepted {audio : WaveRead} {scanner : Option LoudnessBlockScanner}
    {measure : PcmMeasure}
    (inspected : Inspected arithmetic limits.silenceThresholdDbfs bytes pcm audio scanner measure) :
    DatasetIngestion.inspectPcmWav arithmetic limits bytes = .ok pcm := by
  have positive : 0 < audio.channels := by
    have channels := inspected.channels
    omega
  simp only [DatasetIngestion.inspectPcmWav, inspected.opened, if_neg inspected.channels,
    if_neg (not_not.mpr inspected.sampleWidth), if_neg inspected.nonempty, inspected.created,
    FrameLoop.read_declared _ inspected.width_pos positive inspected.complete, inspected.measured,
    Except.map, inspected.samples, ne_eq, not_true_eq_false, or_self, if_false, inspected.report]

/-- The length of the chunks makes no difference. -/
theorem DatasetIngestion.inspectPcmWav_chunks {other : IngestionLimits}
    (same : other.silenceThresholdDbfs = limits.silenceThresholdDbfs)
    (accepted : DatasetIngestion.inspectPcmWav arithmetic limits bytes = .ok pcm) :
    DatasetIngestion.inspectPcmWav arithmetic other bytes = .ok pcm := by
  rcases DatasetIngestion.inspectPcmWav_eq_ok accepted with ⟨audio, scanner, measure, inspected⟩
  rw [← same] at inspected
  exact inspected.accepted

/-! ## The blocks of a validated file -/

def scannedBlocks (arithmetic : LoudnessArithmetic) (sampleRateHz channels : Nat)
    (frames : List (List ℚ)) : List ℚ :=
  let scanner := LoudnessBlockScanner.start arithmetic sampleRateHz channels 0
  blockEnergies scanner.blockFrames scanner.hopFrames (frameEnergies scanner.filters frames).2

def scanOfBlocks (arithmetic : LoudnessArithmetic) (gateLufs : ℚ) (blocks : List ℚ) :
    PcmLoudnessScan where
  unavailableReason := none
  blockCount := blocks.length
  gatedBlockCount := (gatedEnergies arithmetic gateLufs blocks).length
  gatedEnergySum := (gatedEnergies arithmetic gateLufs blocks).sum

theorem create_supported {sampleRateHz channels : Nat} (gateLufs : ℚ)
    (available : loudnessUnavailableReason sampleRateHz channels = none) :
    LoudnessBlockScanner.create arithmetic sampleRateHz channels gateLufs =
        .ok (.start arithmetic sampleRateHz channels gateLufs) ∧
      0 < (LoudnessBlockScanner.start arithmetic sampleRateHz channels gateLufs).blockFrames := by
  unfold loudnessUnavailableReason at available
  split at available
  · cases available
  · next layout =>
      split at available
      · cases available
      · next rate =>
          have bounds : 8000 ≤ sampleRateHz := by
            unfold loudnessMinSampleRateHz at rate
            omega
          have block : 0 < (LoudnessBlockScanner.start arithmetic sampleRateHz channels
              gateLufs).blockFrames := by
            simp only [LoudnessBlockScanner.start]
            omega
          have hop : 0 < (LoudnessBlockScanner.start arithmetic sampleRateHz channels
              gateLufs).hopFrames := by
            simp only [LoudnessBlockScanner.start]
            omega
          refine ⟨?_, block⟩
          rw [LoudnessBlockScanner.create]
          simp only [if_neg layout, if_neg rate]
          rw [if_neg (by omega)]

/-- A scanner of a supported layout goes through frames of its channels to their end. -/
theorem scan_frames {sampleRateHz channels : Nat} (gateLufs : ℚ)
    (available : loudnessUnavailableReason sampleRateHz channels = none)
    {frames : List (List ℚ)} (uniform : ∀ frame ∈ frames, frame.length = channels) :
    ∃ after,
      frames.foldlM (LoudnessBlockScanner.processFrame arithmetic)
          (.start arithmetic sampleRateHz channels gateLufs) = .ok after ∧
        after.scan =
          scanOfBlocks arithmetic gateLufs
            (scannedBlocks arithmetic sampleRateHz channels frames) := by
  have positive : 0 < (LoudnessBlockScanner.start arithmetic sampleRateHz channels
      gateLufs).blockFrames := (create_supported gateLufs available).2
  have filters : (LoudnessBlockScanner.start arithmetic sampleRateHz channels
      gateLufs).filters.length = channels := List.length_replicate
  rcases (LoudnessBlockScanner.start_scanned positive).foldlM positive
      fun frame member => (uniform frame member).trans filters.symm with ⟨after, folded, scanned⟩
  refine ⟨after, folded, ?_⟩
  rw [LoudnessBlockScanner.scan, scanned.blockCount, scanned.gatedBlockCount,
    scanned.gatedEnergySum]
  rfl

theorem measureSamples_scanner (clippingLevel : Int) (silenceLevel : ℚ) (frame : List Int)
    (measure : PcmMeasure) :
    (frame.foldl (measureSample clippingLevel silenceLevel) measure).scanner =
      measure.scanner := by
  induction frame generalizing measure with
  | nil => rfl
  | cons sample frame induction =>
      rw [List.foldl_cons, induction]
      rfl

/-- The scanner goes its own way through the frames. -/
theorem measureFrames_scanner {sampleWidth : Nat} {silenceLevel : ℚ} {frames : List (List Int)}
    {measure after : PcmMeasure}
    (measured : frames.foldlM (measureFrame arithmetic sampleWidth silenceLevel) measure =
      .ok after) :
    match measure.scanner with
    | none => after.scanner = none
    | some scanner => ∃ scanned, after.scanner = some scanned ∧
        (frames.map (normalizedFrame sampleWidth)).foldlM
          (LoudnessBlockScanner.processFrame arithmetic) scanner = .ok scanned := by
  induction frames generalizing measure with
  | nil =>
      cases measured
      split
      · next same => exact same
      · next scanner same => exact ⟨scanner, same, rfl⟩
  | cons frame frames induction =>
      rw [List.foldlM_cons] at measured
      have kept := measureSamples_scanner (fullScale sampleWidth - 1) silenceLevel frame measure
      cases first : measureFrame arithmetic sampleWidth silenceLevel measure frame with
      | error error =>
          rw [first] at measured
          cases measured
      | ok next =>
          rw [first] at measured
          have later := induction measured
          rw [measureFrame] at first
          simp only [kept] at first
          split
          · next same =>
              rw [same] at first
              cases first
              rw [kept, same] at later
              exact later
          · next scanner same =>
              rw [same] at first
              simp only at first
              cases processed : scanner.processFrame arithmetic
                  (normalizedFrame sampleWidth frame) with
              | error error =>
                  rw [processed] at first
                  cases first
              | ok moved =>
                  rw [processed] at first
                  cases first
                  rcases later with ⟨scanned, found, folded⟩
                  refine ⟨scanned, found, ?_⟩
                  rw [List.map_cons, List.foldlM_cons, processed]
                  exact folded

def fileBlocks (arithmetic : LoudnessArithmetic) (audio : WaveRead) : List ℚ :=
  scannedBlocks arithmetic audio.sampleRate audio.channels
    ((declaredFrames audio).map (normalizedFrame audio.sampleWidth))

section

variable {silenceThresholdDbfs : ℚ} {audio : WaveRead} {scanner : Option LoudnessBlockScanner}
  {measure : PcmMeasure}

theorem Inspected.uniform
    (inspected : Inspected arithmetic silenceThresholdDbfs bytes pcm audio scanner measure) :
    ∀ frame ∈ (declaredFrames audio).map (normalizedFrame audio.sampleWidth),
      frame.length = audio.channels := by
  intro frame member
  rcases List.mem_map.mp member with ⟨samples, found, rfl⟩
  rw [normalizedFrame, List.length_map]
  apply Pcm.frames_length_eq inspected.width_pos _ samples found
  rw [List.length_take, Nat.min_eq_left inspected.complete]
  exact Nat.dvd_mul_left ..

/-- What the first pass says of the loudness of a file. -/
theorem Inspected.loudness
    (inspected : Inspected arithmetic silenceThresholdDbfs bytes pcm audio scanner measure) :
    pcm.evidence.loudness =
      match loudnessUnavailableReason audio.sampleRate audio.channels with
      | some reason => ⟨some reason, 0, 0, 0⟩
      | none => scanOfBlocks arithmetic loudnessAbsoluteGateLufs (fileBlocks arithmetic audio) := by
  have created := inspected.created
  have moved := measureFrames_scanner inspected.measured
  rw [analysisScanner] at created
  rw [inspected.report, PcmMeasure.report]
  split at created
  · next reason unavailable =>
      cases created
      simp only [PcmMeasure.start] at moved
      simp only [moved, unavailable]
  · next available =>
      rw [(create_supported loudnessAbsoluteGateLufs available).1] at created
      cases created
      rcases moved with ⟨scanned, found, folded⟩
      rcases scan_frames loudnessAbsoluteGateLufs available inspected.uniform with
        ⟨after, same, blocks⟩
      cases folded.symm.trans same
      simp only [found, blocks]
      rfl

/-- The second pass finds the same blocks. -/
theorem Inspected.secondPass
    (inspected : Inspected arithmetic silenceThresholdDbfs bytes pcm audio scanner measure)
    (available : loudnessUnavailableReason audio.sampleRate audio.channels = none)
    (gateLufs : ℚ) :
    scanPcmWavLoudness arithmetic bytes pcm gateLufs =
      .ok (scanOfBlocks arithmetic gateLufs (fileBlocks arithmetic audio)) := by
  have nonempty := inspected.nonempty
  have channels := inspected.channels
  have rate : pcm.sampleRateHz = audio.sampleRate := by rw [inspected.report, PcmMeasure.report]
  have layout : pcm.channels = audio.channels := by rw [inspected.report, PcmMeasure.report]
  have width : pcm.sampleWidthBytes = audio.sampleWidth := by
    rw [inspected.report, PcmMeasure.report]
  have frames : audio.nframes ≠ 0 := fun nothing => nonempty (Or.inr nothing)
  rcases scan_frames gateLufs available inspected.uniform with ⟨after, folded, blocks⟩
  rw [List.foldlM_map] at folded
  have read : secondPassLoop.read (scanFrame arithmetic audio.sampleWidth) audio audio.nframes 0
      (.start arithmetic audio.sampleRate audio.channels gateLufs) audio.data = _ :=
    secondPassLoop.read_declared inspected.width_pos (by omega) inspected.complete _
  have scanned : (declaredFrames audio).foldlM (scanFrame arithmetic audio.sampleWidth)
      (.start arithmetic audio.sampleRate audio.channels gateLufs) = .ok after := folded
  rw [scanned] at read
  rw [scanPcmWavLoudness, rate, layout, width, (create_supported gateLufs available).1,
    inspected.opened, available]
  simp only [ne_eq, not_true_eq_false, frames, or_self, if_false, read, Except.map, blocks]
  rfl

end

end

end RvcOrchestrator.Manager

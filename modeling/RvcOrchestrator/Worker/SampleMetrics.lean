import RvcOrchestrator.Manager.SampleMetrics
import RvcOrchestrator.Worker.TestSetAudio

/-! # The metrics of a sample on the Worker

The driver computes them from the PCM bytes it has written, the verifier from the WAV file.
Both have an accumulation of their own, which differ in the texts of their errors.
-/

namespace RvcOrchestrator.Worker

open RvcOrchestrator.Foundation RvcOrchestrator.Manager

/-! ## Accumulation -/

structure PcmMetricErrors where
  invalidInput : String
  invalidValue : String
  emptyInput : String

def clippingThreshold : ℚ := 999 / 1000

def silenceThreshold : ℚ := 1 / 10000

def integerPcmRails (sampleWidthBytes : Nat) : Pcm.Rails :=
  let scale : Int := 2 ^ (sampleWidthBytes * 8 - 1)
  let maximum := scale - 1
  { scale
    negativeClip := -⌈scale * clippingThreshold⌉
    positiveClip := ⌈maximum * clippingThreshold⌉
    silence := silenceThreshold }

def accumulateValue (errors : PcmMetricErrors) (rails : Pcm.Rails) (tally : Pcm.Tally)
    (value : Int) : Except String Pcm.Tally :=
  let minimum := -rails.scale
  let maximum := rails.scale - 1
  if minimum ≤ value ∧ value ≤ maximum then .ok (tally.add rails value)
  else .error errors.invalidValue

/-- `_accumulate_integer_pcm`, of which there are two. -/
def accumulateIntegerPcmWith (errors : PcmMetricErrors) (values : List Int)
    (sampleWidthBytes : Nat) : Except String Pcm.Tally :=
  if sampleWidthBytes ∉ [1, 2, 3, 4] ∨ values = [] then .error errors.invalidInput
  else values.foldlM (accumulateValue errors (integerPcmRails sampleWidthBytes)) .zero

/-- `_finish_integer_pcm_metrics`, of which there are two. -/
def finishIntegerPcmMetricsWith (errors : PcmMetricErrors) (sqrt : ℚ → ℚ) (tally : Pcm.Tally) :
    Except String SampleMetricValues :=
  if tally.count = 0 then .error errors.emptyInput
  else
    .ok
      { peakAmplitude := tally.peak
        rms := sqrt (tally.squareSum / tally.count)
        clippingRatio := tally.clipped / tally.count
        silenceRatio := tally.silent / tally.count }

/-! ## The verifier -/

namespace NativeInference

def metricErrors : PcmMetricErrors where
  invalidInput := "sample PCM metrics input is invalid"
  invalidValue := "sample PCM metric value is invalid"
  emptyInput := "sample PCM metrics input is empty"

def accumulateIntegerPcm : List Int → Nat → Except String Pcm.Tally :=
  accumulateIntegerPcmWith metricErrors

def finishIntegerPcmMetrics : (ℚ → ℚ) → Pcm.Tally → Except String SampleMetricValues :=
  finishIntegerPcmMetricsWith metricErrors

def accumulateFrames (audio : WaveRead) (state : Nat × Pcm.Tally) (frameBytes : List UInt8) :
    Except String (Nat × Pcm.Tally) :=
  if frameBytes = [] ∨ frameBytes.length % audio.frameSize ≠ 0 then
    .error "sample PCM frames are truncated"
  else
    (accumulateIntegerPcm (Pcm.decodeSigned 2 frameBytes) 2).map fun tally =>
      (state.1 + frameBytes.length / audio.frameSize, state.2.merge tally)

/-- Reading in blocks up to the number of frames. -/
def decodeMetricFrames (audio : WaveRead) :
    Nat → Nat × Pcm.Tally → List UInt8 → Except String ((Nat × Pcm.Tally) × List UInt8)
  | 0, state, rest => .ok (state, rest)
  | fuel + 1, state, rest =>
      if audio.nframes ≤ state.1 then .ok (state, rest)
      else
        let (frameBytes, rest) := audio.readframes (min 65536 (audio.nframes - state.1)) rest
        match accumulateFrames audio state frameBytes with
        | .error error => .error error
        | .ok state => decodeMetricFrames audio fuel state rest

/-- `_inspect_pcm_wave` for an output: with metrics. -/
def inspectGeneratedPcmWave (sha256 : List UInt8 → String) (sqrt : ℚ → ℚ) (maximum : Nat)
    (bytes : List UInt8) : Except String (PcmEvidence × SampleMetricValues) :=
  if bytes.length = 0 ∨ maximum < bytes.length then
    .error "inference file metadata is invalid"
  else
    match WaveRead.initfp bytes with
    | .error exception => .error (exception.text "sample WAV structure is invalid")
    | .ok audio =>
        if audio.channels = 0 ∨ audio.sampleRate = 0 ∨ audio.nframes = 0 ∨
            audio.sampleWidth ∉ [1, 2, 3, 4] then
          .error "sample WAV is not bounded PCM"
        else if audio.channels ≠ 1 ∨ audio.sampleWidth ≠ 2 then
          .error "generated sample WAV must be mono PCM16"
        else
          match decodeMetricFrames audio audio.nframes (0, .zero) audio.data with
          | .error error => .error error
          | .ok ((decoded, tally), rest) =>
              if decoded ≠ audio.nframes ∨ (audio.readframes 1 rest).1 ≠ [] then
                .error "sample PCM frame count is invalid"
              else
                (finishIntegerPcmMetrics sqrt tally).map fun metrics =>
                  ({ sizeBytes := bytes.length
                     sha256 := sha256 bytes
                     sampleRateHz := audio.sampleRate
                     channels := audio.channels
                     sampleWidthBytes := audio.sampleWidth
                     frameCount := audio.nframes
                     durationSeconds := audio.nframes / audio.sampleRate }, metrics)

end NativeInference

/-! ## The driver -/

namespace NativeInferenceDriver

def metricErrors : PcmMetricErrors where
  invalidInput := "sample output PCM metrics input is invalid"
  invalidValue := "sample output PCM value is invalid"
  emptyInput := "sample output PCM metrics input is empty"

def accumulateIntegerPcm : List Int → Nat → Except String Pcm.Tally :=
  accumulateIntegerPcmWith metricErrors

def finishIntegerPcmMetrics : (ℚ → ℚ) → Pcm.Tally → Except String SampleMetricValues :=
  finishIntegerPcmMetricsWith metricErrors

def chunkBytes : Nat := 65536 * 2

/-- The offsets are the multiples of `chunkBytes` below the length. -/
def contentChunks (content : List UInt8) : List (List UInt8) :=
  (List.range ((content.length + chunkBytes - 1) / chunkBytes)).map fun index =>
    WaveRead.slice content (index * chunkBytes) chunkBytes

def accumulateChunk (tally : Pcm.Tally) (chunk : List UInt8) : Except String Pcm.Tally :=
  (accumulateIntegerPcm (Pcm.decodeSigned 2 chunk) 2).map tally.merge

def pcm16Metrics (sqrt : ℚ → ℚ) (content : List UInt8) : Except String SampleMetricValues :=
  if content = [] ∨ content.length % 2 ≠ 0 then .error "sample output has no PCM values"
  else
    match (contentChunks content).foldlM accumulateChunk .zero with
    | .error error => .error error
    | .ok tally => finishIntegerPcmMetrics sqrt tally

end NativeInferenceDriver

/-! ## Decoded samples -/

/-- Decoded samples lie in the range, so that no value is refused. -/
theorem accumulateIntegerPcmWith_eq (errors : PcmMetricErrors) {sampleWidthBytes : Nat}
    (supported : sampleWidthBytes ∈ [1, 2, 3, 4]) {bytes : List UInt8} (nonempty : bytes ≠ [])
    (whole : sampleWidthBytes ∣ bytes.length) :
    accumulateIntegerPcmWith errors (Pcm.decode sampleWidthBytes bytes) sampleWidthBytes =
      .ok (Pcm.Tally.ofSamples (integerPcmRails sampleWidthBytes)
        (Pcm.decode sampleWidthBytes bytes)) := by
  have positive : 0 < sampleWidthBytes := by
    simp only [List.mem_cons, List.not_mem_nil, or_false] at supported
    omega
  have some_byte : 0 < bytes.length := List.length_pos_iff.mpr nonempty
  have some_value : Pcm.decode sampleWidthBytes bytes ≠ [] := by
    intro nothing
    have length := Pcm.decode_length sampleWidthBytes bytes
    have some_sample := Nat.div_pos (Nat.le_of_dvd some_byte whole) positive
    rw [nothing, List.length_nil] at length
    omega
  have within : ∀ value ∈ Pcm.decode sampleWidthBytes bytes,
      -(2 ^ (sampleWidthBytes * 8 - 1) : Int) ≤ value ∧
        value ≤ 2 ^ (sampleWidthBytes * 8 - 1) - 1 :=
    fun value member => Pcm.decode_bounds positive member
  have folded : ∀ (values : List Int) (tally : Pcm.Tally),
      (∀ value ∈ values, -(2 ^ (sampleWidthBytes * 8 - 1) : Int) ≤ value ∧
        value ≤ 2 ^ (sampleWidthBytes * 8 - 1) - 1) →
      values.foldlM (accumulateValue errors (integerPcmRails sampleWidthBytes)) tally =
        .ok (values.foldl (Pcm.Tally.add (integerPcmRails sampleWidthBytes)) tally) := by
    intro values
    induction values with
    | nil => exact fun _ _ => rfl
    | cons value values induction =>
        intro tally bounded
        have accumulated : accumulateValue errors (integerPcmRails sampleWidthBytes) tally value =
            .ok (tally.add (integerPcmRails sampleWidthBytes) value) :=
          if_pos (bounded value List.mem_cons_self)
        rw [List.foldlM_cons, accumulated]
        exact induction _ fun other member => bounded other (List.mem_cons_of_mem _ member)
  have accepted : ¬(sampleWidthBytes ∉ [1, 2, 3, 4] ∨ Pcm.decode sampleWidthBytes bytes = []) := by
    rintro (unsupported | nothing)
    · exact unsupported supported
    · exact some_value nothing
  rw [accumulateIntegerPcmWith, if_neg accepted, folded _ _ within]
  rfl

/-! ## Chunks of whole frames -/

section

variable {audio : WaveRead} {bytes : List UInt8} {chunks : List (List UInt8)}

theorem decode_two (bytes : List UInt8) : Pcm.decode 2 bytes = Pcm.decodeSigned 2 bytes :=
  if_neg (by decide)

def pcm16Tally (bytes : List UInt8) : Pcm.Tally :=
  .ofSamples (integerPcmRails 2) (Pcm.decodeSigned 2 bytes)

theorem pcm16Tally_nil : pcm16Tally [] = .zero := rfl

theorem pcm16Tally_append {left : List UInt8} (whole : 2 ∣ left.length) (right : List UInt8) :
    pcm16Tally (left ++ right) = (pcm16Tally left).merge (pcm16Tally right) := by
  have samples := Pcm.decode_append (Nat.zero_lt_two) whole right
  rw [decode_two, decode_two, decode_two] at samples
  rw [pcm16Tally, samples, Pcm.Tally.ofSamples_append]
  rfl

theorem accumulate_pcm16 (errors : PcmMetricErrors) (nonempty : bytes ≠ [])
    (whole : 2 ∣ bytes.length) :
    accumulateIntegerPcmWith errors (Pcm.decodeSigned 2 bytes) 2 = .ok (pcm16Tally bytes) := by
  have supported : 2 ∈ [1, 2, 3, 4] := by decide
  have accumulated := accumulateIntegerPcmWith_eq errors supported nonempty whole
  rw [decode_two] at accumulated
  exact accumulated

/-- A WAV file of PCM16 has frames of two bytes. -/
structure MonoPcm16 (audio : WaveRead) : Prop where
  channels : audio.channels = 1
  sampleWidth : audio.sampleWidth = 2

theorem MonoPcm16.frameSize (mono : MonoPcm16 audio) : audio.frameSize = 2 := by
  rw [WaveRead.frameSize, mono.channels, mono.sampleWidth]

theorem MonoPcm16.supported {audio : WaveRead} (mono : MonoPcm16 audio) :
    audio.sampleWidth ∈ [1, 2, 3, 4] := by
  rw [mono.sampleWidth]
  decide

theorem MonoPcm16.someChannel {audio : WaveRead} (mono : MonoPcm16 audio) : 0 < audio.channels := by
  rw [mono.channels]
  exact Nat.one_pos

namespace NativeInference

theorem accumulateFrames_eq (mono : MonoPcm16 audio) (state : Nat × Pcm.Tally)
    (nonempty : bytes ≠ []) (whole : 2 ∣ bytes.length) :
    accumulateFrames audio state bytes =
      .ok (state.1 + bytes.length / 2, state.2.merge (pcm16Tally bytes)) := by
  have accepted : ¬(bytes = [] ∨ bytes.length % audio.frameSize ≠ 0) := by
    rw [mono.frameSize]
    rintro (nothing | misaligned)
    · exact nonempty nothing
    · exact misaligned (Nat.mod_eq_zero_of_dvd whole)
  rw [accumulateFrames, if_neg accepted, accumulateIntegerPcm, accumulate_pcm16 _ nonempty whole,
    mono.frameSize]
  rfl

/-- The blocks of a file, whatever their lengths in frames are. -/
theorem foldlM_accumulateFrames (mono : MonoPcm16 audio) (split : Pcm.Split 2 bytes chunks)
    (state : Nat × Pcm.Tally) :
    chunks.foldlM (accumulateFrames audio) state =
      .ok (state.1 + bytes.length / 2, state.2.merge (pcm16Tally bytes)) := by
  induction chunks generalizing bytes state with
  | nil =>
      rw [← split.whole, List.flatten_nil, pcm16Tally_nil, Pcm.Tally.merge_zero]
      rfl
  | cons chunk chunks induction =>
      have whole := split.wholeSamples chunk List.mem_cons_self
      rw [List.foldlM_cons, accumulateFrames_eq mono state
        (split.nonempty chunk List.mem_cons_self) whole, ← split.whole, List.flatten_cons,
        pcm16Tally_append whole, List.length_append, Nat.add_div_of_dvd_right whole,
        ← Nat.add_assoc, ← Pcm.Tally.merge_assoc]
      exact induction split.tail _

/-- If all frames are there, they are read, and what follows them is left. -/
theorem decodeMetricFrames_of_complete (mono : MonoPcm16 audio) {fuel : Nat}
    {state : Nat × Pcm.Tally} {rest : List UInt8} (atMost : state.1 ≤ audio.nframes)
    (complete : (audio.nframes - state.1) * 2 ≤ rest.length)
    (enough : audio.nframes - state.1 ≤ fuel) :
    decodeMetricFrames audio fuel state rest =
      .ok ((audio.nframes, state.2.merge (pcm16Tally (rest.take ((audio.nframes - state.1) * 2)))),
        rest.drop ((audio.nframes - state.1) * 2)) := by
  induction fuel generalizing state rest with
  | zero =>
      have finished : state.1 = audio.nframes := by omega
      rw [decodeMetricFrames, ← finished, Nat.sub_self, Nat.zero_mul, List.take_zero,
        pcm16Tally_nil, Pcm.Tally.merge_zero]
      rfl
  | succ fuel induction =>
      rw [decodeMetricFrames]
      split
      · next finished =>
          have same : state.1 = audio.nframes := by omega
          rw [← same, Nat.sub_self, Nat.zero_mul, List.take_zero, pcm16Tally_nil,
            Pcm.Tally.merge_zero]
          rfl
      · next unfinished =>
          have size := mono.frameSize
          have block : min 65536 (audio.nframes - state.1) * audio.frameSize ≤ rest.length := by
            rw [size]
            omega
          have length := WaveRead.readframes_length block
          have remaining := audio.readframes_rest (min 65536 (audio.nframes - state.1)) rest
          have nonempty : (audio.readframes (min 65536 (audio.nframes - state.1)) rest).1 ≠ [] := by
            intro nothing
            rw [nothing, List.length_nil, size] at length
            omega
          have whole : 2 ∣
              (audio.readframes (min 65536 (audio.nframes - state.1)) rest).1.length := by
            rw [length, size]
            exact Nat.dvd_mul_left ..
          have split : (audio.nframes - state.1) * 2 =
              min 65536 (audio.nframes - state.1) * 2 +
                (audio.nframes - (state.1 + min 65536 (audio.nframes - state.1))) * 2 := by
            omega
          have read : (audio.readframes (min 65536 (audio.nframes - state.1)) rest).1.length / 2 =
              min 65536 (audio.nframes - state.1) := by
            rw [length, size, Nat.mul_div_cancel _ Nat.zero_lt_two]
          rw [size] at remaining
          simp only
          rw [accumulateFrames_eq mono state nonempty whole, read]
          simp only
          rw [induction (by simp only; omega) (by simp only; omega) (by simp only; omega),
            Pcm.Tally.merge_assoc, ← pcm16Tally_append whole, split, List.take_add,
            WaveRead.readframes, size, List.drop_drop]

end NativeInference

namespace NativeInferenceDriver

theorem accumulateChunk_eq (tally : Pcm.Tally) (nonempty : bytes ≠ []) (whole : 2 ∣ bytes.length) :
    accumulateChunk tally bytes = .ok (tally.merge (pcm16Tally bytes)) := by
  rw [accumulateChunk, accumulateIntegerPcm, accumulate_pcm16 _ nonempty whole]
  rfl

theorem foldlM_accumulateChunk (split : Pcm.Split 2 bytes chunks) (tally : Pcm.Tally) :
    chunks.foldlM accumulateChunk tally = .ok (tally.merge (pcm16Tally bytes)) := by
  induction chunks generalizing bytes tally with
  | nil =>
      rw [← split.whole, List.flatten_nil, pcm16Tally_nil, Pcm.Tally.merge_zero]
      rfl
  | cons chunk chunks induction =>
      have whole := split.wholeSamples chunk List.mem_cons_self
      rw [List.foldlM_cons, accumulateChunk_eq tally
        (split.nonempty chunk List.mem_cons_self) whole, ← split.whole, List.flatten_cons,
        pcm16Tally_append whole, ← Pcm.Tally.merge_assoc]
      exact induction split.tail _

theorem contentChunks_split (whole : 2 ∣ bytes.length) :
    Pcm.Split 2 bytes (contentChunks bytes) where
  whole := by
    rw [contentChunks, Pcm.flatten_slices]
    apply List.take_of_length_le
    rw [chunkBytes]
    omega
  nonempty chunk member := by
    rcases List.mem_map.mp member with ⟨index, inRange, rfl⟩
    have below := List.mem_range.mp inRange
    intro nothing
    have length := congrArg List.length nothing
    rw [WaveRead.slice, List.length_take, List.length_drop, List.length_nil] at length
    rw [chunkBytes] at below length
    omega
  wholeSamples chunk member := by
    rcases List.mem_map.mp member with ⟨index, -, rfl⟩
    rw [WaveRead.slice, List.length_take, List.length_drop, chunkBytes]
    omega

theorem pcm16Metrics_eq (sqrt : ℚ → ℚ) (nonempty : bytes ≠ []) (whole : 2 ∣ bytes.length) :
    pcm16Metrics sqrt bytes = finishIntegerPcmMetrics sqrt (pcm16Tally bytes) := by
  have accepted : ¬(bytes = [] ∨ bytes.length % 2 ≠ 0) := by
    rintro (nothing | odd)
    · exact nonempty nothing
    · exact odd (Nat.mod_eq_zero_of_dvd whole)
  have tallied := foldlM_accumulateChunk (contentChunks_split whole) .zero
  rw [Pcm.Tally.zero_merge] at tallied
  rw [pcm16Metrics, if_neg accepted, tallied]

end NativeInferenceDriver

end

end RvcOrchestrator.Worker

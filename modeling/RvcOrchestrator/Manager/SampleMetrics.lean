import RvcOrchestrator.Foundation.Pcm
import RvcOrchestrator.Manager.Samples
import RvcOrchestrator.Manager.TestSetAudio

/-! # The metrics of a sample on the Manager

The Manager reads the WAV file of a sample in blocks and tallies their PCM values. The
arithmetic is that of exact rationals, and no deadline is set.
-/

namespace RvcOrchestrator.Manager

open RvcOrchestrator.Foundation

def samplePcmClippingThreshold : ℚ := 999 / 1000

def samplePcmSilenceThreshold : ℚ := 1 / 10000

/-- Signed PCM has one more negative magnitude than positive magnitude: each rail has a
quantized threshold of its own. -/
def pcmRails (sampleWidth : Nat) : Pcm.Rails :=
  let integerScale : Int := 2 ^ (sampleWidth * 8 - 1)
  { scale := integerScale
    negativeClip := -⌈integerScale * samplePcmClippingThreshold⌉
    positiveClip := ⌈((integerScale - 1 : Int) : ℚ) * samplePcmClippingThreshold⌉
    silence := samplePcmSilenceThreshold }

/-- `none` where the width is not supported. -/
def pcmValues (sampleWidth : Nat) (chunk : List UInt8) : Option (List Int) :=
  match sampleWidth with
  | 1 => some (Pcm.decodeOffset chunk)
  | 2 => some (Pcm.decodeSigned 2 chunk)
  | 3 => some (Pcm.decodeSigned 3 chunk)
  | 4 => some (Pcm.decodeSigned 4 chunk)
  | _ => none

def accumulatePcm (sampleWidth : Nat) (chunk : List UInt8) : Except String Pcm.Tally :=
  if chunk.length % sampleWidth ≠ 0 then .error "truncated_wav_pcm"
  else
    match pcmValues sampleWidth chunk with
    | none => .error "wav_sample_width_not_supported"
    | some values => .ok (Pcm.Tally.ofSamples (pcmRails sampleWidth) values)

structure PcmAccumulation where
  framesRemaining : Nat
  decodedBytes : Nat
  tally : Pcm.Tally
deriving DecidableEq

def accumulateBlock (audio : WaveRead) (state : PcmAccumulation) (chunk : List UInt8) :
    Except String PcmAccumulation :=
  let consumedFrames := chunk.length / audio.frameSize
  if consumedFrames = 0 then .error "truncated_wav_pcm"
  else
    (accumulatePcm audio.sampleWidth chunk).map fun tally =>
      { framesRemaining := state.framesRemaining - consumedFrames
        decodedBytes := state.decodedBytes + chunk.length
        tally := state.tally.merge tally }

/-- Reading in blocks until all frames are read or nothing more comes. -/
def accumulateBlocks (audio : WaveRead) :
    Nat → PcmAccumulation → List UInt8 → Except String PcmAccumulation
  | 0, state, _ => .ok state
  | fuel + 1, state, rest =>
      if state.framesRemaining = 0 then .ok state
      else
        let (chunk, rest) := audio.readframes (min state.framesRemaining 65536) rest
        if chunk = [] then .ok state
        else
          match accumulateBlock audio state chunk with
          | .error error => .error error
          | .ok state => accumulateBlocks audio fuel state rest

structure SampleAudioSettings where
  sampleMaxChannels : Nat
  testSetMinSampleRateHz : Nat
  testSetMaxSampleRateHz : Nat
  sampleMaxDurationSeconds : ℚ

def sampleMetricValues (sqrt : ℚ → ℚ) (tally : Pcm.Tally) : SampleMetricValues where
  peakAmplitude := tally.peak
  rms := sqrt (tally.squareSum / tally.count)
  clippingRatio := tally.clipped / tally.count
  silenceRatio := tally.silent / tally.count

/-- Fails with a failure code. -/
def inspectSamplePcmWav (sqrt : ℚ → ℚ) (settings : SampleAudioSettings) (bytes : List UInt8) :
    Except String SamplePcmInspection :=
  if riffSignature bytes = false then .error "invalid_wav_signature"
  else if WaveRead.unsigned (WaveRead.slice bytes 4 4) + 8 ≠ bytes.length then
    .error "wav_riff_size_mismatch"
  else
    match WaveRead.initfp bytes with
    | .error exception => .error (exception.text "invalid_wav_structure")
    | .ok audio =>
        if audio.channels < 1 ∨ settings.sampleMaxChannels < audio.channels then
          .error "wav_channel_limit"
        else if audio.sampleRate < settings.testSetMinSampleRateHz ∨
            settings.testSetMaxSampleRateHz < audio.sampleRate then
          .error "wav_sample_rate_limit"
        else if audio.sampleWidth ∉ [1, 2, 3, 4] then .error "wav_sample_width_not_supported"
        else if audio.nframes = 0 then .error "empty_wav"
        else if settings.sampleMaxDurationSeconds < audio.nframes / audio.sampleRate then
          .error "wav_duration_limit"
        else
          match accumulateBlocks audio (audio.data.length + 1)
              { framesRemaining := audio.nframes, decodedBytes := 0, tally := .zero }
              audio.data with
          | .error error => .error error
          | .ok state =>
              if state.framesRemaining ≠ 0 ∨
                  state.decodedBytes ≠ audio.nframes * audio.channels * audio.sampleWidth ∨
                  state.tally.count ≠ audio.nframes * audio.channels then
                .error "truncated_wav_pcm"
              else
                .ok
                  { sampleRateHz := audio.sampleRate
                    channels := audio.channels
                    durationSeconds := audio.nframes / audio.sampleRate
                    metrics := sampleMetricValues sqrt state.tally }

/-! ## Blocks of whole frames -/

theorem pcmValues_eq {sampleWidth : Nat} (supported : sampleWidth ∈ [1, 2, 3, 4])
    (chunk : List UInt8) :
    pcmValues sampleWidth chunk = some (Pcm.decode sampleWidth chunk) := by
  simp only [List.mem_cons, List.not_mem_nil, or_false] at supported
  rcases supported with rfl | rfl | rfl | rfl
  · rfl
  · rfl
  · rfl
  · rfl

theorem accumulatePcm_eq {sampleWidth : Nat} (supported : sampleWidth ∈ [1, 2, 3, 4])
    {chunk : List UInt8} (whole : sampleWidth ∣ chunk.length) :
    accumulatePcm sampleWidth chunk =
      .ok (Pcm.Tally.ofSamples (pcmRails sampleWidth) (Pcm.decode sampleWidth chunk)) := by
  rw [accumulatePcm, if_neg (not_not.mpr (Nat.mod_eq_zero_of_dvd whole)), pcmValues_eq supported]

def PcmAccumulation.advance (audio : WaveRead) (state : PcmAccumulation) (bytes : List UInt8) :
    PcmAccumulation where
  framesRemaining := state.framesRemaining - bytes.length / audio.frameSize
  decodedBytes := state.decodedBytes + bytes.length
  tally := state.tally.merge
    (Pcm.Tally.ofSamples (pcmRails audio.sampleWidth) (Pcm.decode audio.sampleWidth bytes))

section

variable {audio : WaveRead}

theorem frameSize_pos (supported : audio.sampleWidth ∈ [1, 2, 3, 4])
    (channels : 0 < audio.channels) : 0 < audio.frameSize := by
  have width : 0 < audio.sampleWidth := by
    simp only [List.mem_cons, List.not_mem_nil, or_false] at supported
    omega
  exact Nat.mul_pos channels width

theorem sampleWidth_dvd_frameSize (audio : WaveRead) : audio.sampleWidth ∣ audio.frameSize :=
  Nat.dvd_mul_left ..

theorem PcmAccumulation.advance_nil (state : PcmAccumulation) : state.advance audio [] = state := by
  have nothing : Pcm.decode audio.sampleWidth [] = [] := by
    rw [← List.length_eq_zero_iff, Pcm.decode_length]
    exact Nat.zero_div _
  cases state with
  | mk framesRemaining decodedBytes tally =>
      simp only [advance, List.length_nil, Nat.zero_div, Nat.sub_zero, Nat.add_zero, nothing]
      congr 1
      exact Pcm.Tally.merge_zero tally

theorem PcmAccumulation.advance_append (positive : 0 < audio.sampleWidth)
    (state : PcmAccumulation) {left : List UInt8} (whole : audio.frameSize ∣ left.length)
    (right : List UInt8) :
    state.advance audio (left ++ right) = (state.advance audio left).advance audio right := by
  have samples := Pcm.decode_append positive ((sampleWidth_dvd_frameSize audio).trans whole) right
  simp only [advance, List.length_append, samples, Pcm.Tally.ofSamples_append,
    Pcm.Tally.merge_assoc, Nat.add_div_of_dvd_right whole, Nat.sub_sub, Nat.add_assoc]

/-- A block of whole frames. -/
theorem accumulateBlock_eq (supported : audio.sampleWidth ∈ [1, 2, 3, 4])
    (channels : 0 < audio.channels) (state : PcmAccumulation) {chunk : List UInt8}
    (nonempty : chunk ≠ []) (whole : audio.frameSize ∣ chunk.length) :
    accumulateBlock audio state chunk = .ok (state.advance audio chunk) := by
  have positive := frameSize_pos supported channels
  have some_byte : 0 < chunk.length := List.length_pos_iff.mpr nonempty
  have consumed : chunk.length / audio.frameSize ≠ 0 := by
    have some_frame := Nat.div_pos (Nat.le_of_dvd some_byte whole) positive
    omega
  rw [accumulateBlock]
  simp only [if_neg consumed]
  rw [accumulatePcm_eq supported ((sampleWidth_dvd_frameSize audio).trans whole)]
  rfl

/-- The blocks of a file, whatever their lengths in frames are. -/
theorem foldlM_accumulateBlock (supported : audio.sampleWidth ∈ [1, 2, 3, 4])
    (channels : 0 < audio.channels) {bytes : List UInt8} {chunks : List (List UInt8)}
    (split : Pcm.Split audio.frameSize bytes chunks) (state : PcmAccumulation) :
    chunks.foldlM (accumulateBlock audio) state = .ok (state.advance audio bytes) := by
  have positive : 0 < audio.sampleWidth :=
    Nat.pos_of_dvd_of_pos (sampleWidth_dvd_frameSize audio) (frameSize_pos supported channels)
  induction chunks generalizing bytes state with
  | nil =>
      rw [← split.whole, List.flatten_nil, PcmAccumulation.advance_nil]
      rfl
  | cons chunk chunks induction =>
      have whole := split.wholeSamples chunk List.mem_cons_self
      rw [List.foldlM_cons, accumulateBlock_eq supported channels state
        (split.nonempty chunk List.mem_cons_self) whole, ← split.whole, List.flatten_cons,
        PcmAccumulation.advance_append positive state whole]
      exact induction split.tail _

/-- If all frames that remain are there, they are read. -/
theorem accumulateBlocks_of_complete (supported : audio.sampleWidth ∈ [1, 2, 3, 4])
    (channels : 0 < audio.channels) {fuel : Nat} {state : PcmAccumulation} {rest : List UInt8}
    (complete : state.framesRemaining * audio.frameSize ≤ rest.length)
    (enough : rest.length < fuel) :
    accumulateBlocks audio fuel state rest =
      .ok (state.advance audio (rest.take (state.framesRemaining * audio.frameSize))) := by
  have positive := frameSize_pos supported channels
  have width : 0 < audio.sampleWidth :=
    Nat.pos_of_dvd_of_pos (sampleWidth_dvd_frameSize audio) positive
  induction fuel generalizing state rest with
  | zero => omega
  | succ fuel induction =>
      rw [accumulateBlocks]
      split
      · next finished =>
          rw [finished, Nat.zero_mul, List.take_zero, PcmAccumulation.advance_nil]
      · next unfinished =>
          have block : min state.framesRemaining 65536 * audio.frameSize ≤ rest.length :=
            le_trans (Nat.mul_le_mul_right _ (Nat.min_le_left ..)) complete
          have length := WaveRead.readframes_length block
          have remaining := audio.readframes_rest (min state.framesRemaining 65536) rest
          have some_byte : 0 < min state.framesRemaining 65536 * audio.frameSize :=
            Nat.mul_pos (by omega) positive
          have nonempty : (audio.readframes (min state.framesRemaining 65536) rest).1 ≠ [] := by
            intro nothing
            rw [nothing, List.length_nil] at length
            omega
          have whole : audio.frameSize ∣
              (audio.readframes (min state.framesRemaining 65536) rest).1.length := by
            rw [length]
            exact Nat.dvd_mul_left ..
          have split : state.framesRemaining * audio.frameSize =
              min state.framesRemaining 65536 * audio.frameSize +
                (state.framesRemaining - min state.framesRemaining 65536) * audio.frameSize := by
            rw [← Nat.add_mul]
            congr 1
            omega
          have left : (state.advance audio
              (audio.readframes (min state.framesRemaining 65536) rest).1).framesRemaining =
                state.framesRemaining - min state.framesRemaining 65536 := by
            rw [PcmAccumulation.advance, length, Nat.mul_div_cancel _ positive]
          simp only
          rw [if_neg nonempty, accumulateBlock_eq supported channels state nonempty whole]
          simp only
          rw [induction (by rw [left]; omega) (by omega), left,
            ← PcmAccumulation.advance_append width state whole, split, List.take_add]
          rfl

theorem accumulateBlock_decodedBytes {state after : PcmAccumulation} {chunk : List UInt8}
    (accumulated : accumulateBlock audio state chunk = .ok after) :
    after.decodedBytes = state.decodedBytes + chunk.length := by
  rw [accumulateBlock] at accumulated
  split at accumulated
  · cases accumulated
  · cases added : accumulatePcm audio.sampleWidth chunk with
    | error error =>
        rw [added] at accumulated
        cases accumulated
    | ok tally =>
        rw [added] at accumulated
        cases accumulated
        rfl

/-- No more bytes are read than there are. -/
theorem accumulateBlocks_le {fuel : Nat} {state after : PcmAccumulation} {rest : List UInt8}
    (accumulated : accumulateBlocks audio fuel state rest = .ok after) :
    after.decodedBytes ≤ state.decodedBytes + rest.length := by
  induction fuel generalizing state rest with
  | zero =>
      cases accumulated
      exact Nat.le_add_right ..
  | succ fuel induction =>
      rw [accumulateBlocks] at accumulated
      split at accumulated
      · cases accumulated
        exact Nat.le_add_right ..
      · simp only at accumulated
        split at accumulated
        · cases accumulated
          exact Nat.le_add_right ..
        · split at accumulated
          · cases accumulated
          · next next_state added =>
              have bound := induction accumulated
              rw [accumulateBlock_decodedBytes added] at bound
              have parts : (audio.readframes (min state.framesRemaining 65536) rest).1.length +
                  (audio.readframes (min state.framesRemaining 65536) rest).2.length =
                    rest.length := by
                rw [← List.length_append, WaveRead.readframes, List.take_append_drop]
              omega

end

end RvcOrchestrator.Manager

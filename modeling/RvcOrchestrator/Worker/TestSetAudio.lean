import RvcOrchestrator.Manager.TestSetAudio

/-! # The audio of test-set items on the Worker

The Worker checks a downloaded item twice: when it is materialized and before native
inference. The files are regular, private to the Worker and unchanged while they are read.
-/

namespace RvcOrchestrator.Worker

open RvcOrchestrator.Foundation

structure TestSetAudioItem where
  sizeBytes : Nat
  sha256 : String
  sampleRateHz : Nat
  channels : Nat
  durationSeconds : ℚ
deriving DecidableEq

structure TestSetMaterializationLimits where
  minSampleRateHz : Nat
  maxSampleRateHz : Nat
  maxChannels : Nat
  maxDurationSeconds : ℚ
  durationToleranceSeconds : ℚ
  tolerant : 0 < durationToleranceSeconds

structure PcmWaveInspection where
  sizeBytes : Nat
  sha256 : String
  sampleRateHz : Nat
  channels : Nat
  durationSeconds : ℚ
deriving DecidableEq

/-- Reading in blocks up to the number of frames: the frames read and what is left, or
`none` where a block is empty or ends within a frame. -/
def decodeFrames (audio : WaveRead) : Nat → Nat → List UInt8 → Option (Nat × List UInt8)
  | 0, decodedFrames, rest => some (decodedFrames, rest)
  | fuel + 1, decodedFrames, rest =>
      if audio.nframes ≤ decodedFrames then some (decodedFrames, rest)
      else
        let (frameBytes, rest) := audio.readframes (min 65536 (audio.nframes - decodedFrames)) rest
        if frameBytes = [] ∨ frameBytes.length % audio.frameSize ≠ 0 then none
        else decodeFrames audio fuel (decodedFrames + frameBytes.length / audio.frameSize) rest

section

variable (sha256 : List UInt8 → String)

def inspectPcmWave (limits : TestSetMaterializationLimits) (item : TestSetAudioItem)
    (bytes : List UInt8) : Except String PcmWaveInspection :=
  if bytes.length ≠ item.sizeBytes then .error "TestSet item metadata is invalid"
  else if Manager.riffSignature bytes = false then .error "TestSet item is not a RIFF/WAVE file"
  else if sha256 bytes ≠ item.sha256 then .error "TestSet item checksum is invalid"
  else
    match WaveRead.initfp bytes with
    | .error exception => .error (exception.text "TestSet WAV structure is invalid")
    | .ok audio =>
        if audio.channels = 0 ∨ audio.sampleRate = 0 ∨ audio.sampleWidth < 1 ∨
            4 < audio.sampleWidth then
          .error "TestSet item must use uncompressed PCM"
        else if audio.nframes = 0 then .error "TestSet item has no PCM frames"
        else
          match decodeFrames audio audio.nframes 0 audio.data with
          | none => .error "TestSet PCM data is truncated"
          | some (decodedFrames, rest) =>
              if audio.nframes < decodedFrames then
                .error "TestSet PCM frame count is inconsistent"
              else if decodedFrames ≠ audio.nframes then .error "TestSet PCM data is truncated"
              else if (audio.readframes 1 rest).1 ≠ [] then
                .error "TestSet PCM frame count is inconsistent"
              else
                let duration : ℚ := audio.nframes / audio.sampleRate
                if audio.sampleRate ≠ item.sampleRateHz ∨ audio.channels ≠ item.channels ∨
                    audio.sampleRate < limits.minSampleRateHz ∨
                    limits.maxSampleRateHz < audio.sampleRate ∨
                    limits.maxChannels < audio.channels ∨ limits.maxDurationSeconds < duration ∨
                    max limits.durationToleranceSeconds (1 / audio.sampleRate) <
                      |duration - item.durationSeconds| then
                  .error "TestSet PCM metadata does not match the verified descriptor"
                else
                  .ok
                    { sizeBytes := bytes.length
                      sha256 := sha256 bytes
                      sampleRateHz := audio.sampleRate
                      channels := audio.channels
                      durationSeconds := duration }

structure PcmEvidence where
  sizeBytes : Nat
  sha256 : String
  sampleRateHz : Nat
  channels : Nat
  sampleWidthBytes : Nat
  frameCount : Nat
  durationSeconds : ℚ
deriving DecidableEq

/-- `_inspect_pcm_wave` of native inference, for its inputs: without metrics. -/
def inspectInputPcmWave (maximum : Nat) (bytes : List UInt8) : Except String PcmEvidence :=
  if bytes.length = 0 ∨ maximum < bytes.length then
    .error "inference file metadata is invalid"
  else
    match WaveRead.initfp bytes with
    | .error exception => .error (exception.text "sample WAV structure is invalid")
    | .ok audio =>
        if audio.channels = 0 ∨ audio.sampleRate = 0 ∨ audio.nframes = 0 ∨
            audio.sampleWidth ∉ [1, 2, 3, 4] then
          .error "sample WAV is not bounded PCM"
        else
          match decodeFrames audio audio.nframes 0 audio.data with
          | none => .error "sample PCM frames are truncated"
          | some (decoded, rest) =>
              if decoded ≠ audio.nframes ∨ (audio.readframes 1 rest).1 ≠ [] then
                .error "sample PCM frame count is invalid"
              else
                .ok
                  { sizeBytes := bytes.length
                    sha256 := sha256 bytes
                    sampleRateHz := audio.sampleRate
                    channels := audio.channels
                    sampleWidthBytes := audio.sampleWidth
                    frameCount := audio.nframes
                    durationSeconds := audio.nframes / audio.sampleRate }

end

/-- If all frames are there, they are read, and what follows them is left. -/
theorem decodeFrames_of_complete {audio : WaveRead} (positive : 0 < audio.frameSize) {fuel : Nat}
    {decodedFrames : Nat} {rest : List UInt8} (atMost : decodedFrames ≤ audio.nframes)
    (complete : (audio.nframes - decodedFrames) * audio.frameSize ≤ rest.length)
    (enough : audio.nframes - decodedFrames ≤ fuel) :
    decodeFrames audio fuel decodedFrames rest =
      some (audio.nframes, rest.drop ((audio.nframes - decodedFrames) * audio.frameSize)) := by
  induction fuel generalizing decodedFrames rest with
  | zero =>
      have finished : decodedFrames = audio.nframes := by omega
      simp [decodeFrames, finished]
  | succ fuel induction =>
      rw [decodeFrames]
      split
      · next finished =>
          have same : decodedFrames = audio.nframes := by omega
          simp [same]
      · next unfinished =>
          have block : min 65536 (audio.nframes - decodedFrames) * audio.frameSize ≤
              rest.length :=
            le_trans (Nat.mul_le_mul_right _ (Nat.min_le_right ..)) complete
          have length := WaveRead.readframes_length block
          have remaining := audio.readframes_rest (min 65536 (audio.nframes - decodedFrames)) rest
          have some_byte : 0 < min 65536 (audio.nframes - decodedFrames) * audio.frameSize :=
            Nat.mul_pos (by omega) positive
          have split : (audio.nframes - decodedFrames) * audio.frameSize =
              min 65536 (audio.nframes - decodedFrames) * audio.frameSize +
                (audio.nframes - (decodedFrames + min 65536 (audio.nframes - decodedFrames))) *
                  audio.frameSize := by
            rw [← Nat.add_mul]
            congr 1
            omega
          simp only
          rw [length, Nat.mul_mod_left, Nat.mul_div_cancel _ positive, if_neg (by
            rintro (nothing | misaligned)
            · rw [nothing, List.length_nil] at length
              omega
            · exact misaligned rfl)]
          rw [induction (by omega) (by omega) (by omega), split, WaveRead.readframes,
            List.drop_drop]

end RvcOrchestrator.Worker

import RvcOrchestrator.Worker.TestSetAudio
import Mathlib.Algebra.Order.Field.Basic
import Mathlib.Data.Rat.Cast.Order
import Mathlib.Tactic.FieldSimp

/-! # Agreement on test-set audio

A file that the Manager accepts as an item is accepted by the Worker, before and in native
inference, exactly if its data chunk ends with a frame: the Worker refuses a file with
readable bytes after the last frame, at which the Manager does not look.
-/

namespace RvcOrchestrator.Fleet

open RvcOrchestrator.Foundation RvcOrchestrator.Manager RvcOrchestrator.Worker

/-- The Worker's limits are at least as wide as the Manager's. -/
structure AtLeastAsWide (settings : TestSetAudioSettings) (limits : TestSetMaterializationLimits) :
    Prop where
  minSampleRate : limits.minSampleRateHz ≤ settings.testSetMinSampleRateHz
  maxSampleRate : settings.testSetMaxSampleRateHz ≤ limits.maxSampleRateHz
  maxChannels : settings.testSetMaxChannels ≤ limits.maxChannels
  maxDuration : settings.testSetMaxDurationSeconds ≤ limits.maxDurationSeconds

def transferItem (sha256 : List UInt8 → String) (bytes : List UInt8)
    (inspection : WavInspection) : TestSetAudioItem where
  sizeBytes := bytes.length
  sha256 := sha256 bytes
  sampleRateHz := inspection.sampleRateHz
  channels := inspection.channels
  durationSeconds := inspection.durationSeconds

/-- Both checks of the Worker accept the bytes with the format of the inspection. -/
structure WorkerAccepts (sha256 : List UInt8 → String) (limits : TestSetMaterializationLimits)
    (bytes : List UInt8) (inspection : WavInspection) : Prop where
  materialized : ∃ found,
    inspectPcmWave sha256 limits (transferItem sha256 bytes inspection) bytes = .ok found ∧
      found.sampleRateHz = inspection.sampleRateHz ∧ found.channels = inspection.channels ∧
      found.durationSeconds = inspection.durationSeconds
  inference : ∃ evidence,
    inspectInputPcmWave sha256 (max (transferItem sha256 bytes inspection).sizeBytes 44) bytes =
        .ok evidence ∧
      evidence.sampleRateHz = inspection.sampleRateHz ∧
      evidence.channels = inspection.channels ∧
      (evidence.frameCount : ℚ) = inspection.durationSeconds * inspection.sampleRateHz

variable {sha256 : List UInt8 → String} {settings : TestSetAudioSettings}
  {limits : TestSetMaterializationLimits} {bytes : List UInt8} {inspection : WavInspection}
  {audio : WaveRead}

structure Described (audio : WaveRead) : Prop where
  channels : audio.channels ≠ 0
  sampleRate : audio.sampleRate ≠ 0
  sampleWidth : ¬(audio.sampleWidth < 1 ∨ 4 < audio.sampleWidth)
  nonempty : audio.nframes ≠ 0
  decoded : decodeFrames audio audio.nframes 0 audio.data =
    some (audio.nframes, audio.data.drop (audio.nframes * audio.frameSize))

theorem AcceptedAudio.described (accepted : AcceptedAudio settings bytes inspection audio) :
    Described audio where
  channels := by
    have atLeast := accepted.channels.1
    omega
  sampleRate := by
    have atLeast := accepted.sampleRate.1
    have positive := settings.minSampleRate
    omega
  sampleWidth := by
    have member := accepted.sampleWidth
    simp only [List.mem_cons, List.not_mem_nil, or_false] at member
    omega
  nonempty := accepted.nonempty
  decoded :=
    decodeFrames_of_complete accepted.frameSize_pos (Nat.zero_le _) accepted.complete le_rfl

theorem riffSignature_length (signature : riffSignature bytes = true) : 12 ≤ bytes.length := by
  simp only [riffSignature, Bool.and_eq_true, decide_eq_true_eq] at signature
  exact signature.1.1

/-- Nothing comes after the last frame exactly if the data ends with it. -/
theorem nothing_left_iff (accepted : AcceptedAudio settings bytes inspection audio) :
    (audio.readframes 1 (audio.data.drop (audio.nframes * audio.frameSize))).1 = [] ↔
      audio.WholeFrames := by
  rw [WaveRead.wholeFrames_iff accepted.frameSize_pos accepted.complete]
  have positive := accepted.frameSize_pos
  have complete := accepted.complete
  rw [WaveRead.readframes, List.take_eq_nil_iff, Nat.one_mul, List.drop_eq_nil_iff]
  omega

theorem inspectPcmWave_accepted (wide : AtLeastAsWide settings limits)
    (accepted : AcceptedAudio settings bytes inspection audio) :
    inspectPcmWave sha256 limits (transferItem sha256 bytes inspection) bytes =
      if (audio.readframes 1 (audio.data.drop (audio.nframes * audio.frameSize))).1 ≠ [] then
        .error "TestSet PCM frame count is inconsistent"
      else
        .ok
          { sizeBytes := bytes.length
            sha256 := sha256 bytes
            sampleRateHz := audio.sampleRate
            channels := audio.channels
            durationSeconds := audio.nframes / audio.sampleRate } := by
  have described := AcceptedAudio.described accepted
  have minRate : ¬audio.sampleRate < limits.minSampleRateHz :=
    not_lt.mpr (wide.minSampleRate.trans accepted.sampleRate.1)
  have maxRate : ¬limits.maxSampleRateHz < audio.sampleRate :=
    not_lt.mpr (accepted.sampleRate.2.trans wide.maxSampleRate)
  have maxChannels : ¬limits.maxChannels < audio.channels :=
    not_lt.mpr (accepted.channels.2.trans wide.maxChannels)
  have maxDuration : ¬limits.maxDurationSeconds < (audio.nframes : ℚ) / audio.sampleRate :=
    not_lt.mpr (accepted.duration.trans wide.maxDuration)
  have tolerance : ¬max limits.durationToleranceSeconds (1 / (audio.sampleRate : ℚ)) < 0 :=
    not_lt.mpr (le_max_of_le_left limits.tolerant.le)
  rw [accepted.inspection]
  simp only [inspectPcmWave, transferItem, ne_eq, not_true_eq_false, if_false,
    accepted.signature, Bool.true_eq_false, accepted.opened, described.channels,
    described.sampleRate, described.sampleWidth, or_self, described.nonempty,
    described.decoded, lt_irrefl, minRate, maxRate, maxChannels, maxDuration, sub_self, abs_zero,
    tolerance]

theorem inspectInputPcmWave_accepted (accepted : AcceptedAudio settings bytes inspection audio) :
    inspectInputPcmWave sha256 (max bytes.length 44) bytes =
      if (audio.readframes 1 (audio.data.drop (audio.nframes * audio.frameSize))).1 ≠ [] then
        .error "sample PCM frame count is invalid"
      else
        .ok
          { sizeBytes := bytes.length
            sha256 := sha256 bytes
            sampleRateHz := audio.sampleRate
            channels := audio.channels
            sampleWidthBytes := audio.sampleWidth
            frameCount := audio.nframes
            durationSeconds := audio.nframes / audio.sampleRate } := by
  have described := AcceptedAudio.described accepted
  have length := riffSignature_length accepted.signature
  have bounded : ¬(bytes.length = 0 ∨ max bytes.length 44 < bytes.length) := by omega
  have width : ¬audio.sampleWidth ∉ [1, 2, 3, 4] := not_not.mpr accepted.sampleWidth
  simp only [inspectInputPcmWave, bounded, if_false, accepted.opened, described.channels,
    described.sampleRate, described.nonempty, width, or_self, described.decoded, ne_eq,
    not_true_eq_false, false_or]

/-- The Worker accepts what the Manager has accepted exactly if the readable data is a whole
number of frames. -/
theorem audio_agreement_iff (wide : AtLeastAsWide settings limits)
    (accepted : inspectPcmWav settings bytes = .ok inspection) :
    WorkerAccepts sha256 limits bytes inspection ↔
      ∀ audio ∈ WaveRead.open? bytes, audio.WholeFrames := by
  rcases inspectPcmWav_eq_ok accepted with ⟨audio, accepted⟩
  have whole : (∀ audio ∈ WaveRead.open? bytes, audio.WholeFrames) ↔ audio.WholeFrames := by
    rw [WaveRead.open?_eq_some_iff.mpr accepted.opened]
    simp
  rw [whole, ← nothing_left_iff accepted]
  constructor
  · intro accepts
    rcases accepts.materialized with ⟨found, inspected, -⟩
    rw [inspectPcmWave_accepted wide accepted] at inspected
    by_contra left
    rw [if_pos left] at inspected
    cases inspected
  · intro nothing
    have rate : (audio.sampleRate : ℚ) ≠ 0 :=
      Nat.cast_ne_zero.mpr (AcceptedAudio.described accepted).sampleRate
    constructor
    · rw [inspectPcmWave_accepted wide accepted, if_neg (not_not.mpr nothing)]
      rw [accepted.inspection]
      exact ⟨_, rfl, rfl, rfl, rfl⟩
    · refine ⟨_, (inspectInputPcmWave_accepted accepted).trans (if_neg (not_not.mpr nothing)), ?_⟩
      rw [accepted.inspection]
      refine ⟨rfl, rfl, ?_⟩
      field_simp

/-! ## Two files -/

def sampleAudioSettings : TestSetAudioSettings where
  testSetMaxChannels := 2
  testSetMinSampleRateHz := 8000
  testSetMaxSampleRateHz := 192000
  testSetMaxDurationSeconds := 600
  minSampleRate := by decide

def sampleAudioLimits : TestSetMaterializationLimits where
  minSampleRateHz := 8000
  maxSampleRateHz := 192000
  maxChannels := 2
  maxDurationSeconds := 600
  durationToleranceSeconds := 1 / 1000000
  tolerant := by norm_num

theorem sampleAudioLimits_wide : AtLeastAsWide sampleAudioSettings sampleAudioLimits :=
  ⟨le_rfl, le_rfl, le_rfl, le_rfl⟩

/-- Mono PCM16 at 8 kHz. -/
def waveFile (dataSize : UInt8) (data : List UInt8) : List UInt8 :=
  WaveRead.name "RIFF" ++ [40, 0, 0, 0] ++ WaveRead.name "WAVE" ++
    WaveRead.name "fmt " ++ [16, 0, 0, 0, 1, 0, 1, 0, 64, 31, 0, 0, 128, 62, 0, 0, 2, 0, 16, 0] ++
    WaveRead.name "data" ++ [dataSize, 0, 0, 0] ++ data

/-- The SHA-256 of the two files below. -/
def sampleAudioSha256 (bytes : List UInt8) : String :=
  if bytes = waveFile 3 [1, 0, 7, 0] then
    "4b0c61e00dd26239e1b04be3938c70971d519c4eb0d95a70a52a247d2e9f5730"
  else "6886473c8775b1a9b132b84b1e230058ba79189ed4ef103820f583bb19d35907"

/-- Two frames. -/
theorem audio_agreement_wholeFrames :
    WorkerAccepts sampleAudioSha256 sampleAudioLimits (waveFile 4 [1, 0, 7, 0])
        ⟨8000, 1, 1 / 4000⟩ ↔
      ∀ audio ∈ WaveRead.open? (waveFile 4 [1, 0, 7, 0]), audio.WholeFrames :=
  audio_agreement_iff sampleAudioLimits_wide (by decide +kernel)

/-- A data chunk of three bytes holds one frame and half of another. -/
theorem oddFile_disagreement :
    ¬∀ (sha256 : List UInt8 → String) (settings : TestSetAudioSettings)
      (limits : TestSetMaterializationLimits) (bytes : List UInt8) (inspection : WavInspection),
      AtLeastAsWide settings limits → inspectPcmWav settings bytes = .ok inspection →
      WorkerAccepts sha256 limits bytes inspection := by
  intro agreement
  have accepts := agreement sampleAudioSha256 sampleAudioSettings sampleAudioLimits
    (waveFile 3 [1, 0, 7, 0]) ⟨8000, 1, 1 / 8000⟩ sampleAudioLimits_wide (by decide +kernel)
  have refused : inspectPcmWave sampleAudioSha256 sampleAudioLimits
      (transferItem sampleAudioSha256 (waveFile 3 [1, 0, 7, 0]) ⟨8000, 1, 1 / 8000⟩)
      (waveFile 3 [1, 0, 7, 0]) = .error "TestSet PCM frame count is inconsistent" := by
    decide +kernel
  rcases accepts.materialized with ⟨found, inspected, -⟩
  rw [refused] at inspected
  cases inspected

end RvcOrchestrator.Fleet

import RvcOrchestrator.Foundation.Wave

/-! # The audio of test-set items

The Manager accepts the bytes of an item as bounded PCM. Durations are exact rationals.
-/

namespace RvcOrchestrator.Manager

open RvcOrchestrator.Foundation

structure TestSetAudioSettings where
  testSetMaxChannels : Nat
  testSetMinSampleRateHz : Nat
  testSetMaxSampleRateHz : Nat
  testSetMaxDurationSeconds : ℚ
  minSampleRate : 1 ≤ testSetMinSampleRateHz

structure WavInspection where
  sampleRateHz : Nat
  channels : Nat
  durationSeconds : ℚ
deriving DecidableEq

/-- Reading in blocks until all frames are read or nothing more comes: the frames that
remain, and the bytes read. -/
def decodeBlocks (audio : WaveRead) : Nat → Nat → Nat → List UInt8 → Nat × Nat
  | 0, framesRemaining, decodedBytes, _ => (framesRemaining, decodedBytes)
  | fuel + 1, framesRemaining, decodedBytes, rest =>
      if framesRemaining = 0 then (framesRemaining, decodedBytes)
      else
        let (chunk, rest) := audio.readframes (min framesRemaining 65536) rest
        if chunk = [] then (framesRemaining, decodedBytes)
        else
          decodeBlocks audio fuel (framesRemaining - chunk.length / audio.frameSize)
            (decodedBytes + chunk.length) rest

def riffSignature (bytes : List UInt8) : Bool :=
  decide (12 ≤ bytes.length) && WaveRead.slice bytes 0 4 = WaveRead.name "RIFF" &&
    WaveRead.slice bytes 8 4 = WaveRead.name "WAVE"

/-- Fails with a failure code. -/
def inspectPcmWav (settings : TestSetAudioSettings) (bytes : List UInt8) :
    Except String WavInspection :=
  if riffSignature bytes = false then .error "invalid_wav_signature"
  else
    match WaveRead.initfp bytes with
    | .error exception => .error (exception.text "invalid_wav_structure")
    | .ok audio =>
        if audio.channels < 1 ∨ settings.testSetMaxChannels < audio.channels then
          .error "wav_channel_limit"
        else if audio.sampleRate < settings.testSetMinSampleRateHz ∨
            settings.testSetMaxSampleRateHz < audio.sampleRate then
          .error "wav_sample_rate_limit"
        else if audio.sampleWidth ∉ [1, 2, 3, 4] then .error "wav_sample_width_not_supported"
        else if audio.nframes = 0 then .error "empty_wav"
        else if settings.testSetMaxDurationSeconds < audio.nframes / audio.sampleRate then
          .error "wav_duration_limit"
        else
          let (framesRemaining, decodedBytes) :=
            decodeBlocks audio (audio.data.length + 1) audio.nframes 0 audio.data
          if framesRemaining ≠ 0 ∨ decodedBytes ≠ audio.nframes * audio.frameSize then
            .error "truncated_wav_pcm"
          else
            .ok
              { sampleRateHz := audio.sampleRate
                channels := audio.channels
                durationSeconds := audio.nframes / audio.sampleRate }

/-! ## What is accepted -/

theorem decodeBlocks_le (audio : WaveRead) (fuel framesRemaining decodedBytes : Nat)
    (rest : List UInt8) :
    (decodeBlocks audio fuel framesRemaining decodedBytes rest).2 ≤
      decodedBytes + rest.length := by
  induction fuel generalizing framesRemaining decodedBytes rest with
  | zero => exact Nat.le_add_right ..
  | succ fuel induction =>
      rw [decodeBlocks]
      split
      · exact Nat.le_add_right ..
      · simp only
        split
        · exact Nat.le_add_right ..
        · refine le_trans (induction _ _ _) ?_
          have parts : (audio.readframes (min framesRemaining 65536) rest).1.length +
              (audio.readframes (min framesRemaining 65536) rest).2.length = rest.length := by
            rw [← List.length_append, WaveRead.readframes, List.take_append_drop]
          omega

structure AcceptedAudio (settings : TestSetAudioSettings) (bytes : List UInt8)
    (inspection : WavInspection) (audio : WaveRead) : Prop where
  signature : riffSignature bytes = true
  opened : WaveRead.initfp bytes = .ok audio
  channels : 1 ≤ audio.channels ∧ audio.channels ≤ settings.testSetMaxChannels
  sampleRate : settings.testSetMinSampleRateHz ≤ audio.sampleRate ∧
    audio.sampleRate ≤ settings.testSetMaxSampleRateHz
  sampleWidth : audio.sampleWidth ∈ [1, 2, 3, 4]
  nonempty : audio.nframes ≠ 0
  duration : (audio.nframes : ℚ) / audio.sampleRate ≤ settings.testSetMaxDurationSeconds
  complete : audio.nframes * audio.frameSize ≤ audio.data.length
  inspection : inspection =
    { sampleRateHz := audio.sampleRate
      channels := audio.channels
      durationSeconds := audio.nframes / audio.sampleRate }

theorem AcceptedAudio.frameSize_pos {settings : TestSetAudioSettings} {bytes : List UInt8}
    {inspection : WavInspection} {audio : WaveRead}
    (accepted : AcceptedAudio settings bytes inspection audio) : 0 < audio.frameSize := by
  have width : 0 < audio.sampleWidth := by
    have member := accepted.sampleWidth
    simp only [List.mem_cons, List.not_mem_nil, or_false] at member
    omega
  exact Nat.mul_pos accepted.channels.1 width

theorem inspectPcmWav_eq_ok {settings : TestSetAudioSettings} {bytes : List UInt8}
    {inspection : WavInspection} (accepted : inspectPcmWav settings bytes = .ok inspection) :
    ∃ audio, AcceptedAudio settings bytes inspection audio := by
  unfold inspectPcmWav at accepted
  split at accepted
  · cases accepted
  · next signature =>
      split at accepted
      · cases accepted
      · next audio opened =>
          split at accepted
          · cases accepted
          · next channels =>
              split at accepted
              · cases accepted
              · next sampleRate =>
                  split at accepted
                  · cases accepted
                  · next sampleWidth =>
                      split at accepted
                      · cases accepted
                      · next nonempty =>
                          split at accepted
                          · cases accepted
                          · next duration =>
                              simp only at accepted
                              split at accepted
                              · cases accepted
                              · next decoded =>
                                  cases accepted
                                  simp only [not_or, not_not, not_lt, Bool.not_eq_false] at *
                                  have read := decodeBlocks_le audio (audio.data.length + 1)
                                    audio.nframes 0 audio.data
                                  exact ⟨audio, signature, opened, channels, sampleRate,
                                    sampleWidth, nonempty, duration, by omega, rfl⟩

end RvcOrchestrator.Manager

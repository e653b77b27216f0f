import RvcOrchestrator.Worker.SampleMetrics

/-! # Agreement on sample metrics

The Manager refuses a sample whose metrics differ from those the Worker reports. The driver,
the Worker's verifier and the Manager tally the same PCM values in chunks of their own.
-/

namespace RvcOrchestrator.Fleet

open RvcOrchestrator.Foundation RvcOrchestrator.Manager RvcOrchestrator.Worker

/-- All three accumulations find the tally in chunks of a mono PCM16 byte string, as without
the chunks. -/
structure SameTally (bytes : List UInt8) (chunks : List (List UInt8)) (tally : Pcm.Tally) :
    Prop where
  unsplit : NativeInferenceDriver.accumulateIntegerPcm (Pcm.decode 2 bytes) 2 = .ok tally ∧
    NativeInference.accumulateIntegerPcm (Pcm.decode 2 bytes) 2 = .ok tally ∧
    accumulatePcm 2 bytes = .ok tally
  driver : chunks.foldlM NativeInferenceDriver.accumulateChunk .zero = .ok tally
  verifier : ∀ audio, MonoPcm16 audio →
    chunks.foldlM (NativeInference.accumulateFrames audio) (0, .zero) =
      .ok (bytes.length / 2, tally)
  manager : ∀ audio, MonoPcm16 audio →
    chunks.foldlM (accumulateBlock audio)
        { framesRemaining := bytes.length / 2, decodedBytes := 0, tally := .zero } =
      .ok { framesRemaining := 0, decodedBytes := bytes.length, tally }

/-- The loops over a file whose data is the byte string, each with its own blocks. -/
structure SameFileTally (audio : WaveRead) (tally : Pcm.Tally) : Prop where
  verifier : NativeInference.decodeMetricFrames audio audio.nframes (0, .zero) audio.data =
    .ok ((audio.nframes, tally), [])
  manager : accumulateBlocks audio (audio.data.length + 1)
      { framesRemaining := audio.nframes, decodedBytes := 0, tally := .zero } audio.data =
    .ok { framesRemaining := 0, decodedBytes := audio.data.length, tally }

variable {bytes : List UInt8} {chunks : List (List UInt8)}

/-- The thresholds are derived from the same constants in other words. -/
theorem pcmRails_eq (sampleWidth : Nat) : pcmRails sampleWidth = integerPcmRails sampleWidth := rfl

theorem split_dvd {width : Nat} (split : Pcm.Split width bytes chunks) : width ∣ bytes.length := by
  induction chunks generalizing bytes with
  | nil =>
      rw [← split.whole]
      exact Nat.dvd_zero _
  | cons chunk chunks induction =>
      rw [← split.whole, List.flatten_cons, List.length_append]
      exact Nat.dvd_add (split.wholeSamples chunk List.mem_cons_self) (induction split.tail)

theorem advance_pcm16 {audio : WaveRead} (mono : MonoPcm16 audio) {frames : Nat}
    (length : bytes.length = frames * 2) :
    PcmAccumulation.advance audio
        { framesRemaining := frames, decodedBytes := 0, tally := .zero } bytes =
      { framesRemaining := 0, decodedBytes := bytes.length, tally := pcm16Tally bytes } := by
  rw [PcmAccumulation.advance, mono.frameSize, mono.sampleWidth, Pcm.Tally.zero_merge, length,
    Nat.mul_div_cancel _ Nat.zero_lt_two, Nat.sub_self, Nat.zero_add, decode_two, pcmRails_eq]
  rfl

theorem sameTally (nonempty : bytes ≠ []) (split : Pcm.Split 2 bytes chunks) :
    SameTally bytes chunks (pcm16Tally bytes) where
  unsplit := by
    have accumulated := fun errors => accumulate_pcm16 errors nonempty (split_dvd split)
    rw [decode_two]
    refine ⟨accumulated _, accumulated _, ?_⟩
    rw [accumulatePcm_eq (by decide) (split_dvd split), pcmRails_eq, decode_two]
    rfl
  driver := by
    have tallied := NativeInferenceDriver.foldlM_accumulateChunk split .zero
    rw [Pcm.Tally.zero_merge] at tallied
    exact tallied
  verifier audio mono := by
    have tallied := NativeInference.foldlM_accumulateFrames mono split (0, .zero)
    rw [Pcm.Tally.zero_merge, Nat.zero_add] at tallied
    exact tallied
  manager audio mono := by
    have frames : Pcm.Split audio.frameSize bytes chunks := by
      rw [mono.frameSize]
      exact split
    rw [foldlM_accumulateBlock mono.supported mono.someChannel frames,
      advance_pcm16 mono (Nat.div_mul_cancel (split_dvd split)).symm]

theorem sameFileTally {audio : WaveRead} (mono : MonoPcm16 audio)
    (complete : audio.data.length = audio.nframes * 2) :
    SameFileTally audio (pcm16Tally audio.data) where
  verifier := by
    rw [NativeInference.decodeMetricFrames_of_complete mono (Nat.zero_le _) (by
      simp only [Nat.sub_zero, complete, le_refl]) (Nat.sub_le ..), Nat.sub_zero, ← complete,
      List.take_length, List.drop_length, Pcm.Tally.zero_merge]
  manager := by
    rw [accumulateBlocks_of_complete mono.supported mono.someChannel (by
      simp only [mono.frameSize, complete, le_refl]) (Nat.lt_succ_self _)]
    simp only [mono.frameSize, ← complete, List.take_length]
    rw [advance_pcm16 mono complete]

/-- One tally in every split and in every file, and the same tally of every width's samples. -/
theorem sampleMetrics_agreement :
    (∀ bytes : List UInt8, bytes ≠ [] → 2 ∣ bytes.length →
      ∃ tally : Pcm.Tally, tally.count = bytes.length / 2 ∧
        (∀ chunks, Pcm.Split 2 bytes chunks → SameTally bytes chunks tally) ∧
        (∀ audio : WaveRead, MonoPcm16 audio → audio.data = bytes →
          audio.nframes = bytes.length / 2 → SameFileTally audio tally) ∧
        ∀ sqrt : ℚ → ℚ,
          NativeInferenceDriver.pcm16Metrics sqrt bytes = .ok (sampleMetricValues sqrt tally) ∧
            NativeInference.finishIntegerPcmMetrics sqrt tally =
              .ok (sampleMetricValues sqrt tally)) ∧
      ∀ sampleWidth ∈ [1, 2, 3, 4], ∀ bytes : List UInt8, bytes ≠ [] →
        sampleWidth ∣ bytes.length →
        ∃ tally : Pcm.Tally,
          NativeInference.accumulateIntegerPcm (Pcm.decode sampleWidth bytes) sampleWidth =
              .ok tally ∧
            NativeInferenceDriver.accumulateIntegerPcm (Pcm.decode sampleWidth bytes)
                sampleWidth = .ok tally ∧
              accumulatePcm sampleWidth bytes = .ok tally := by
  constructor
  · intro bytes nonempty whole
    have count : (pcm16Tally bytes).count = bytes.length / 2 := by
      rw [pcm16Tally, Pcm.Tally.count_ofSamples, ← decode_two, Pcm.decode_length]
    have some_sample : (pcm16Tally bytes).count ≠ 0 := by
      have some_byte := List.length_pos_iff.mpr nonempty
      rw [count]
      omega
    refine ⟨pcm16Tally bytes, count, fun chunks split => sameTally nonempty split, ?_, ?_⟩
    · intro audio mono data frames
      rw [← data] at frames whole ⊢
      apply sameFileTally mono
      rw [frames, Nat.div_mul_cancel whole]
    · intro sqrt
      rw [NativeInferenceDriver.pcm16Metrics_eq sqrt nonempty whole]
      exact ⟨if_neg some_sample, if_neg some_sample⟩
  · intro sampleWidth supported bytes nonempty whole
    exact ⟨_, accumulateIntegerPcmWith_eq _ supported nonempty whole,
      accumulateIntegerPcmWith_eq _ supported nonempty whole, accumulatePcm_eq supported whole⟩

/-- Both rails of PCM16 in two chunks, and those of unsigned bytes. -/
theorem sampleMetrics_agreement_rails :
    (∃ tally : Pcm.Tally, tally.count = 2 ∧
      SameTally [0, 128, 255, 127] [[0, 128], [255, 127]] tally) ∧
      ∃ tally : Pcm.Tally,
        NativeInference.accumulateIntegerPcm (Pcm.decode 1 [0, 255]) 1 = .ok tally ∧
          accumulatePcm 1 [0, 255] = .ok tally := by
  rcases sampleMetrics_agreement.1 [0, 128, 255, 127] (by decide) (by decide) with
    ⟨tally, count, same, -⟩
  rcases sampleMetrics_agreement.2 1 (by decide) [0, 255] (by decide) (by decide) with
    ⟨other, worker, -, manager⟩
  have split : Pcm.Split 2 [0, 128, 255, 127] [[0, 128], [255, 127]] :=
    ⟨rfl, by decide, by decide⟩
  exact ⟨⟨tally, count, same _ split⟩, other, worker, manager⟩

/-! ## Inspected files -/

/-- A file that the verifier accepts as an output, and what it reports. -/
theorem inspectGeneratedPcmWave_eq_ok {sha256 : List UInt8 → String} {sqrt : ℚ → ℚ}
    {maximum : Nat} {evidence : PcmEvidence} {metrics : SampleMetricValues}
    (inspected : NativeInference.inspectGeneratedPcmWave sha256 sqrt maximum bytes =
      .ok (evidence, metrics)) :
    ∃ audio tally rest, WaveRead.initfp bytes = .ok audio ∧ MonoPcm16 audio ∧
      NativeInference.decodeMetricFrames audio audio.nframes (0, .zero) audio.data =
        .ok ((audio.nframes, tally), rest) ∧
      (audio.readframes 1 rest).1 = [] ∧
      NativeInference.finishIntegerPcmMetrics sqrt tally = .ok metrics := by
  rw [NativeInference.inspectGeneratedPcmWave] at inspected
  split at inspected
  · cases inspected
  · split at inspected
    · cases inspected
    · next audio opened =>
        split at inspected
        · cases inspected
        · split at inspected
          · cases inspected
          · next mono =>
              split at inspected
              · cases inspected
              · next decoded tally rest read =>
                  split at inspected
                  · cases inspected
                  · next finished =>
                      simp only [ne_eq, not_or, not_not] at finished mono
                      rcases finished with ⟨rfl, nothing⟩
                      refine ⟨audio, tally, rest, opened, ⟨mono.1, mono.2⟩, read, nothing, ?_⟩
                      cases result : NativeInference.finishIntegerPcmMetrics sqrt tally with
                      | error error =>
                          rw [result] at inspected
                          cases inspected
                      | ok found =>
                          rw [result] at inspected
                          cases inspected
                          rfl

/-- A file that the Manager accepts, and what it computes. -/
theorem inspectSamplePcmWav_eq_ok {sqrt : ℚ → ℚ} {settings : SampleAudioSettings}
    {inspection : SamplePcmInspection}
    (inspected : inspectSamplePcmWav sqrt settings bytes = .ok inspection) :
    ∃ audio state, WaveRead.initfp bytes = .ok audio ∧
      accumulateBlocks audio (audio.data.length + 1)
          { framesRemaining := audio.nframes, decodedBytes := 0, tally := .zero } audio.data =
        .ok state ∧
      state.decodedBytes = audio.nframes * audio.channels * audio.sampleWidth ∧
      inspection.metrics = sampleMetricValues sqrt state.tally := by
  rw [inspectSamplePcmWav] at inspected
  split at inspected
  · cases inspected
  · split at inspected
    · cases inspected
    · split at inspected
      · cases inspected
      · next audio opened =>
          iterate 5
            split at inspected
            · cases inspected
          split at inspected
          · cases inspected
          · next state accumulated =>
              split at inspected
              · cases inspected
              · next complete =>
                  simp only [ne_eq, not_or, not_not] at complete
                  cases inspected
                  exact ⟨audio, state, opened, accumulated, complete.2.1, rfl⟩

theorem finishIntegerPcmMetrics_eq {sqrt : ℚ → ℚ} {tally : Pcm.Tally} {metrics : SampleMetricValues}
    (finished : NativeInference.finishIntegerPcmMetrics sqrt tally = .ok metrics) :
    metrics = sampleMetricValues sqrt tally := by
  rw [NativeInference.finishIntegerPcmMetrics, finishIntegerPcmMetricsWith] at finished
  split at finished
  · cases finished
  · cases finished
    rfl

/-- A sample whose file both accept has the metrics that the Worker reports. -/
theorem inspected_metrics_eq {sha256 : List UInt8 → String} {sqrt : ℚ → ℚ} {maximum : Nat}
    {settings : SampleAudioSettings} {evidence : PcmEvidence} {metrics : SampleMetricValues}
    {inspection : SamplePcmInspection}
    (reported : NativeInference.inspectGeneratedPcmWave sha256 sqrt maximum bytes =
      .ok (evidence, metrics))
    (computed : inspectSamplePcmWav sqrt settings bytes = .ok inspection) :
    inspection.metrics = metrics := by
  rcases inspectGeneratedPcmWave_eq_ok reported with
    ⟨audio, tally, rest, opened, mono, read, nothing, finished⟩
  rcases inspectSamplePcmWav_eq_ok computed with
    ⟨same, state, reopened, accumulated, bytesRead, found⟩
  cases Except.ok.inj (opened.symm.trans reopened)
  have reach := accumulateBlocks_le accumulated
  rw [bytesRead, mono.channels, mono.sampleWidth, Nat.mul_one, Nat.zero_add] at reach
  have left : NativeInference.decodeMetricFrames audio audio.nframes (0, .zero) audio.data =
      .ok ((audio.nframes,
          Pcm.Tally.zero.merge (pcm16Tally (audio.data.take (audio.nframes * 2)))),
        audio.data.drop (audio.nframes * 2)) :=
    NativeInference.decodeMetricFrames_of_complete mono (Nat.zero_le _) reach (Nat.sub_le ..)
  cases left.symm.trans read
  rw [WaveRead.readframes, List.take_eq_nil_iff, mono.frameSize, List.drop_eq_nil_iff] at nothing
  have complete : audio.data.length = audio.nframes * 2 := by omega
  cases accumulated.symm.trans (sameFileTally mono complete).manager
  rw [Pcm.Tally.zero_merge, ← complete, List.take_length] at finished
  rw [found, ← finishIntegerPcmMetrics_eq finished]

def railsFile : List UInt8 :=
  [82, 73, 70, 70, 40, 0, 0, 0, 87, 65, 86, 69, 102, 109, 116, 32, 16, 0, 0, 0, 1, 0, 1, 0,
    64, 31, 0, 0, 128, 62, 0, 0, 2, 0, 16, 0, 100, 97, 116, 97, 4, 0, 0, 0, 0, 128, 255, 127]

theorem inspected_metrics_eq_rails :
    ∃ evidence metrics inspection,
      NativeInference.inspectGeneratedPcmWave (fun _ => "") id 48 railsFile =
          .ok (evidence, metrics) ∧
        inspectSamplePcmWav id ⟨2, 8000, 48000, 600⟩ railsFile = .ok inspection ∧
        inspection.metrics = metrics := by
  have accepted : (NativeInference.inspectGeneratedPcmWave (fun _ => "") id 48 railsFile).isOk &&
      (inspectSamplePcmWav id ⟨2, 8000, 48000, 600⟩ railsFile).isOk := by decide +kernel
  cases reported : NativeInference.inspectGeneratedPcmWave (fun _ => "") id 48 railsFile with
  | error error => simp [reported, Except.isOk, Except.toBool] at accepted
  | ok found =>
      cases computed : inspectSamplePcmWav id ⟨2, 8000, 48000, 600⟩ railsFile with
      | error error => simp [computed, Except.isOk, Except.toBool] at accepted
      | ok inspection =>
          exact ⟨found.1, found.2, inspection, rfl, rfl, inspected_metrics_eq reported computed⟩

end RvcOrchestrator.Fleet

import RvcOrchestrator.Foundation.SlidingWindow
import Mathlib.Data.Rat.Floor
import Mathlib.Tactic.Positivity

/-! # The loudness of PCM

Frames are K-weighted by two filters per channel, and the energy of a sliding window of them
is recorded as a block at every hop. The arithmetic is exact: floats are rationals.
-/

namespace RvcOrchestrator.Manager

open RvcOrchestrator.Foundation

/-- The functions that no rational arithmetic computes. Only of the logarithm is anything
assumed. -/
structure LoudnessArithmetic where
  log10 : ℚ → ℚ
  sqrt : ℚ → ℚ
  tan : ℚ → ℚ
  power : ℚ → ℚ → ℚ
  pi : ℚ
  increasing : ∀ lower upper, 0 < lower → lower < upper → log10 lower < log10 upper

/-! ## The filters -/

structure BiquadCoefficients where
  b0 : ℚ
  b1 : ℚ
  b2 : ℚ
  a1 : ℚ
  a2 : ℚ
deriving DecidableEq

structure Biquad where
  coefficients : BiquadCoefficients
  x1 : ℚ
  x2 : ℚ
  y1 : ℚ
  y2 : ℚ
deriving DecidableEq

def Biquad.start (coefficients : BiquadCoefficients) : Biquad := ⟨coefficients, 0, 0, 0, 0⟩

def Biquad.process (filter : Biquad) (value : ℚ) : Biquad × ℚ :=
  let coefficients := filter.coefficients
  let output := coefficients.b0 * value + coefficients.b1 * filter.x1 +
    coefficients.b2 * filter.x2 - coefficients.a1 * filter.y1 - coefficients.a2 * filter.y2
  ({ filter with x1 := value, x2 := filter.x1, y1 := output, y2 := filter.y1 }, output)

def kWeightingShelfGainDb : ℚ := 3999843853973347 / 1000000000000000

def kWeightingShelfQ : ℚ := 7071752369554196 / 10000000000000000

def kWeightingShelfFrequencyHz : ℚ := 1681974450955533 / 1000000000000

def kWeightingHighPassQ : ℚ := 5003270373238773 / 10000000000000000

def kWeightingHighPassFrequencyHz : ℚ := 3813547087602444 / 100000000000000

def kWeightingCoefficients (arithmetic : LoudnessArithmetic) (sampleRateHz : Nat) :
    BiquadCoefficients × BiquadCoefficients :=
  let shelfK := arithmetic.tan (arithmetic.pi * kWeightingShelfFrequencyHz / sampleRateHz)
  let shelfVh := arithmetic.power 10 (kWeightingShelfGainDb / 20)
  let shelfVb := arithmetic.power shelfVh (4996667741545416 / 10000000000000000)
  let shelfA0 := 1 + shelfK / kWeightingShelfQ + shelfK * shelfK
  let highPassK := arithmetic.tan (arithmetic.pi * kWeightingHighPassFrequencyHz / sampleRateHz)
  let highPassA0 := 1 + highPassK / kWeightingHighPassQ + highPassK * highPassK
  ({ b0 := (shelfVh + shelfVb * shelfK / kWeightingShelfQ + shelfK * shelfK) / shelfA0
     b1 := 2 * (shelfK * shelfK - shelfVh) / shelfA0
     b2 := (shelfVh - shelfVb * shelfK / kWeightingShelfQ + shelfK * shelfK) / shelfA0
     a1 := 2 * (shelfK * shelfK - 1) / shelfA0
     a2 := (1 - shelfK / kWeightingShelfQ + shelfK * shelfK) / shelfA0 },
   { b0 := 1
     b1 := -2
     b2 := 1
     a1 := 2 * (highPassK * highPassK - 1) / highPassA0
     a2 := (1 - highPassK / kWeightingHighPassQ + highPassK * highPassK) / highPassA0 })

abbrev KWeighting := List (Biquad × Biquad)

def KWeighting.process : KWeighting → List ℚ → KWeighting × ℚ
  | (shelf, highPass) :: filters, sample :: samples =>
      let (shelf, shelved) := shelf.process sample
      let (highPass, filtered) := highPass.process shelved
      let (filters, energy) := KWeighting.process filters samples
      ((shelf, highPass) :: filters, filtered * filtered + energy)
  | filters, _ => (filters, 0)

/-! ## The scanner -/

structure LoudnessBlockScanner where
  blockFrames : Nat
  hopFrames : Nat
  filters : KWeighting
  gateLufs : ℚ
  ring : List ℚ
  ringIndex : Nat
  windowEnergy : ℚ
  framesSeen : Nat
  blockCount : Nat
  gatedBlockCount : Nat
  gatedEnergySum : ℚ
deriving DecidableEq

def energyToLufs (arithmetic : LoudnessArithmetic) (energy : ℚ) : ℚ :=
  -(691 / 1000) + 10 * arithmetic.log10 energy

def loudnessMinSampleRateHz : Nat := 8000

def loudnessMaxSampleRateHz : Nat := 384000

namespace LoudnessBlockScanner

variable (arithmetic : LoudnessArithmetic)

def start (sampleRateHz channels : Nat) (gateLufs : ℚ) : LoudnessBlockScanner :=
  let blockFrames := (sampleRateHz * 2 + 2) / 5
  let (shelf, highPass) := kWeightingCoefficients arithmetic sampleRateHz
  { blockFrames
    hopFrames := (sampleRateHz + 5) / 10
    filters := List.replicate channels (.start shelf, .start highPass)
    gateLufs
    ring := List.replicate blockFrames 0
    ringIndex := 0
    windowEnergy := 0
    framesSeen := 0
    blockCount := 0
    gatedBlockCount := 0
    gatedEnergySum := 0 }

def create (sampleRateHz channels : Nat) (gateLufs : ℚ) : Except String LoudnessBlockScanner :=
  let scanner := start arithmetic sampleRateHz channels gateLufs
  if channels ∉ [1, 2] then .error "loudness scanner accepts only mono or stereo PCM"
  else if scanner.blockFrames = 0 ∨ scanner.hopFrames = 0 then
    .error "sample rate is too low for loudness blocks"
  else if sampleRateHz < loudnessMinSampleRateHz ∨ loudnessMaxSampleRateHz < sampleRateHz then
    .error "sample rate is outside the versioned K-weighting range"
  else .ok scanner

def Gated (gateLufs energy : ℚ) : Prop := 0 < energy ∧ gateLufs < energyToLufs arithmetic energy

instance (gateLufs energy : ℚ) : Decidable (Gated arithmetic gateLufs energy) :=
  inferInstanceAs (Decidable (_ ∧ _))

def recordCompleteBlock (scanner : LoudnessBlockScanner) : Except String LoudnessBlockScanner :=
  let windowEnergy := scanner.windowEnergy / scanner.blockFrames
  let blockEnergy :=
    if windowEnergy < 0 ∧ -(1 / 10 ^ 15) < windowEnergy then 0 else windowEnergy
  if blockEnergy < 0 then .error "K-weighted block energy is invalid"
  else if Gated arithmetic scanner.gateLufs blockEnergy then
    .ok
      { scanner with
        blockCount := scanner.blockCount + 1
        gatedBlockCount := scanner.gatedBlockCount + 1
        gatedEnergySum := scanner.gatedEnergySum + blockEnergy }
  else .ok { scanner with blockCount := scanner.blockCount + 1 }

/-- The ring, its index and the window take up the energy of a frame. -/
def slide (scanner : LoudnessBlockScanner) (frameEnergy : ℚ) : LoudnessBlockScanner :=
  if scanner.framesSeen < scanner.blockFrames then
    { scanner with
      ring := scanner.ring.set scanner.framesSeen frameEnergy
      windowEnergy := scanner.windowEnergy + frameEnergy
      framesSeen := scanner.framesSeen + 1 }
  else
    let previous := (scanner.ring[scanner.ringIndex]?).getD 0
    { scanner with
      ring := scanner.ring.set scanner.ringIndex frameEnergy
      ringIndex := (scanner.ringIndex + 1) % scanner.blockFrames
      windowEnergy := scanner.windowEnergy + (frameEnergy - previous)
      framesSeen := scanner.framesSeen + 1 }

def processFrame (scanner : LoudnessBlockScanner) (normalizedSamples : List ℚ) :
    Except String LoudnessBlockScanner :=
  if normalizedSamples.length ≠ scanner.filters.length then
    .error "PCM channel count changed during loudness analysis"
  else
    let (filters, frameEnergy) := scanner.filters.process normalizedSamples
    if frameEnergy < 0 then .error "K-weighted frame energy is invalid"
    else
      let scanner := { scanner with filters }.slide frameEnergy
      if scanner.blockFrames ≤ scanner.framesSeen ∧
          (scanner.framesSeen - scanner.blockFrames) % scanner.hopFrames = 0 then
        scanner.recordCompleteBlock arithmetic
      else .ok scanner

end LoudnessBlockScanner

/-! ## The energies of frames -/

theorem KWeighting.process_length (filters : KWeighting) (samples : List ℚ) :
    (filters.process samples).1.length = filters.length := by
  induction filters generalizing samples with
  | nil => cases samples <;> rfl
  | cons filter filters induction =>
      cases samples with
      | nil => rfl
      | cons sample samples => simp only [process, List.length_cons, induction samples]

theorem KWeighting.process_nonneg (filters : KWeighting) (samples : List ℚ) :
    0 ≤ (filters.process samples).2 := by
  induction filters generalizing samples with
  | nil => cases samples <;> exact le_refl 0
  | cons filter filters induction =>
      cases samples with
      | nil => exact le_refl 0
      | cons sample samples => exact add_nonneg (mul_self_nonneg _) (induction samples)

def frameEnergies : KWeighting → List (List ℚ) → KWeighting × List ℚ
  | filters, [] => (filters, [])
  | filters, frame :: frames =>
      let (filters, energy) := filters.process frame
      let (filters, energies) := frameEnergies filters frames
      (filters, energy :: energies)

theorem frameEnergies_concat (filters : KWeighting) (frames : List (List ℚ)) (frame : List ℚ) :
    frameEnergies filters (frames ++ [frame]) =
      (((frameEnergies filters frames).1.process frame).1,
        (frameEnergies filters frames).2 ++ [((frameEnergies filters frames).1.process frame).2]) := by
  induction frames generalizing filters with
  | nil => rfl
  | cons first frames induction => simp only [List.cons_append, frameEnergies, induction]

theorem frameEnergies_length (filters : KWeighting) (frames : List (List ℚ)) :
    (frameEnergies filters frames).2.length = frames.length := by
  induction frames generalizing filters with
  | nil => rfl
  | cons first frames induction => simp only [frameEnergies, List.length_cons, induction]

theorem frameEnergies_filters (filters : KWeighting) (frames : List (List ℚ)) :
    (frameEnergies filters frames).1.length = filters.length := by
  induction frames generalizing filters with
  | nil => rfl
  | cons first frames induction =>
      simp only [frameEnergies, induction, KWeighting.process_length]

theorem frameEnergies_nonneg (filters : KWeighting) (frames : List (List ℚ)) :
    ∀ energy ∈ (frameEnergies filters frames).2, 0 ≤ energy := by
  induction frames generalizing filters with
  | nil =>
      intro energy member
      cases member
  | cons first frames induction =>
      intro energy member
      simp only [frameEnergies, List.mem_cons] at member
      rcases member with rfl | later
      · exact KWeighting.process_nonneg _ _
      · exact induction _ energy later

/-! ## Blocks -/

def blockEnergies (blockFrames hopFrames : Nat) (energies : List ℚ) : List ℚ :=
  (SlidingWindow.windows blockFrames hopFrames energies).map fun window =>
    window.sum / blockFrames

def gatedEnergies (arithmetic : LoudnessArithmetic) (gateLufs : ℚ) (blocks : List ℚ) : List ℚ :=
  blocks.filter fun energy => LoudnessBlockScanner.Gated arithmetic gateLufs energy

theorem blockEnergies_concat (blockFrames hopFrames : Nat) (energies : List ℚ) (energy : ℚ) :
    blockEnergies blockFrames hopFrames (energies ++ [energy]) =
      blockEnergies blockFrames hopFrames energies ++
        if SlidingWindow.Completes blockFrames hopFrames (energies.length + 1) then
          [(SlidingWindow.last blockFrames (energies ++ [energy])).sum / blockFrames]
        else [] := by
  unfold blockEnergies
  rw [SlidingWindow.windows_concat, List.map_append]
  split
  · rfl
  · rfl

/-! ## What the scanner keeps -/

namespace LoudnessBlockScanner

variable {arithmetic : LoudnessArithmetic} {origin scanner : LoudnessBlockScanner}
  {frames : List (List ℚ)} {frame : List ℚ}

structure Slid (size : Nat) (energies : List ℚ) (scanner : LoudnessBlockScanner) : Prop where
  ring : SlidingWindow.Ring size energies scanner.ring
  ringIndex : scanner.ringIndex = if energies.length < size then 0 else energies.length % size
  windowEnergy : scanner.windowEnergy = (SlidingWindow.last size energies).sum

/-- A scanner after the frames, the first of which it met as it was at its origin. -/
structure Scanned (arithmetic : LoudnessArithmetic) (origin : LoudnessBlockScanner)
    (frames : List (List ℚ)) (scanner : LoudnessBlockScanner) : Prop where
  blockFrames : scanner.blockFrames = origin.blockFrames
  hopFrames : scanner.hopFrames = origin.hopFrames
  gateLufs : scanner.gateLufs = origin.gateLufs
  filters : scanner.filters = (frameEnergies origin.filters frames).1
  framesSeen : scanner.framesSeen = frames.length
  slid : Slid origin.blockFrames (frameEnergies origin.filters frames).2 scanner
  blockCount : scanner.blockCount =
    (blockEnergies origin.blockFrames origin.hopFrames
      (frameEnergies origin.filters frames).2).length
  gatedBlockCount : scanner.gatedBlockCount =
    (gatedEnergies arithmetic origin.gateLufs
      (blockEnergies origin.blockFrames origin.hopFrames
        (frameEnergies origin.filters frames).2)).length
  gatedEnergySum : scanner.gatedEnergySum =
    (gatedEnergies arithmetic origin.gateLufs
      (blockEnergies origin.blockFrames origin.hopFrames
        (frameEnergies origin.filters frames).2)).sum

theorem start_scanned {sampleRateHz channels : Nat} {gateLufs : ℚ}
    (positive : 0 < (start arithmetic sampleRateHz channels gateLufs).blockFrames) :
    Scanned arithmetic (start arithmetic sampleRateHz channels gateLufs) []
      (start arithmetic sampleRateHz channels gateLufs) where
  blockFrames := rfl
  hopFrames := rfl
  gateLufs := rfl
  filters := rfl
  framesSeen := rfl
  slid :=
    { ring := .nil List.length_replicate
      ringIndex := (if_pos positive).symm
      windowEnergy := by
        rw [frameEnergies, SlidingWindow.last, List.drop_nil]
        rfl }
  blockCount := by
    rw [blockEnergies, frameEnergies, SlidingWindow.windows_nil positive]
    rfl
  gatedBlockCount := by
    rw [blockEnergies, frameEnergies, SlidingWindow.windows_nil positive]
    rfl
  gatedEnergySum := by
    rw [blockEnergies, frameEnergies, SlidingWindow.windows_nil positive]
    rfl

/-- Sliding touches nothing but the ring and its window. -/
theorem slide_frame (scanner : LoudnessBlockScanner) (energy : ℚ) :
    scanner.slide energy =
      { scanner with
        ring := (scanner.slide energy).ring
        ringIndex := (scanner.slide energy).ringIndex
        windowEnergy := (scanner.slide energy).windowEnergy
        framesSeen := scanner.framesSeen + 1 } := by
  unfold slide
  split
  · rfl
  · rfl

theorem Slid.slide {size : Nat} {energies : List ℚ} (slid : Slid size energies scanner)
    (positive : 0 < size) (blockFrames : scanner.blockFrames = size)
    (framesSeen : scanner.framesSeen = energies.length) (energy : ℚ) :
    Slid size (energies ++ [energy]) (scanner.slide energy) := by
  unfold LoudnessBlockScanner.slide
  rw [blockFrames, framesSeen]
  split
  · next filling =>
      have place : energies.length % size = energies.length := Nat.mod_eq_of_lt filling
      have ring := slid.ring.concat positive energy
      rw [place] at ring
      constructor
      · exact ring
      · simp only [slid.ringIndex, if_pos filling, List.length_append, List.length_singleton]
        split
        · rfl
        · next full =>
            have exactly : energies.length + 1 = size := by omega
            rw [exactly, Nat.mod_self]
      · simp only [SlidingWindow.last_sum_filling filling, slid.windowEnergy]
  · next full =>
      have enough : size ≤ energies.length := not_lt.mp full
      have index := slid.ringIndex
      rw [if_neg full] at index
      have present : energies.length - size < energies.length := by omega
      have oldest : scanner.ring[scanner.ringIndex]? = some energies[energies.length - size] := by
        rw [index, slid.ring.oldest positive enough, List.getElem?_eq_getElem present]
      constructor
      · simp only [index]
        exact slid.ring.concat positive energy
      · simp only [index, List.length_append, List.length_singleton]
        rw [if_neg (by omega), Nat.mod_add_mod]
      · simp only [oldest, Option.getD_some]
        rw [SlidingWindow.last_sum_sliding (List.getElem?_eq_getElem present) enough,
          slid.windowEnergy]

/-- A complete block of nonnegative energy is counted, and summed if it passes the gate. -/
theorem recordCompleteBlock_eq {scanner : LoudnessBlockScanner}
    (nonneg : 0 ≤ scanner.windowEnergy) :
    scanner.recordCompleteBlock arithmetic =
      .ok
        { scanner with
          blockCount := scanner.blockCount + 1
          gatedBlockCount := scanner.gatedBlockCount +
            (gatedEnergies arithmetic scanner.gateLufs
              [scanner.windowEnergy / scanner.blockFrames]).length
          gatedEnergySum := scanner.gatedEnergySum +
            (gatedEnergies arithmetic scanner.gateLufs
              [scanner.windowEnergy / scanner.blockFrames]).sum } := by
  have mean : 0 ≤ scanner.windowEnergy / scanner.blockFrames :=
    div_nonneg nonneg (Nat.cast_nonneg _)
  have noResidual : ¬(scanner.windowEnergy / scanner.blockFrames < 0 ∧
      -(1 / 10 ^ 15) < scanner.windowEnergy / scanner.blockFrames) :=
    fun residual => absurd residual.1 (not_lt.mpr mean)
  unfold recordCompleteBlock gatedEnergies
  simp only [if_neg noResidual, if_neg (not_lt.mpr mean)]
  split
  · next gated => simp [gated]
  · next below => simp [below]

theorem gatedEnergies_append (arithmetic : LoudnessArithmetic) (gateLufs : ℚ)
    (left right : List ℚ) :
    gatedEnergies arithmetic gateLufs (left ++ right) =
      gatedEnergies arithmetic gateLufs left ++ gatedEnergies arithmetic gateLufs right :=
  List.filter_append ..

theorem processFrame_eq (channels : frame.length = scanner.filters.length) :
    scanner.processFrame arithmetic frame =
      let slid := LoudnessBlockScanner.slide
        { scanner with filters := (scanner.filters.process frame).1 }
        (scanner.filters.process frame).2
      if SlidingWindow.Completes slid.blockFrames slid.hopFrames slid.framesSeen then
        slid.recordCompleteBlock arithmetic
      else .ok slid := by
  rw [processFrame, if_neg (not_not.mpr channels)]
  have nonneg := scanner.filters.process_nonneg frame
  simp only [if_neg (not_lt.mpr nonneg)]
  rfl

/-- What one frame of the right number of channels does. -/
theorem Scanned.processFrame (positive : 0 < origin.blockFrames)
    (scanned : Scanned arithmetic origin frames scanner)
    (channels : frame.length = origin.filters.length) :
    ∃ after, scanner.processFrame arithmetic frame = .ok after ∧
      Scanned arithmetic origin (frames ++ [frame]) after := by
  have sameChannels : frame.length = scanner.filters.length := by
    rw [scanned.filters, frameEnergies_filters, channels]
  have concat := frameEnergies_concat origin.filters frames frame
  have counted := frameEnergies_length origin.filters frames
  have nonneg := frameEnergies_nonneg origin.filters (frames ++ [frame])
  rw [← scanned.filters] at concat
  rw [processFrame_eq sameChannels]
  generalize scanner.filters.process frame = processed at concat ⊢
  rcases processed with ⟨filters, energy⟩
  have before : Slid origin.blockFrames (frameEnergies origin.filters frames).2
      { scanner with filters } :=
    ⟨scanned.slid.ring, scanned.slid.ringIndex, scanned.slid.windowEnergy⟩
  have slid := before.slide positive scanned.blockFrames (scanned.framesSeen.trans counted.symm)
    energy
  have unchanged := slide_frame { scanner with filters } energy
  have blocks := blockEnergies_concat origin.blockFrames origin.hopFrames
    (frameEnergies origin.filters frames).2 energy
  generalize LoudnessBlockScanner.slide { scanner with filters } energy = after at slid unchanged ⊢
  have blockFrames : after.blockFrames = origin.blockFrames := by
    rw [unchanged]
    exact scanned.blockFrames
  have hopFrames : after.hopFrames = origin.hopFrames := by
    rw [unchanged]
    exact scanned.hopFrames
  have gateLufs : after.gateLufs = origin.gateLufs := by
    rw [unchanged]
    exact scanned.gateLufs
  have sameFilters : after.filters = filters := by rw [unchanged]
  have framesSeen : after.framesSeen = (frameEnergies origin.filters frames).2.length + 1 := by
    rw [unchanged, counted, ← scanned.framesSeen]
  have blockCount : after.blockCount = scanner.blockCount := by rw [unchanged]
  have gatedBlockCount : after.gatedBlockCount = scanner.gatedBlockCount := by rw [unchanged]
  have gatedEnergySum : after.gatedEnergySum = scanner.gatedEnergySum := by rw [unchanged]
  have framesLength : after.framesSeen = (frames ++ [frame]).length := by
    rw [framesSeen, counted, List.length_append, List.length_singleton]
  simp only [blockFrames, hopFrames, framesSeen]
  rw [concat] at nonneg
  split
  · next completes =>
      rw [if_pos completes] at blocks
      have window : 0 ≤ after.windowEnergy := by
        rw [slid.windowEnergy]
        apply List.sum_nonneg
        intro part member
        exact nonneg part (List.mem_of_mem_drop member)
      refine ⟨_, recordCompleteBlock_eq window, ?_⟩
      constructor
      · exact blockFrames
      · exact hopFrames
      · exact gateLufs
      · rw [concat]
        exact sameFilters
      · exact framesLength
      · rw [concat]
        exact ⟨slid.ring, slid.ringIndex, slid.windowEnergy⟩
      · simp only [concat, blocks, List.length_append, List.length_singleton, blockCount,
          scanned.blockCount]
      · simp only [concat, blocks, gatedEnergies_append, List.length_append, gatedBlockCount,
          scanned.gatedBlockCount, gateLufs, slid.windowEnergy, blockFrames]
      · simp only [concat, blocks, gatedEnergies_append, List.sum_append, gatedEnergySum,
          scanned.gatedEnergySum, gateLufs, slid.windowEnergy, blockFrames]
  · next incomplete =>
      rw [if_neg incomplete, List.append_nil] at blocks
      refine ⟨_, rfl, ?_⟩
      constructor
      · exact blockFrames
      · exact hopFrames
      · exact gateLufs
      · rw [concat]
        exact sameFilters
      · exact framesLength
      · rw [concat]
        exact slid
      · rw [concat, blocks, blockCount, scanned.blockCount]
      · rw [concat, blocks, gatedBlockCount, scanned.gatedBlockCount]
      · rw [concat, blocks, gatedEnergySum, scanned.gatedEnergySum]

/-- All frames, one after the other. -/
theorem Scanned.foldlM (positive : 0 < origin.blockFrames)
    (scanned : Scanned arithmetic origin frames scanner) {later : List (List ℚ)}
    (channels : ∀ frame ∈ later, frame.length = origin.filters.length) :
    ∃ after, later.foldlM (LoudnessBlockScanner.processFrame arithmetic) scanner = .ok after ∧
      Scanned arithmetic origin (frames ++ later) after := by
  induction later generalizing frames scanner with
  | nil =>
      rw [List.append_nil]
      exact ⟨scanner, rfl, scanned⟩
  | cons frame later induction =>
      rcases scanned.processFrame positive (channels frame List.mem_cons_self) with
        ⟨next, processed, nextScanned⟩
      rcases induction nextScanned fun other member =>
          channels other (List.mem_cons_of_mem _ member) with ⟨after, folded, afterScanned⟩
      rw [List.append_assoc] at afterScanned
      refine ⟨after, ?_, afterScanned⟩
      rw [List.foldlM_cons, processed]
      exact folded

end LoudnessBlockScanner

end RvcOrchestrator.Manager

import Mathlib.Data.List.Basic
import Mathlib.Tactic.Ring

/-! # WAV files

Python's `wave` module: a RIFF file is a sequence of chunks, of which the format chunk comes
before the data chunk. The frames are read from the data chunk until it ends.
-/

namespace RvcOrchestrator.Foundation

/-- An opened file: the format, and the readable part of the data chunk. -/
structure WaveRead where
  channels : Nat
  sampleRate : Nat
  sampleWidth : Nat
  chunkSize : Nat
  data : List UInt8
  bounded : data.length ≤ chunkSize
deriving DecidableEq

namespace WaveRead

/-! ## Frames -/

def frameSize (wave : WaveRead) : Nat := wave.channels * wave.sampleWidth

def nframes (wave : WaveRead) : Nat := wave.chunkSize / wave.frameSize

/-- What `readframes` returns at a place in the data, and the place after it. -/
def readframes (wave : WaveRead) (count : Nat) (rest : List UInt8) : List UInt8 × List UInt8 :=
  (rest.take (count * wave.frameSize), rest.drop (count * wave.frameSize))

def WholeFrames (wave : WaveRead) : Prop := wave.frameSize ∣ wave.data.length

/-- Where all frames can be read, no readable byte follows them exactly if the data is a
whole number of frames. -/
theorem wholeFrames_iff {wave : WaveRead} (positive : 0 < wave.frameSize)
    (complete : wave.nframes * wave.frameSize ≤ wave.data.length) :
    wave.WholeFrames ↔ wave.data.length = wave.nframes * wave.frameSize := by
  constructor
  · rintro ⟨count, whole⟩
    have atMost : count ≤ wave.nframes := by
      rw [nframes, Nat.le_div_iff_mul_le positive, Nat.mul_comm]
      exact whole ▸ wave.bounded
    apply Nat.le_antisymm
    · rw [whole, Nat.mul_comm]
      exact Nat.mul_le_mul_right _ atMost
    · exact complete
  · intro whole
    exact ⟨wave.nframes, by rw [whole, Nat.mul_comm]⟩

theorem readframes_length {wave : WaveRead} {count : Nat} {rest : List UInt8}
    (enough : count * wave.frameSize ≤ rest.length) :
    (wave.readframes count rest).1.length = count * wave.frameSize := by
  rw [readframes, List.length_take, Nat.min_eq_left enough]

theorem readframes_rest (wave : WaveRead) (count : Nat) (rest : List UInt8) :
    (wave.readframes count rest).2.length = rest.length - count * wave.frameSize :=
  List.length_drop

/-! ## Opening -/

def unsigned : List UInt8 → Nat
  | [] => 0
  | byte :: bytes => byte.toNat + 256 * unsigned bytes

def slice (bytes : List UInt8) (start count : Nat) : List UInt8 := (bytes.drop start).take count

def name (text : String) : List UInt8 := text.toList.map fun letter => UInt8.ofNat letter.toNat

structure FormatChunk where
  channels : Nat
  sampleRate : Nat
  sampleWidth : Nat

/-- `_read_fmt_chunk`. -/
def readFormat (chunk : List UInt8) : Option FormatChunk :=
  let sampleWidth := (unsigned (slice chunk 14 2) + 7) / 8
  let channels := unsigned (slice chunk 2 2)
  if chunk.length < 16 ∨ unsigned (slice chunk 0 2) ≠ 1 ∨ sampleWidth = 0 ∨ channels = 0 then none
  else some ⟨channels, unsigned (slice chunk 4 4), sampleWidth⟩

inductive WaveException where
  /-- `wave.Error` or `EOFError`. -/
  | invalid
  /-- The `RuntimeError` of a seek beyond a chunk. -/
  | seeksBeyond
deriving DecidableEq

/-- The error of a function that expects the first kind only. -/
def WaveException.text (expected : String) : WaveException → String
  | .invalid => expected
  | .seeksBeyond => "RuntimeError"

/-- The chunks from a place in the RIFF chunk on. -/
def readChunks (riffSize : Nat) (content : List UInt8) :
    Nat → Nat → Option FormatChunk → Except WaveException WaveRead
  | 0, _, _ => .error .invalid
  | fuel + 1, place, format =>
      if (slice content place 8).length < 8 then .error .invalid
      else
        let size := unsigned (slice content (place + 4) 4)
        let body := slice content (place + 8) size
        let next := place + 8 + size + size % 2
        if slice content place 4 = name "data" then
          match format with
          | none => .error .invalid
          | some format =>
              .ok
                { channels := format.channels
                  sampleRate := format.sampleRate
                  sampleWidth := format.sampleWidth
                  chunkSize := size
                  data := body
                  bounded := List.length_take_le .. }
        else
          match if slice content place 4 = name "fmt " then (readFormat body).map some
            else some format with
          | none => .error .invalid
          | some format =>
              if riffSize < next then .error .seeksBeyond
              else readChunks riffSize content fuel next format

def initfp (bytes : List UInt8) : Except WaveException WaveRead :=
  let riffSize := unsigned (slice bytes 4 4)
  let content := slice bytes 8 riffSize
  if bytes.length < 8 ∨ slice bytes 0 4 ≠ name "RIFF" ∨ slice content 0 4 ≠ name "WAVE" then
    .error .invalid
  else readChunks riffSize content bytes.length 4 none

/-- The chunk ends after the RIFF chunk. -/
example :
    initfp (name "RIFF" ++ [12, 0, 0, 0] ++ name "WAVE" ++ name "LIST" ++ [9, 0, 0, 0]) =
      .error .seeksBeyond := by
  decide

/-- `none` where the module raises. -/
def open? (bytes : List UInt8) : Option WaveRead := (initfp bytes).toOption

theorem open?_eq_some_iff {bytes : List UInt8} {wave : WaveRead} :
    open? bytes = some wave ↔ initfp bytes = .ok wave := by
  rw [open?]
  cases initfp bytes <;> simp [Except.toOption]

end WaveRead

end RvcOrchestrator.Foundation

import RvcOrchestrator.Foundation.JsNumber
import RvcOrchestrator.Foundation.Sha256
import Mathlib.Data.List.GetD
import Mathlib.Tactic.Ring

/-! # SHA-256 in the browser

A file is hashed before its upload, in chunks that need not fill blocks. Typed arrays hold
words and bytes, everything between them is computed with numbers.
-/

namespace RvcOrchestrator.Web

open RvcOrchestrator.Foundation
open RvcOrchestrator.Foundation.Sha256 (Word HashValue)

/-! ## The class -/

def initialState : HashValue where
  a := 0x6a09e667
  b := 0xbb67ae85
  c := 0x3c6ef372
  d := 0xa54ff53a
  e := 0x510e527f
  f := 0x9b05688c
  g := 0x1f83d9ab
  h := 0x5be0cd19

def constants : List Word :=
  [0x428a2f98, 0x71374491, 0xb5c0fbcf, 0xe9b5dba5, 0x3956c25b, 0x59f111f1,
   0x923f82a4, 0xab1c5ed5, 0xd807aa98, 0x12835b01, 0x243185be, 0x550c7dc3,
   0x72be5d74, 0x80deb1fe, 0x9bdc06a7, 0xc19bf174, 0xe49b69c1, 0xefbe4786,
   0x0fc19dc6, 0x240ca1cc, 0x2de92c6f, 0x4a7484aa, 0x5cb0a9dc, 0x76f988da,
   0x983e5152, 0xa831c66d, 0xb00327c8, 0xbf597fc7, 0xc6e00bf3, 0xd5a79147,
   0x06ca6351, 0x14292967, 0x27b70a85, 0x2e1b2138, 0x4d2c6dfc, 0x53380d13,
   0x650a7354, 0x766a0abb, 0x81c2c92e, 0x92722c85, 0xa2bfe8a1, 0xa81a664b,
   0xc24b8b70, 0xc76c51a3, 0xd192e819, 0xd6990624, 0xf40e3585, 0x106aa070,
   0x19a4c116, 0x1e376c08, 0x2748774c, 0x34b0bcb5, 0x391c0cb3, 0x4ed8aa4a,
   0x5b9cca4f, 0x682e6ff3, 0x748f82ee, 0x78a5636f, 0x84c87814, 0x8cc70208,
   0x90befffa, 0xa4506ceb, 0xbef9a3f7, 0xc67178f2]

def rotateRight (value : Int) (amount : Nat) : Int :=
  JsNumber.or (JsNumber.shiftRight value amount) (JsNumber.shiftLeft value (32 - amount))

structure IncrementalSha256 where
  state : HashValue
  buffer : List UInt8
  words : List Word
  buffered : Nat
  bytesHashed : Int
  finished : Bool
deriving DecidableEq

namespace IncrementalSha256

def start : IncrementalSha256 where
  state := initialState
  buffer := List.replicate 64 0
  words := List.replicate 64 0
  buffered := 0
  bytesHashed := 0
  finished := false

/-- `set` of a byte array. -/
def setBytes (array : List UInt8) (offset : Nat) (bytes : List UInt8) : List UInt8 :=
  array.take offset ++ bytes ++ array.drop (offset + bytes.length)

def byteAt (data : List UInt8) (index : Nat) : Int := (data.getD index 0).toNat

def wordAt (words : List Word) (index : Nat) : Int := (words.getD index 0).toNat

def loadWord (data : List UInt8) (start : Nat) : Int :=
  JsNumber.shiftRight
    (JsNumber.or
      (JsNumber.or
        (JsNumber.or (JsNumber.shiftLeft (byteAt data start) 24)
          (JsNumber.shiftLeft (byteAt data (start + 1)) 16))
        (JsNumber.shiftLeft (byteAt data (start + 2)) 8))
      (byteAt data (start + 3))) 0

def expandWord (words : List Word) (index : Nat) : Int :=
  let previous15 := wordAt words (index - 15)
  let previous2 := wordAt words (index - 2)
  let sigma0 := JsNumber.xor (JsNumber.xor (rotateRight previous15 7) (rotateRight previous15 18))
    (JsNumber.shiftRight previous15 3)
  let sigma1 := JsNumber.xor (JsNumber.xor (rotateRight previous2 17) (rotateRight previous2 19))
    (JsNumber.shiftRight previous2 10)
  JsNumber.shiftRight
    (JsNumber.add
      (JsNumber.add (JsNumber.add (wordAt words (index - 16)) sigma0) (wordAt words (index - 7)))
      sigma1) 0

structure WorkingVariables where
  a : Int
  b : Int
  c : Int
  d : Int
  e : Int
  f : Int
  g : Int
  h : Int

def WorkingVariables.ofState (state : HashValue) : WorkingVariables where
  a := state.a.toNat
  b := state.b.toNat
  c := state.c.toNat
  d := state.d.toNat
  e := state.e.toNat
  f := state.f.toNat
  g := state.g.toNat
  h := state.h.toNat

def round (words : List Word) (working : WorkingVariables) (index : Nat) : WorkingVariables :=
  let upperE := JsNumber.xor (JsNumber.xor (rotateRight working.e 6) (rotateRight working.e 11))
    (rotateRight working.e 25)
  let choose := JsNumber.xor (JsNumber.and working.e working.f)
    (JsNumber.and (JsNumber.not working.e) working.g)
  let temporary1 := JsNumber.shiftRight
    (JsNumber.add
      (JsNumber.add
        (JsNumber.add (JsNumber.add working.h upperE) choose) (wordAt constants index))
      (wordAt words index)) 0
  let upperA := JsNumber.xor (JsNumber.xor (rotateRight working.a 2) (rotateRight working.a 13))
    (rotateRight working.a 22)
  let majority := JsNumber.xor
    (JsNumber.xor (JsNumber.and working.a working.b) (JsNumber.and working.a working.c))
    (JsNumber.and working.b working.c)
  let temporary2 := JsNumber.shiftRight (JsNumber.add upperA majority) 0
  { a := JsNumber.shiftRight (JsNumber.add temporary1 temporary2) 0
    b := working.a
    c := working.b
    d := working.c
    e := JsNumber.shiftRight (JsNumber.add working.d temporary1) 0
    f := working.e
    g := working.f
    h := working.g }

def addWord (word : Word) (number : Int) : Word :=
  JsNumber.bits (JsNumber.shiftRight (JsNumber.add word.toNat number) 0)

def loadWords (data : List UInt8) (offset : Nat) (words : List Word) : List Word :=
  (List.range 16).foldl (fun words index =>
    words.set index (JsNumber.bits (loadWord data (offset + index * 4)))) words

def expandWords (words : List Word) : List Word :=
  (List.range' 16 48).foldl (fun words index =>
    words.set index (JsNumber.bits (expandWord words index))) words

def rounds (words : List Word) (working : WorkingVariables) : WorkingVariables :=
  (List.range 64).foldl (round words) working

def addWorking (state : HashValue) (working : WorkingVariables) : HashValue where
  a := addWord state.a working.a
  b := addWord state.b working.b
  c := addWord state.c working.c
  d := addWord state.d working.d
  e := addWord state.e working.e
  f := addWord state.f working.f
  g := addWord state.g working.g
  h := addWord state.h working.h

def compress (digest : IncrementalSha256) (data : List UInt8) (offset : Nat) :
    IncrementalSha256 :=
  let words := expandWords (loadWords data offset digest.words)
  { digest with
    words
    state := addWorking digest.state (rounds words (.ofState digest.state)) }

def compressBlocks (data : List UInt8) :
    Nat → IncrementalSha256 → Nat → IncrementalSha256 × Nat
  | 0, digest, offset => (digest, offset)
  | fuel + 1, digest, offset =>
      if offset + 64 ≤ data.length then
        compressBlocks data fuel (digest.compress data offset) (offset + 64)
      else (digest, offset)

def fillBuffer (digest : IncrementalSha256) (data : List UInt8) : IncrementalSha256 × Nat :=
  if 0 < digest.buffered then
    let needed := min (64 - digest.buffered) data.length
    let digest :=
      { digest with
        buffer := setBytes digest.buffer digest.buffered (data.take needed)
        buffered := digest.buffered + needed }
    if digest.buffered = 64 then ({ digest.compress digest.buffer 0 with buffered := 0 }, needed)
    else (digest, needed)
  else (digest, 0)

def update (digest : IncrementalSha256) (data : List UInt8) : Except String IncrementalSha256 :=
  if digest.finished then .error "SHA-256 digest is already finalized"
  else if JsNumber.maxSafeInteger < JsNumber.add digest.bytesHashed data.length then
    .error "SHA-256 input exceeds the supported browser size"
  else
    let digest := { digest with bytesHashed := JsNumber.add digest.bytesHashed data.length }
    let (digest, offset) := digest.fillBuffer data
    let (digest, offset) := compressBlocks data (data.length / 64 + 1) digest offset
    if offset < data.length then
      .ok
        { digest with
          buffer := setBytes digest.buffer 0 (data.drop offset)
          buffered := data.length - offset }
    else .ok digest

/-- `setUint32` of a data view, the highest byte first. -/
def setUint32 (array : List UInt8) (offset : Nat) (number : Int) : List UInt8 :=
  setBytes array offset (Sha256.numberBytes 4 (JsNumber.bits number).toNat)

def finalBlocks (digest : IncrementalSha256) : List UInt8 :=
  let length := if digest.buffered < 56 then 64 else 128
  let blocks := setBytes (List.replicate length 0) 0 (digest.buffer.take digest.buffered)
  let blocks := setBytes blocks digest.buffered [0x80]
  let bitHigh := digest.bytesHashed / 0x20000000
  let bitLow := JsNumber.shiftRight (JsNumber.shiftLeft digest.bytesHashed 3) 0
  setUint32 (setUint32 blocks (length - 8) bitHigh) (length - 4) bitLow

def finish (digest : IncrementalSha256) : IncrementalSha256 :=
  let blocks := digest.finalBlocks
  { (compressBlocks blocks (blocks.length / 64 + 1) digest 0).1 with finished := true }

/-- `toString(16).padStart(8, "0")`. -/
def wordHex (word : Word) : List Char :=
  let digits := Nat.toDigits 16 word.toNat
  List.replicate (8 - digits.length) '0' ++ digits

def hexDigest (digest : IncrementalSha256) : String × IncrementalSha256 :=
  let digest := if digest.finished then digest else digest.finish
  (String.ofList (digest.state.words.flatMap wordHex), digest)

end IncrementalSha256

/-! ## Blobs -/

/-- What happens around the chunks of a blob: whether the signal has been aborted when it is asked,
and whether a slice cannot be read. -/
structure HashingEnvironment where
  aborted : Nat → Bool
  readError : Nat → Option String

def hashingCancelled : String := "Dataset hashing was cancelled"

/-- The loop over the chunks, and how often the signal has been asked. -/
def hashChunks (environment : HashingEnvironment) (blob : List UInt8) (chunkBytes : Int) :
    Nat → Nat → Int → IncrementalSha256 → Except String (IncrementalSha256 × Nat)
  | 0, asked, _, digest => .ok (digest, asked)
  | fuel + 1, asked, offset, digest =>
      if offset < blob.length then
        if environment.aborted asked then .error hashingCancelled
        else
          let stop := min (blob.length : Int) (JsNumber.add offset chunkBytes)
          match environment.readError asked with
          | some error => .error error
          | none =>
              match digest.update ((blob.take stop.toNat).drop offset.toNat) with
              | .error error => .error error
              | .ok digest =>
                  hashChunks environment blob chunkBytes fuel (asked + 1)
                    (JsNumber.add offset chunkBytes) digest
      else .ok (digest, asked)

def defaultChunkBytes : Int := 4 * 1024 * 1024

/-- The chunk size that is used, when it is accepted. -/
def acceptedChunkBytes : Option JsNumber.Number → Option Int
  | none => some defaultChunkBytes
  | some number =>
      match number.safeInteger with
      | none => none
      | some chunkBytes => if chunkBytes < 64 then none else some chunkBytes

def sha256Blob (environment : HashingEnvironment) (blob : List UInt8)
    (chunkBytes : Option JsNumber.Number) : Except String String :=
  match acceptedChunkBytes chunkBytes with
  | none => .error "SHA-256 chunk size must be at least 64 bytes"
  | some chunkBytes =>
      match hashChunks environment blob chunkBytes (blob.length / 64 + 1) 0 0 .start with
      | .error error => .error error
      | .ok (digest, asked) =>
          if environment.aborted asked then .error hashingCancelled
          else .ok digest.hexDigest.1

namespace IncrementalSha256

/-! ## Words -/

open JsNumber

theorem initialState_eq : initialState = Sha256.HashValue.initial := rfl

theorem constants_eq : constants = Sha256.roundConstants := rfl

@[simp] theorem bits_rotateRight (value : Int) {amount : Nat} (inside : 0 < amount ∧ amount < 32) :
    bits (rotateRight value amount) = (bits value).rotateRight amount := by
  rw [rotateRight, bits_or, bits_shiftRight, bits_shiftLeft, BitVec.rotateRight_def,
    Nat.mod_eq_of_lt inside.2]

@[simp] theorem bits_wordAt (words : List Word) (index : Nat) :
    bits (wordAt words index) = words.getD index 0 := bits_toNat _

theorem fits_wordAt (words : List Word) (index : Nat) : Fits (wordAt words index) := fits_toNat _

theorem fits_xor (left right : Int) : Fits (xor left right) := fits_toInt _

/-- A number after `>>> 0` is its bits, without a sign. -/
theorem shiftRight_zero (number : Int) : shiftRight number 0 = (bits number).toNat := by
  rw [shiftRight, BitVec.ushiftRight_zero]

/-- Bytes put next to each other do not overlap. -/
theorem or_bytes (first : Nat) {second third fourth : Nat} (two : second < 256) (three : third < 256)
    (four : fourth < 256) :
    first <<< 24 ||| second <<< 16 ||| third <<< 8 ||| fourth =
      ((first * 256 + second) * 256 + third) * 256 + fourth := by
  have pair : first <<< 24 ||| second <<< 16 = (first * 256 + second) <<< 16 := by
    rw [← Nat.shiftLeft_add_eq_or_of_lt (by rw [Nat.shiftLeft_eq]; omega), Nat.shiftLeft_eq,
      Nat.shiftLeft_eq, Nat.shiftLeft_eq]
    ring
  have triple : (first * 256 + second) <<< 16 ||| third <<< 8 =
      ((first * 256 + second) * 256 + third) <<< 8 := by
    rw [← Nat.shiftLeft_add_eq_or_of_lt (by rw [Nat.shiftLeft_eq]; omega), Nat.shiftLeft_eq,
      Nat.shiftLeft_eq, Nat.shiftLeft_eq]
    ring
  rw [pair, triple, ← Nat.shiftLeft_add_eq_or_of_lt (by omega), Nat.shiftLeft_eq]

theorem bits_byteAt (data : List UInt8) (index : Nat) :
    bits (byteAt data index) = .ofNat 32 (data.getD index 0).toNat :=
  BitVec.ofInt_natCast ..

/-- The bytes of a word, the highest first. -/
theorem bits_loadWord (data : List UInt8) (start : Nat) :
    bits (loadWord data start) =
      .ofNat 32 (Sha256.bigEndian
        [data.getD start 0, data.getD (start + 1) 0, data.getD (start + 2) 0,
          data.getD (start + 3) 0]) := by
  have one := (data.getD start 0).toNat_lt
  have two := (data.getD (start + 1) 0).toNat_lt
  have three := (data.getD (start + 2) 0).toNat_lt
  have four := (data.getD (start + 3) 0).toNat_lt
  simp only [loadWord, bits_shiftRight, bits_or, bits_shiftLeft, bits_byteAt,
    BitVec.ushiftRight_zero, Sha256.bigEndian, List.foldl_cons, List.foldl_nil]
  generalize (data.getD start 0).toNat = first at *
  generalize (data.getD (start + 1) 0).toNat = second at *
  generalize (data.getD (start + 2) 0).toNat = third at *
  generalize (data.getD (start + 3) 0).toNat = fourth at *
  apply BitVec.eq_of_toNat_eq
  have joined := or_bytes first two three four
  have smallOne : first <<< 24 < 2 ^ 32 := by
    rw [Nat.shiftLeft_eq]
    omega
  have smallTwo : second <<< 16 < 2 ^ 32 := by
    rw [Nat.shiftLeft_eq]
    omega
  have smallThree : third <<< 8 < 2 ^ 32 := by
    rw [Nat.shiftLeft_eq]
    omega
  simp only [BitVec.toNat_or, BitVec.toNat_shiftLeft, BitVec.toNat_ofNat]
  rw [Nat.mod_eq_of_lt (show first < 2 ^ 32 by omega),
    Nat.mod_eq_of_lt (show second < 2 ^ 32 by omega),
    Nat.mod_eq_of_lt (show third < 2 ^ 32 by omega),
    Nat.mod_eq_of_lt (show fourth < 2 ^ 32 by omega), Nat.mod_eq_of_lt smallOne,
    Nat.mod_eq_of_lt smallTwo, Nat.mod_eq_of_lt smallThree, joined, Nat.mod_eq_of_lt (by omega)]
  omega

/-! ## Compression -/

theorem bits_expandWord (words : List Word) {index : Nat} (later : 16 ≤ index)
    (inside : index ≤ words.length) :
    bits (expandWord words index) = Sha256.scheduleWord (words.take index) := by
  have back : ∀ distance ≤ 16, 0 < distance →
      words.getD (index - distance) 0 =
        (words.take index).getD ((words.take index).length - distance) 0 := by
    intro distance near positive
    rw [List.length_take, Nat.min_eq_left inside, List.getD_eq_getElem?_getD,
      List.getD_eq_getElem?_getD, List.getElem?_take_of_lt (by omega)]
  rw [expandWord]
  simp only [bits_shiftRight, BitVec.ushiftRight_zero]
  rw [bits_add_four (fits_wordAt ..) (fits_xor ..) (fits_wordAt ..) (fits_xor ..)]
  simp only [bits_xor, bits_shiftRight, bits_wordAt]
  rw [bits_rotateRight _ (by omega), bits_rotateRight _ (by omega), bits_rotateRight _ (by omega),
    bits_rotateRight _ (by omega)]
  simp only [bits_wordAt]
  rw [back 15 (by omega) (by omega), back 2 (by omega) (by omega), back 16 (by omega) (by omega),
    back 7 (by omega) (by omega), Sha256.scheduleWord]
  simp only [Sha256.smallSigma0, Sha256.smallSigma1]
  ac_rfl

/-- The words of a schedule, each written from those before it. -/
theorem take_expandWords (count : Nat) {start : Nat} {words : List Word} (later : 16 ≤ start)
    (inside : start + count ≤ words.length) :
    ((List.range' start count).foldl
        (fun words index => words.set index (bits (expandWord words index))) words).take
        (start + count) =
      Sha256.extendSchedule count (words.take start) := by
  induction count generalizing start words with
  | zero => rfl
  | succ count induction =>
      have place : start < words.length := by omega
      have written : (words.set start (bits (expandWord words start))).take (start + 1) =
          words.take start ++ [Sha256.scheduleWord (words.take start)] := by
        rw [List.take_add_one, List.getElem?_set_self place, List.take_set_of_le (le_refl _),
          bits_expandWord words later (by omega)]
        rfl
      have order : start + (count + 1) = start + 1 + count := by omega
      rw [List.range'_succ, List.foldl_cons, order,
        induction (by omega) (by rw [List.length_set]; omega), written, Sha256.extendSchedule]

theorem foldl_set_length (value : List Word → Nat → Word) (indices : List Nat)
    (words : List Word) :
    (indices.foldl (fun words index => words.set index (value words index)) words).length =
      words.length := by
  induction indices generalizing words with
  | nil => rfl
  | cons index indices induction => rw [List.foldl_cons, induction, List.length_set]

theorem take_loadWords (data : List UInt8) (offset count : Nat) {words : List Word}
    (inside : count ≤ words.length) :
    ((List.range count).foldl
        (fun words index => words.set index (bits (loadWord data (offset + index * 4))))
        words).take count =
      (List.range count).map fun index => bits (loadWord data (offset + index * 4)) := by
  induction count with
  | zero => rfl
  | succ count induction =>
      rw [List.range_succ, List.foldl_append, List.map_append, ← induction (by omega)]
      generalize written : (List.range count).foldl
        (fun words index => words.set index (bits (loadWord data (offset + index * 4)))) words =
          before
      have place : count < before.length := by
        rw [← written, foldl_set_length (fun _ index => bits (loadWord data (offset + index * 4)))]
        omega
      rw [List.foldl_cons, List.foldl_nil, List.take_add_one, List.getElem?_set_self place,
        List.take_set_of_le (le_refl _)]
      rfl

theorem take_four {bytes : List UInt8} {place : Nat} (inside : place + 4 ≤ bytes.length) :
    (bytes.drop place).take 4 =
      [bytes.getD place 0, bytes.getD (place + 1) 0, bytes.getD (place + 2) 0,
        bytes.getD (place + 3) 0] := by
  rw [List.drop_eq_getElem_cons (by omega), List.drop_eq_getElem_cons (by omega),
    List.drop_eq_getElem_cons (by omega), List.drop_eq_getElem_cons (by omega)]
  simp only [List.take_succ_cons, List.take_zero]
  rw [List.getD_eq_getElem _ _ (by omega), List.getD_eq_getElem _ _ (by omega),
    List.getD_eq_getElem _ _ (by omega), List.getD_eq_getElem _ _ (by omega)]

theorem loadWords_eq {data : List UInt8} {offset : Nat} (inside : offset + 64 ≤ data.length) :
    ((List.range 16).map fun index => bits (loadWord data (offset + index * 4))) =
      Sha256.blockWords ((data.drop offset).take 64) := by
  apply List.map_congr_left
  intro index member
  have below := List.mem_range.mp member
  rw [bits_loadWord, List.drop_take, List.drop_drop, List.take_take,
    Nat.min_eq_left (by omega), take_four (by omega)]

theorem loadWords_length (data : List UInt8) (offset : Nat) (words : List Word) :
    (loadWords data offset words).length = words.length :=
  foldl_set_length (fun _ index => bits (loadWord data (offset + index * 4))) _ _

theorem expandWords_length (words : List Word) : (expandWords words).length = words.length :=
  foldl_set_length (fun words index => bits (expandWord words index)) _ _

/-- The schedule that the two loops leave in the words. -/
theorem expandWords_loadWords {data : List UInt8} {offset : Nat}
    (inside : offset + 64 ≤ data.length) {words : List Word} (length : words.length = 64) :
    expandWords (loadWords data offset words) =
      Sha256.schedule (Sha256.blockWords ((data.drop offset).take 64)) := by
  have loaded := loadWords_length data offset words
  have first : (loadWords data offset words).take 16 = _ :=
    take_loadWords data offset 16 (by omega)
  rw [loadWords_eq inside] at first
  generalize loadWords data offset words = before at loaded first ⊢
  have full := expandWords_length before
  have expanded : (expandWords before).take (16 + 48) = _ :=
    take_expandWords 48 (le_refl 16) (by omega)
  rw [first, List.take_of_length_le (by omega)] at expanded
  exact expanded

/-! ## Rounds -/

theorem round_ofState (words : List Word) (state : HashValue) (index : Nat) :
    round words (.ofState state) index =
      .ofState (Sha256.round state (constants.getD index 0) (words.getD index 0)) := by
  have first : bits (add (add (add (add state.h.toNat
      (xor (xor (rotateRight state.e.toNat 6) (rotateRight state.e.toNat 11))
        (rotateRight state.e.toNat 25)))
      (xor (and state.e.toNat state.f.toNat) (and (not state.e.toNat) state.g.toNat)))
      (wordAt constants index)) (wordAt words index)) =
      state.h + Sha256.bigSigma1 state.e + Sha256.ch state.e state.f state.g +
        constants.getD index 0 + words.getD index 0 := by
    rw [bits_add_five (fits_toNat _) (fits_xor ..) (fits_xor ..) (fits_wordAt ..) (fits_wordAt ..)]
    simp only [bits_xor, bits_and, bits_not, bits_toNat, bits_wordAt]
    rw [bits_rotateRight _ (by omega), bits_rotateRight _ (by omega),
      bits_rotateRight _ (by omega), bits_toNat]
    rfl
  have second : bits (add (xor (xor (rotateRight state.a.toNat 2) (rotateRight state.a.toNat 13))
      (rotateRight state.a.toNat 22))
      (xor (xor (and state.a.toNat state.b.toNat) (and state.a.toNat state.c.toNat))
        (and state.b.toNat state.c.toNat))) =
      Sha256.bigSigma0 state.a + Sha256.maj state.a state.b state.c := by
    rw [bits_add_two (fits_xor ..) (fits_xor ..)]
    simp only [bits_xor, bits_and, bits_toNat]
    rw [bits_rotateRight _ (by omega), bits_rotateRight _ (by omega),
      bits_rotateRight _ (by omega), bits_toNat]
    rfl
  rw [round]
  simp only [WorkingVariables.ofState, first, second, shiftRight_zero]
  rw [bits_add_two (fits_toNat _) (fits_toNat _), bits_add_two (fits_toNat _) (fits_toNat _)]
  simp only [bits_toNat]
  rfl

theorem foldl_round_ofState (words : List Word) (indices : List Nat) (state : HashValue) :
    indices.foldl (round words) (.ofState state) =
      .ofState (Sha256.rounds state
        (indices.map fun index => (constants.getD index 0, words.getD index 0))) := by
  induction indices generalizing state with
  | nil => rfl
  | cons index indices induction =>
      rw [List.foldl_cons, round_ofState, induction]
      rfl

theorem zip_getD {left right : List Word} {length : Nat} (leftLength : left.length = length)
    (rightLength : right.length = length) :
    left.zip right = (List.range length).map fun index => (left.getD index 0, right.getD index 0) := by
  apply List.ext_getElem
  · rw [List.length_zip, List.length_map, List.length_range, leftLength, rightLength,
      Nat.min_self]
  · intro index inZip inMap
    rw [List.length_map, List.length_range] at inMap
    rw [List.getElem_zip, List.getElem_map, List.getElem_range,
      List.getD_eq_getElem _ _ (by omega), List.getD_eq_getElem _ _ (by omega)]

theorem addWord_eq (left right : Word) : addWord left right.toNat = left + right := by
  rw [addWord, bits_shiftRight, BitVec.ushiftRight_zero, bits_add_two (fits_toNat _) (fits_toNat _),
    bits_toNat, bits_toNat]

theorem rounds_ofState {words : List Word} (length : words.length = 64) (state : HashValue) :
    rounds words (.ofState state) =
      .ofState (Sha256.rounds state (Sha256.roundConstants.zip words)) := by
  rw [rounds, foldl_round_ofState, ← constants_eq,
    zip_getD (show constants.length = 64 from rfl) length]

theorem addWorking_ofState (state value : HashValue) :
    addWorking state (.ofState value) = state.add value := by
  simp only [addWorking, WorkingVariables.ofState, addWord_eq]
  rfl

theorem compress_words_length (digest : IncrementalSha256) (data : List UInt8) (offset : Nat) :
    (digest.compress data offset).words.length = digest.words.length := by
  rw [compress]
  simp only [expandWords_length, loadWords_length]

/-- One block of the data is compressed. -/
theorem compress_state {digest : IncrementalSha256} {data : List UInt8} {offset : Nat}
    (length : digest.words.length = 64) (inside : offset + 64 ≤ data.length) :
    (digest.compress data offset).state =
      Sha256.compress digest.state ((data.drop offset).take 64) := by
  have schedule := expandWords_loadWords inside length
  have full := compress_words_length digest data offset
  simp only [compress, schedule, length] at full ⊢
  rw [rounds_ofState full, addWorking_ofState]
  rfl

@[simp] theorem compress_buffer (digest : IncrementalSha256) (data : List UInt8) (offset : Nat) :
    (digest.compress data offset).buffer = digest.buffer := by
  rw [compress]

@[simp] theorem compress_bytesHashed (digest : IncrementalSha256) (data : List UInt8)
    (offset : Nat) : (digest.compress data offset).bytesHashed = digest.bytesHashed := by
  rw [compress]

@[simp] theorem compress_finished (digest : IncrementalSha256) (data : List UInt8)
    (offset : Nat) : (digest.compress data offset).finished = digest.finished := by
  rw [compress]

/-! ## Absorbed bytes -/

structure BlocksCompressed (digest : IncrementalSha256) (data : List UInt8) (offset : Nat)
    (result : IncrementalSha256 × Nat) : Prop where
  state : result.1.state = (Sha256.absorb digest.state (data.drop offset)).1
  words : result.1.words.length = 64
  buffer : result.1.buffer = digest.buffer
  buffered : result.1.buffered = digest.buffered
  bytesHashed : result.1.bytesHashed = digest.bytesHashed
  finished : result.1.finished = digest.finished
  offset : result.2 = data.length - (data.length - offset) % 64

theorem compressBlocks_spec {data : List UInt8} {fuel : Nat} {digest : IncrementalSha256}
    {offset : Nat} (length : digest.words.length = 64) (within : offset ≤ data.length)
    (enough : (data.length - offset) / 64 < fuel) :
    BlocksCompressed digest data offset (compressBlocks data fuel digest offset) := by
  induction fuel generalizing digest offset with
  | zero => omega
  | succ fuel induction =>
      rw [compressBlocks]
      split
      · next block =>
          have remaining : data.length - offset = data.length - (offset + 64) + 64 := by omega
          have absorbed : Sha256.absorb digest.state (data.drop offset) = _ :=
            Sha256.absorb_block digest.state (by rw [List.length_drop]; omega)
          rw [List.drop_drop] at absorbed
          have later := induction ((compress_words_length digest data offset).trans length) block
            (by omega)
          generalize compressBlocks data fuel (digest.compress data offset) (offset + 64) =
            result at later
          exact
            { state := by
                rw [later.state, compress_state length block, absorbed]
              words := later.words
              buffer := later.buffer
              buffered := later.buffered
              bytesHashed := later.bytesHashed
              finished := later.finished
              offset := by rw [later.offset, remaining, Nat.add_mod_right] }
      · next short =>
          have rest : (data.drop offset).length < 64 := by
            rw [List.length_drop]
            omega
          exact
            { state := by rw [Sha256.absorb_short _ rest]
              words := length
              buffer := rfl
              buffered := rfl
              bytesHashed := rfl
              finished := rfl
              offset := by
                rw [Nat.mod_eq_of_lt (by omega)]
                omega }

/-- The digest has absorbed the bytes, and the buffer holds what is left of them. -/
structure Absorbed (digest : IncrementalSha256) (bytes : List UInt8) : Prop where
  state : digest.state = (Sha256.absorb .initial bytes).1
  buffer : digest.buffer.take digest.buffered = (Sha256.absorb .initial bytes).2
  bufferLength : digest.buffer.length = 64
  buffered : digest.buffered = bytes.length % 64
  words : digest.words.length = 64

theorem take_setBytes {array bytes : List UInt8} {offset : Nat} (inside : offset ≤ array.length) :
    (setBytes array offset bytes).take (offset + bytes.length) = array.take offset ++ bytes := by
  have length : (array.take offset ++ bytes).length = offset + bytes.length := by
    rw [List.length_append, List.length_take, Nat.min_eq_left inside]
  rw [setBytes, ← length, List.take_left]

theorem setBytes_length {array bytes : List UInt8} {offset : Nat}
    (inside : offset + bytes.length ≤ array.length) :
    (setBytes array offset bytes).length = array.length := by
  rw [setBytes, List.length_append, List.length_append, List.length_take, List.length_drop]
  omega

section

variable {digest : IncrementalSha256} {bytes data : List UInt8}

/-- What is left and what follows it, without a full block. -/
theorem absorb_partial (short : bytes.length % 64 + data.length < 64) :
    Sha256.absorb .initial (bytes ++ data) =
      ((Sha256.absorb .initial bytes).1, (Sha256.absorb .initial bytes).2 ++ data) := by
  rw [Sha256.absorb_append, Sha256.absorb_short]
  rw [List.length_append, Sha256.absorb_rest_length]
  exact short

/-- What is left and what follows it, if they fill a block. -/
theorem absorb_filled (full : bytes.length % 64 + data.length = 64) :
    Sha256.absorb .initial (bytes ++ data) =
      (Sha256.compress (Sha256.absorb .initial bytes).1
        ((Sha256.absorb .initial bytes).2 ++ data), []) := by
  have length : ((Sha256.absorb .initial bytes).2 ++ data).length = 64 := by
    rw [List.length_append, Sha256.absorb_rest_length, full]
  rw [Sha256.absorb_append, Sha256.absorb_block _ length.ge, List.take_of_length_le length.le,
    List.drop_of_length_le length.le]
  exact Sha256.absorb_short _ (by decide)

structure Filled (digest : IncrementalSha256) (bytes data : List UInt8)
    (result : IncrementalSha256 × Nat) : Prop where
  within : result.2 ≤ data.length
  absorbed : Absorbed result.1 (bytes ++ data.take result.2)
  finished : result.1.buffered = 0 ∨ result.2 = data.length
  bytesHashed : result.1.bytesHashed = digest.bytesHashed
  open_ : result.1.finished = digest.finished

theorem Absorbed.fillBuffer (absorbed : Absorbed digest bytes) (data : List UInt8) :
    Filled digest bytes data (digest.fillBuffer data) := by
  have buffered := absorbed.buffered
  have bufferLength := absorbed.bufferLength
  have below := Nat.mod_lt bytes.length (show 0 < 64 by decide)
  rw [IncrementalSha256.fillBuffer]
  split
  · next some_byte =>
      generalize needed : min (64 - digest.buffered) data.length = count
      have taken : (data.take count).length = count := by
        rw [List.length_take]
        omega
      have room : digest.buffered + (data.take count).length ≤ digest.buffer.length := by omega
      have inside : digest.buffered ≤ digest.buffer.length := by omega
      have front : (setBytes digest.buffer digest.buffered (data.take count)).take
          (digest.buffered + (data.take count).length) = _ := take_setBytes inside
      have length := setBytes_length room
      rw [taken, absorbed.buffer] at front
      simp only
      generalize setBytes digest.buffer digest.buffered (data.take count) = buffer at front length ⊢
      rw [bufferLength] at length
      split
      · next full =>
          have filled : Sha256.absorb .initial (bytes ++ data.take count) = _ :=
            absorb_filled (by omega)
          rw [full] at front
          have state : (compress { digest with buffer, buffered := digest.buffered + count }
              buffer 0).state =
                Sha256.compress (Sha256.absorb .initial bytes).1
                  ((Sha256.absorb .initial bytes).2 ++ data.take count) := by
            have compressed : (compress
                { digest with buffer, buffered := digest.buffered + count } buffer 0).state = _ :=
              compress_state absorbed.words length.ge
            rw [compressed, List.drop_zero, front, absorbed.state]
          have words := (compress_words_length
            { digest with buffer, buffered := digest.buffered + count } buffer 0).trans
              absorbed.words
          have kept := compress_buffer
            { digest with buffer, buffered := digest.buffered + count } buffer 0
          have hashed := compress_bytesHashed
            { digest with buffer, buffered := digest.buffered + count } buffer 0
          have ended := compress_finished
            { digest with buffer, buffered := digest.buffered + count } buffer 0
          generalize compress { digest with buffer, buffered := digest.buffered + count } buffer 0 =
            after at state words kept hashed ended ⊢
          exact
            { within := by
                simp only
                omega
              absorbed :=
                { state := by
                    rw [filled]
                    exact state
                  buffer := by
                    rw [filled]
                    rfl
                  bufferLength := by
                    simp only [kept]
                    exact length
                  buffered := by
                    simp only [List.length_append, taken]
                    omega
                  words }
              finished := .inl rfl
              bytesHashed := hashed
              open_ := ended }
      · next short =>
          have all : count = data.length := by omega
          have left : Sha256.absorb .initial (bytes ++ data.take count) = _ :=
            absorb_partial (by omega)
          exact
            { within := by
                simp only
                omega
              absorbed :=
                { state := by
                    rw [left]
                    exact absorbed.state
                  buffer := by
                    rw [left]
                    exact front
                  bufferLength := length
                  buffered := by
                    simp only [List.length_append, taken]
                    omega
                  words := absorbed.words }
              finished := .inr all
              bytesHashed := rfl
              open_ := rfl }
  · next nothing =>
      have empty : digest.buffered = 0 := by omega
      exact
        { within := Nat.zero_le _
          absorbed := by
            rw [List.take_zero, List.append_nil]
            exact absorbed
          finished := .inl empty
          bytesHashed := rfl
          open_ := rfl }

structure Represents (digest : IncrementalSha256) (bytes : List UInt8) : Prop where
  absorbed : Absorbed digest bytes
  bytesHashed : digest.bytesHashed = bytes.length
  finished : digest.finished = false

theorem start_represents : Represents start [] := by
  have nothing : Sha256.absorb .initial [] = (.initial, []) := Sha256.absorb_short _ (by decide)
  have absorbed : Absorbed start [] := by
    constructor
    · rw [nothing, ← initialState_eq]
      rfl
    · rw [nothing]
      rfl
    · rfl
    · rfl
    · rfl
  exact ⟨absorbed, rfl, rfl⟩

/-- The whole of the data is absorbed, of which the buffer took the front. -/
theorem Absorbed.rest {before : IncrementalSha256 × Nat} {after : IncrementalSha256 × Nat}
    (filled : Filled digest bytes data before)
    (compressed : BlocksCompressed before.1 data before.2 after) :
    Absorbed
      (if after.2 < data.length then
        { after.1 with
          buffer := setBytes after.1.buffer 0 (data.drop after.2)
          buffered := data.length - after.2 }
      else after.1) (bytes ++ data) := by
  have within := filled.within
  have offset := compressed.offset
  rcases filled.finished with empty | all
  · -- Nothing is left before the rest of the data.
    have nothing : (Sha256.absorb .initial (bytes ++ data.take before.2)).2 = [] := by
      rw [← filled.absorbed.buffer, empty, List.take_zero]
    have whole : Sha256.absorb .initial (bytes ++ data) =
        Sha256.absorb before.1.state (data.drop before.2) := by
      rw [← List.take_append_drop before.2 data, ← List.append_assoc, Sha256.absorb_append,
        nothing, List.nil_append, ← filled.absorbed.state, List.take_append_drop]
    have rest := Sha256.absorb_rest before.1.state (data.drop before.2)
    have place : before.2 + (data.drop before.2).length / 64 * 64 = after.2 := by
      rw [offset, List.length_drop]
      omega
    rw [List.drop_drop, place] at rest
    have aligned : (bytes.length + before.2) % 64 = 0 := by
      have buffered := filled.absorbed.buffered
      rw [empty, List.length_append, List.length_take, Nat.min_eq_left within] at buffered
      exact buffered.symm
    have bufferLength : after.1.buffer.length = 64 := by
      rw [compressed.buffer]
      exact filled.absorbed.bufferLength
    split
    · next some_left =>
        have length : (data.drop after.2).length = data.length - after.2 := List.length_drop
        have front : (setBytes after.1.buffer 0 (data.drop after.2)).take
            (0 + (data.drop after.2).length) = _ := take_setBytes (Nat.zero_le _)
        rw [Nat.zero_add, length, List.take_zero, List.nil_append] at front
        constructor
        · rw [whole]
          exact compressed.state
        · rw [whole, rest]
          exact front
        · exact (setBytes_length (by rw [length, bufferLength]; omega)).trans bufferLength
        · rw [List.length_append]
          simp only
          omega
        · exact compressed.words
    · next none_left =>
        constructor
        · rw [whole]
          exact compressed.state
        · rw [whole, rest, compressed.buffered, empty, List.take_zero,
            List.drop_eq_nil_of_le (by omega)]
        · exact bufferLength
        · rw [compressed.buffered, empty, List.length_append]
          omega
        · exact compressed.words
  · -- All of the data is in the buffer.
    have done : after.2 = data.length := by
      rw [offset, all, Nat.sub_self, Nat.zero_mod, Nat.sub_zero]
    have taken := filled.absorbed
    have state := compressed.state
    rw [all, List.take_length] at taken
    rw [all, List.drop_length, Sha256.absorb_short _ (by decide)] at state
    rw [if_neg (by omega)]
    constructor
    · exact state.trans taken.state
    · rw [compressed.buffer, compressed.buffered]
      exact taken.buffer
    · rw [compressed.buffer]
      exact taken.bufferLength
    · rw [compressed.buffered]
      exact taken.buffered
    · exact compressed.words

/-- Data are accepted up to the size of the browser's numbers, and absorbed. -/
theorem Represents.update (represents : Represents digest bytes)
    (supported : bytes.length + data.length < 2 ^ 53) :
    ∃ after, digest.update data = .ok after ∧ Represents after (bytes ++ data) := by
  have sum : add digest.bytesHashed data.length = (bytes ++ data).length := by
    rw [represents.bytesHashed, List.length_append, Nat.cast_add, add_exact (by omega)]
  have within : ¬maxSafeInteger < add digest.bytesHashed data.length := by
    rw [sum, List.length_append, maxSafeInteger]
    omega
  have counted : Absorbed { digest with bytesHashed := add digest.bytesHashed data.length } bytes :=
    ⟨represents.absorbed.state, represents.absorbed.buffer, represents.absorbed.bufferLength,
      represents.absorbed.buffered, represents.absorbed.words⟩
  have filled := counted.fillBuffer data
  have accepting : ¬digest.finished = true := by
    rw [represents.finished]
    exact Bool.false_ne_true
  rw [IncrementalSha256.update, if_neg accepting, if_neg within]
  simp only
  generalize IncrementalSha256.fillBuffer
    { digest with bytesHashed := add digest.bytesHashed data.length } data = before at filled ⊢
  have compressed : BlocksCompressed before.1 data before.2
      (compressBlocks data (data.length / 64 + 1) before.1 before.2) :=
    compressBlocks_spec filled.absorbed.words filled.within (by omega)
  generalize compressBlocks data (data.length / 64 + 1) before.1 before.2 = after at compressed ⊢
  have absorbed := Absorbed.rest filled compressed
  have hashed : after.1.bytesHashed = (bytes ++ data).length := by
    rw [compressed.bytesHashed, filled.bytesHashed]
    exact sum
  have open_ : after.1.finished = false := by
    rw [compressed.finished, filled.open_]
    exact represents.finished
  split at absorbed
  · next some_left =>
      rw [if_pos some_left]
      exact ⟨_, rfl, absorbed, hashed, open_⟩
  · next none_left =>
      rw [if_neg none_left]
      exact ⟨_, rfl, absorbed, hashed, open_⟩

/-! ## The last blocks -/

theorem setBytes_middle {front middle back bytes : List UInt8} {offset : Nat}
    (place : front.length = offset) (length : middle.length = bytes.length) :
    setBytes (front ++ middle ++ back) offset bytes = front ++ bytes ++ back := by
  have beyond : offset + bytes.length = (front ++ middle).length := by
    rw [List.length_append, place, length]
  rw [setBytes, beyond, List.drop_left, List.append_assoc front middle, ← place, List.take_left]

theorem numberBytes_length (count number : Nat) :
    (Sha256.numberBytes count number).length = count := by
  rw [Sha256.numberBytes, List.length_map, List.length_range]

/-- The length in bits is written as two numbers. -/
theorem numberBytes_eight {high low number : Nat} (small : low < 2 ^ 32)
    (parts : number = high * 2 ^ 32 + low) :
    Sha256.numberBytes 8 number = Sha256.numberBytes 4 high ++ Sha256.numberBytes 4 low := by
  have byte : ∀ left right : Nat, left % 256 = right % 256 →
      UInt8.ofNat left = UInt8.ofNat right := by
    intro left right same
    apply UInt8.toNat_inj.mp
    rw [UInt8.toNat_ofNat', UInt8.toNat_ofNat']
    exact same
  subst parts
  simp only [Sha256.numberBytes, List.range_succ, List.range_zero, List.nil_append,
    List.map_cons, List.map_nil, List.cons_append, List.cons.injEq, and_true]
  refine ⟨byte _ _ ?_, byte _ _ ?_, byte _ _ ?_, byte _ _ ?_, byte _ _ ?_, byte _ _ ?_,
    byte _ _ ?_, byte _ _ ?_⟩ <;> norm_num <;> omega

/-- The rest of a message and its padding. -/
theorem Represents.finalBlocks (represents : Represents digest bytes)
    (supported : bytes.length < 2 ^ 53) :
    digest.finalBlocks = (Sha256.absorb .initial bytes).2 ++ Sha256.padding bytes.length := by
  have buffered := represents.absorbed.buffered
  have below := Nat.mod_lt bytes.length (show 0 < 64 by decide)
  have restLength := Sha256.absorb_rest_length .initial bytes
  have high : (bits (digest.bytesHashed / 0x20000000)).toNat = bytes.length / 2 ^ 29 := by
    rw [represents.bytesHashed]
    have quotient : (bytes.length : Int) / 0x20000000 = (bytes.length / 2 ^ 29 : Nat) := by
      norm_num
    rw [quotient, bits, BitVec.ofInt_natCast, BitVec.toNat_ofNat, Nat.mod_eq_of_lt (by omega)]
  have low : (bits (shiftRight (shiftLeft digest.bytesHashed 3) 0)).toNat =
      8 * bytes.length % 2 ^ 32 := by
    rw [bits_shiftRight, bits_shiftLeft, BitVec.ushiftRight_zero, represents.bytesHashed, bits,
      BitVec.ofInt_natCast, BitVec.toNat_shiftLeft, BitVec.toNat_ofNat, Nat.shiftLeft_eq]
    omega
  have length : Sha256.numberBytes 8 (8 * bytes.length) = _ :=
    numberBytes_eight (Nat.mod_lt (8 * bytes.length) (show 0 < 2 ^ 32 by norm_num))
      (show 8 * bytes.length = bytes.length / 2 ^ 29 * 2 ^ 32 + 8 * bytes.length % 2 ^ 32 by omega)
  rw [IncrementalSha256.finalBlocks, Sha256.padding, length, represents.absorbed.buffer]
  generalize (Sha256.absorb .initial bytes).2 = rest at restLength ⊢
  rw [← buffered] at restLength below ⊢
  generalize zeros : (119 - digest.buffered) % 64 = count
  have blockLength : (if digest.buffered < 56 then 64 else 128) =
      digest.buffered + (1 + (count + (4 + 4))) := by
    split <;> omega
  have highPlace : digest.buffered + (1 + (count + (4 + 4))) - 8 = digest.buffered + 1 + count := by
    omega
  have lowPlace : digest.buffered + (1 + (count + (4 + 4))) - 4 =
      digest.buffered + 1 + count + 4 := by omega
  simp only [blockLength, highPlace, lowPlace, setUint32, high, low]
  -- The rest, the one bit, the zeros and the two halves of the length, from the front.
  have first : setBytes (List.replicate (digest.buffered + (1 + (count + (4 + 4)))) 0) 0 rest =
      rest ++ List.replicate 1 0 ++ List.replicate (count + (4 + 4)) 0 := by
    have placed : setBytes ([] ++ List.replicate digest.buffered 0 ++
        List.replicate (1 + (count + (4 + 4))) 0) 0 rest = _ :=
      setBytes_middle rfl (by rw [List.length_replicate, restLength])
    rw [List.nil_append, List.nil_append, List.replicate_append_replicate, List.replicate_add 1,
      ← List.append_assoc] at placed
    exact placed
  have second : setBytes (rest ++ List.replicate 1 0 ++ List.replicate (count + (4 + 4)) 0)
      digest.buffered [0x80] = rest ++ [0x80] ++ List.replicate count 0 ++ List.replicate 4 0 ++
        List.replicate 4 0 := by
    have marked : setBytes (rest ++ List.replicate 1 0 ++ List.replicate (count + (4 + 4)) 0)
        digest.buffered [0x80] = rest ++ [0x80] ++ List.replicate (count + (4 + 4)) 0 :=
      setBytes_middle restLength List.length_replicate
    rw [marked, List.replicate_add count, List.replicate_add 4]
    simp only [List.append_assoc]
  have front : (rest ++ [0x80] ++ List.replicate count 0).length =
      digest.buffered + 1 + count := by
    rw [List.length_append, List.length_append, List.length_replicate, restLength,
      List.length_singleton]
  have third : setBytes (rest ++ [0x80] ++ List.replicate count 0 ++ List.replicate 4 0 ++
      List.replicate 4 0) (digest.buffered + 1 + count)
        (Sha256.numberBytes 4 (bytes.length / 2 ^ 29)) = _ :=
    setBytes_middle front (by rw [List.length_replicate, numberBytes_length])
  have fourth : setBytes (rest ++ [0x80] ++ List.replicate count 0 ++
      Sha256.numberBytes 4 (bytes.length / 2 ^ 29) ++ List.replicate 4 0 ++ [])
        (digest.buffered + 1 + count + 4)
        (Sha256.numberBytes 4 (8 * bytes.length % 2 ^ 32)) = _ :=
    setBytes_middle (by rw [List.length_append, front, numberBytes_length])
      (by rw [List.length_replicate, numberBytes_length])
  rw [List.append_nil] at fourth
  rw [first, second, third, fourth]
  simp only [List.append_assoc, List.append_nil]

theorem Represents.hash_finish (represents : Represents digest bytes)
    (supported : bytes.length < 2 ^ 53) :
    digest.finish.state = Sha256.hash bytes := by
  have blocks := represents.finalBlocks supported
  have compressed : BlocksCompressed digest digest.finalBlocks 0
      (compressBlocks digest.finalBlocks (digest.finalBlocks.length / 64 + 1) digest 0) :=
    compressBlocks_spec represents.absorbed.words (Nat.zero_le _) (by omega)
  rw [finish]
  simp only [compressed.state]
  rw [List.drop_zero, blocks, represents.absorbed.state, ← Sha256.absorb_append]
  rfl

/-! ## Hexadecimal -/

theorem padded_toDigits (count : Nat) {number : Nat} (small : number < 16 ^ (count + 1)) :
    List.replicate (count + 1 - (Nat.toDigits 16 number).length) '0' ++ Nat.toDigits 16 number =
      (List.range (count + 1)).map fun index => Sha256.hexDigit (number / 16 ^ (count - index)) := by
  induction count generalizing number with
  | zero =>
      rw [Nat.toDigits_of_lt_base (by omega)]
      simp [Sha256.hexDigit, Nat.mod_eq_of_lt (show number < 16 by omega)]
  | succ count induction =>
      have quotient : number / 16 < 16 ^ (count + 1) := by
        rw [pow_succ] at small
        omega
      have last : (List.range (count + 1 + 1)).map
          (fun index => Sha256.hexDigit (number / 16 ^ (count + 1 - index))) =
          (List.range (count + 1)).map
              (fun index => Sha256.hexDigit (number / 16 / 16 ^ (count - index))) ++
            [(number % 16).digitChar] := by
        rw [List.range_succ, List.map_append, List.map_singleton, Nat.sub_self, pow_zero,
          Nat.div_one]
        congr 1
        apply List.map_congr_left
        intro index member
        have below := List.mem_range.mp member
        have power : 16 ^ (count + 1 - index) = 16 * 16 ^ (count - index) := by
          rw [← pow_succ']
          congr 1
          omega
        rw [power, Nat.div_div_eq_div_mul]
      rw [last, ← induction quotient, Nat.toDigits_eq_if (by decide)]
      split
      · next digit =>
          have zero : number / 16 = 0 := Nat.div_eq_of_lt digit
          have same : number % 16 = number := Nat.mod_eq_of_lt digit
          rw [zero, same, Nat.toDigits_zero]
          simp only [List.length_singleton, Nat.add_sub_cancel]
          rw [List.replicate_succ', List.append_assoc]
      · rw [List.length_append, List.length_singleton, ← List.append_assoc]
        congr 3
        omega

theorem wordHex_eq (word : Word) :
    wordHex word =
      (Sha256.numberBytes 4 word.toNat).flatMap fun byte =>
        [Sha256.hexDigit (byte.toNat / 16), Sha256.hexDigit byte.toNat] := by
  have padded := padded_toDigits 7 (show word.toNat < 16 ^ 8 from word.isLt)
  rw [wordHex, padded]
  simp only [Sha256.numberBytes, List.range_succ, List.range_zero, List.nil_append,
    List.map_cons, List.map_nil, List.cons_append, List.flatMap_cons, List.flatMap_nil,
    UInt8.toNat_ofNat', Sha256.hexDigit]
  norm_num
  refine ⟨?_, ?_, ?_, ?_⟩ <;> congr 1 <;> omega

/-- The digest of all bytes so far, however often it is asked for. -/
theorem Represents.hexDigest (represents : Represents digest bytes)
    (supported : bytes.length < 2 ^ 53) :
    digest.hexDigest.1 = Sha256.hexDigest bytes ∧
      digest.hexDigest.2.hexDigest = digest.hexDigest := by
  have accepting : ¬digest.finished = true := by
    rw [represents.finished]
    exact Bool.false_ne_true
  have closed : digest.finish.finished = true := rfl
  have hashed := represents.hash_finish supported
  simp only [IncrementalSha256.hexDigest, if_neg accepting, if_pos closed, and_true]
  rw [hashed, Sha256.hexDigest, Sha256.hex, funext wordHex_eq]

/-- Calls of any sizes absorb what they were given together. -/
theorem Represents.updates (chunks : List (List UInt8)) {digest : IncrementalSha256}
    {bytes : List UInt8} (represents : Represents digest bytes)
    (supported : bytes.length + chunks.flatten.length < 2 ^ 53) :
    ∃ after, chunks.foldlM IncrementalSha256.update digest = .ok after ∧
      Represents after (bytes ++ chunks.flatten) := by
  induction chunks generalizing digest bytes with
  | nil =>
      rw [List.flatten_nil, List.append_nil]
      exact ⟨digest, rfl, represents⟩
  | cons data chunks induction =>
      rw [List.flatten_cons, List.length_append] at supported
      have within : bytes.length + data.length < 2 ^ 53 := by omega
      rcases represents.update within with ⟨between, updated, next⟩
      rcases induction next (by rw [List.length_append]; omega) with ⟨after, rest, last⟩
      rw [List.append_assoc, ← List.flatten_cons] at last
      apply Exists.intro after
      rw [List.foldlM_cons, updated]
      exact ⟨rest, last⟩

end

end IncrementalSha256

/-! ## Blobs in chunks -/

/-- The next offset, which is behind the blob where its sum is rounded. -/
theorem chunk_end {chunkBytes : Int} {size : Nat} (offset : Nat) (least : 64 ≤ chunkBytes)
    (most : chunkBytes ≤ JsNumber.maxSafeInteger) (supported : size < 2 ^ 53) :
    ∃ length : Nat, JsNumber.add offset chunkBytes = (offset + length : Nat) ∧
      (64 ≤ length ∨ size ≤ offset + length) := by
  rw [JsNumber.maxSafeInteger] at most
  apply Exists.intro (JsNumber.add offset chunkBytes - offset).toNat
  rw [JsNumber.add, JsNumber.nearest]
  split
  · omega
  · split
    · omega
    · split <;> omega

open IncrementalSha256 in
/-- The loop reads a blob to its end, if nothing stops it. -/
theorem hashChunks_represents {environment : HashingEnvironment} {blob : List UInt8}
    {chunkBytes : Int} (least : 64 ≤ chunkBytes) (most : chunkBytes ≤ JsNumber.maxSafeInteger)
    (undisturbed : ∀ asked, environment.readError asked = none ∧ environment.aborted asked = false)
    (supported : blob.length < 2 ^ 53) (fuel asked : Nat) {offset : Nat}
    {digest : IncrementalSha256} (enough : blob.length ≤ offset + 64 * fuel)
    (represents : Represents digest (blob.take offset)) :
    ∃ after count, hashChunks environment blob chunkBytes fuel asked offset digest =
        .ok (after, count) ∧
      Represents after blob := by
  induction fuel generalizing asked offset digest with
  | zero =>
      rw [List.take_of_length_le (by omega)] at represents
      exact ⟨digest, asked, rfl, represents⟩
  | succ fuel induction =>
      rw [hashChunks]
      split
      · next inside =>
          have running : ¬environment.aborted asked = true := by
            rw [(undisturbed asked).2]
            exact Bool.false_ne_true
          rw [if_neg running, (undisturbed asked).1]
          simp only
          rcases chunk_end offset least most supported with ⟨length, next, wide⟩
          have stop : min (blob.length : Int) ((offset + length : Nat) : Int) =
              (min blob.length (offset + length) : Nat) := by omega
          rw [next, stop, Int.toNat_natCast, Int.toNat_natCast, Nat.min_comm,
            ← List.take_eq_take_min]
          have data : blob.take offset ++ (blob.take (offset + length)).drop offset =
              blob.take (offset + length) := by
            rw [List.drop_take, Nat.add_sub_cancel_left, List.take_add]
          have within : (blob.take offset).length +
              ((blob.take (offset + length)).drop offset).length < 2 ^ 53 := by
            rw [← List.length_append, data, List.length_take]
            omega
          rcases represents.update within with ⟨after, updated, following⟩
          rw [updated]
          rw [data] at following
          exact induction (asked + 1) (by omega) following
      · next outside =>
          rw [List.take_of_length_le (by omega)] at represents
          exact ⟨digest, asked, rfl, represents⟩

theorem acceptedChunkBytes_bounds {number : Option JsNumber.Number} {chunkBytes : Int}
    (accepted : acceptedChunkBytes number = some chunkBytes) :
    64 ≤ chunkBytes ∧ chunkBytes ≤ JsNumber.maxSafeInteger := by
  cases number with
  | none =>
      cases accepted
      decide
  | some number =>
      rw [acceptedChunkBytes] at accepted
      cases safe : number.safeInteger with
      | none =>
          rw [safe] at accepted
          cases accepted
      | some integer =>
          rw [safe] at accepted
          simp only at accepted
          split at accepted
          · cases accepted
          · next large =>
              cases accepted
              exact ⟨by omega, JsNumber.Number.safeInteger_le safe⟩

/-- Every way of giving a message to the digest, and every accepted chunk size of a blob, give the
digest of the standard. -/
theorem browserSha256_exact (bytes : List UInt8) (supported : bytes.length < 2 ^ 53) :
    (∀ chunks : List (List UInt8), chunks.flatten = bytes →
      ∃ digest, chunks.foldlM IncrementalSha256.update .start = .ok digest ∧
        digest.hexDigest.1 = Sha256.hexDigest bytes ∧
        digest.hexDigest.2.hexDigest = digest.hexDigest) ∧
    ∀ (environment : HashingEnvironment) (number : Option JsNumber.Number) (chunkBytes : Int),
      acceptedChunkBytes number = some chunkBytes →
      (∀ asked, environment.readError asked = none ∧ environment.aborted asked = false) →
      sha256Blob environment bytes number = .ok (Sha256.hexDigest bytes) := by
  constructor
  · intro chunks flatten
    have within : ([] : List UInt8).length + chunks.flatten.length < 2 ^ 53 := by
      rw [flatten, List.length_nil, Nat.zero_add]
      exact supported
    rcases IncrementalSha256.start_represents.updates chunks within with
      ⟨digest, updated, represents⟩
    rw [flatten, List.nil_append] at represents
    exact ⟨digest, updated, represents.hexDigest supported⟩
  · intro environment number chunkBytes accepted undisturbed
    rcases acceptedChunkBytes_bounds accepted with ⟨least, most⟩
    have started : IncrementalSha256.Represents .start (bytes.take 0) :=
      IncrementalSha256.start_represents
    rcases hashChunks_represents least most undisturbed supported (bytes.length / 64 + 1) 0
      (by omega) started with ⟨digest, asked, hashed, represents⟩
    have running : ¬environment.aborted asked = true := by
      rw [(undisturbed asked).2]
      exact Bool.false_ne_true
    rw [Int.ofNat_zero] at hashed
    rw [sha256Blob, accepted]
    simp only
    rw [hashed]
    simp only
    rw [if_neg running, (represents.hexDigest supported).1]

theorem hexDigest_abc : Sha256.hexDigest [97, 98, 99] =
    "ba7816bf8f01cfea414140de5dae2223b00361a396177a9cb410ff61f20015ad" := by decide +kernel

theorem browserSha256_exact_abc :
    (∃ digest, [[97], [], [98, 99]].foldlM IncrementalSha256.update .start = .ok digest ∧
      digest.hexDigest.1 = "ba7816bf8f01cfea414140de5dae2223b00361a396177a9cb410ff61f20015ad") ∧
    sha256Blob ⟨fun _ => false, fun _ => none⟩ [97, 98, 99] (some (.finite 64)) =
      .ok "ba7816bf8f01cfea414140de5dae2223b00361a396177a9cb410ff61f20015ad" := by
  rcases browserSha256_exact [97, 98, 99] (by decide) with ⟨updates, blobs⟩
  rcases updates [[97], [], [98, 99]] rfl with ⟨digest, updated, hashed, -⟩
  rw [← hexDigest_abc]
  exact ⟨⟨digest, updated, hashed⟩,
    blobs _ _ 64 (by decide) fun _ => ⟨rfl, rfl⟩⟩

end RvcOrchestrator.Web

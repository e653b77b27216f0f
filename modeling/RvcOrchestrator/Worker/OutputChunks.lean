import RvcOrchestrator.Worker.OutputCollector

/-! # Chunks of output

What the collector makes of a stream depends on its chunks only where a chunk ends within a line
of which more bytes than the limit have arrived.
-/

namespace RvcOrchestrator.Worker

open RvcOrchestrator.Foundation

/-! ## The lines that are fed -/

def streamValues (stream : List UInt8) : List (List UInt8) :=
  (cutLines lineFeed stream).1.map stripReturns ++
    if (cutLines lineFeed stream).2 = [] then [] else [(cutLines lineFeed stream).2]

def fedValues : List UInt8 → List (List UInt8) → List (List UInt8)
  | buffer, [] => if buffer = [] then [] else [buffer]
  | buffer, chunk :: chunks =>
      (cutLines lineFeed (buffer ++ chunk)).1.map stripReturns ++
        if maxMetricLineBytes < (cutLines lineFeed (buffer ++ chunk)).2.length then
          (cutLines lineFeed (buffer ++ chunk)).2 :: fedValues [] chunks
        else fedValues (cutLines lineFeed (buffer ++ chunk)).2 chunks

/-- No chunk ends within a line of which more bytes than the limit have arrived. -/
def Unbroken (buffer : List UInt8) (chunks : List (List UInt8)) : Prop :=
  ∀ before after, chunks = before ++ after →
    (cutLines lineFeed (buffer ++ before.flatten)).2.length ≤ maxMetricLineBytes

theorem named_name (channel : OutputChannel) :
    OutputChannel.named channel.name = some channel := by
  cases channel <;> decide

namespace Collection

variable {limits : CollectorLimits} {channel : OutputChannel}

theorem feedLines_append (collection : Collection) (left right : List (List UInt8)) :
    collection.feedLines limits channel (left ++ right) =
      match collection.feedLines limits channel left with
      | (collection, some error) => (collection, some error)
      | (collection, none) => collection.feedLines limits channel right := by
  induction left generalizing collection with
  | nil => rfl
  | cons value left induction =>
      rw [List.cons_append, feedLines, feedLines]
      rcases collection.feedLine limits channel value with ⟨after, _ | error⟩
      · exact induction after
      · rfl

end Collection

namespace StreamingMetricCollector

variable {limits : CollectorLimits} {channel : OutputChannel} {collector : StreamingMetricCollector}

def collected (result : StreamingMetricCollector × Option CollectorError) :
    Collection × Option CollectorError :=
  (result.1.collection, result.2)

theorem finishChannel_eq :
    collected (collector.finishChannel limits channel) =
      collector.collection.feedLines limits channel (fedValues (collector.buffers channel) []) := by
  unfold finishChannel fedValues
  split
  · rfl
  · rw [Collection.feedLines]
    rcases collector.collection.feedLine limits channel (collector.buffers channel) with
      ⟨after, _ | error⟩
    · rfl
    · rfl

theorem finishChannel_idle (idle : collector.buffers channel = []) :
    collector.finishChannel limits channel = (collector, none) := if_pos idle

theorem finishChannel_other {other : OutputChannel} (differs : other ≠ channel) :
    (collector.finishChannel limits channel).1.buffers other = collector.buffers other := by
  unfold finishChannel
  split
  · rfl
  · rcases collector.collection.feedLine limits channel (collector.buffers channel) with
      ⟨after, _ | error⟩
    · exact Function.update_of_ne differs _ _
    · rfl

/-- At the end only the channel with an unfinished line brings a line. -/
theorem finish_eq (alone : ∀ other ≠ channel, collector.buffers other = []) :
    collected (collector.finish limits) =
      collector.collection.feedLines limits channel (fedValues (collector.buffers channel) []) := by
  cases channel with
  | stdout =>
      have idle : (collector.finishChannel limits .stdout).1.buffers .stderr = [] := by
        rw [finishChannel_other (by decide)]
        exact alone .stderr (by decide)
      rw [← finishChannel_eq, finish]
      generalize collector.finishChannel limits .stdout = finished at idle ⊢
      rcases finished with ⟨after, _ | error⟩
      · exact congrArg collected (finishChannel_idle idle)
      · rfl
  | stderr =>
      rw [finish, finishChannel_idle (alone .stdout (by decide))]
      exact finishChannel_eq

theorem collect_eq (alone : ∀ other ≠ channel, collector.buffers other = [])
    (chunks : List (List UInt8)) :
    collected (collect limits channel.name collector chunks) =
      collector.collection.feedLines limits channel
        (fedValues (collector.buffers channel) chunks) := by
  induction chunks generalizing collector with
  | nil => exact finish_eq alone
  | cons chunk chunks induction =>
      have others (rest : List UInt8) (other : OutputChannel) (differs : other ≠ channel) :
          Function.update collector.buffers channel rest other = [] := by
        rw [Function.update_of_ne differs]
        exact alone other differs
      rw [collect, feed, named_name, fedValues, Collection.feedLines_append]
      dsimp only
      generalize cutLines lineFeed (collector.buffers channel ++ chunk) = cut
      rcases collector.collection.feedLines limits channel (cut.1.map stripReturns) with
        ⟨after, _ | error⟩
      · by_cases long : maxMetricLineBytes < cut.2.length
        · simp only [long, if_true, Collection.feedLines, Function.update_idem]
          rcases after.feedLine limits channel cut.2 with ⟨later, _ | error⟩
          · have rest := @induction ⟨Function.update collector.buffers channel [], later⟩ (others [])
            dsimp only at rest
            rw [Function.update_self] at rest
            exact rest
          · rfl
        · simp only [long, if_false]
          have rest := @induction ⟨Function.update collector.buffers channel cut.2, after⟩
            (others cut.2)
          dsimp only at rest
          rw [Function.update_self] at rest
          exact rest
      · rfl

end StreamingMetricCollector

/-! ## Breaking lines -/

theorem streamValues_line {line : List UInt8} (plain : lineFeed ∉ line) (rest : List UInt8) :
    streamValues (line ++ lineFeed :: rest) = stripReturns line :: streamValues rest := by
  rw [streamValues, cutLines_line plain]
  rfl

theorem streamValues_unfinished {stream : List UInt8} (plain : lineFeed ∉ stream) :
    streamValues stream = if stream = [] then [] else [stream] := by
  rw [streamValues, cutLines_unfinished plain]
  rfl

theorem streamValues_append (left right : List UInt8) :
    streamValues (left ++ right) =
      (cutLines lineFeed left).1.map stripReturns ++
        streamValues ((cutLines lineFeed left).2 ++ right) := by
  rw [streamValues, cutLines_append, List.map_append, List.append_assoc]
  rfl

theorem unfinished_cons (buffer chunk : List UInt8) (chunks : List (List UInt8)) :
    (cutLines lineFeed (buffer ++ (chunk :: chunks).flatten)).2 =
      (cutLines lineFeed ((cutLines lineFeed (buffer ++ chunk)).2 ++ chunks.flatten)).2 := by
  rw [List.flatten_cons, ← List.append_assoc, cutLines_append]

theorem unbroken_cons {buffer chunk : List UInt8} {chunks : List (List UInt8)} :
    Unbroken buffer (chunk :: chunks) ↔
      (cutLines lineFeed buffer).2.length ≤ maxMetricLineBytes ∧
        Unbroken (cutLines lineFeed (buffer ++ chunk)).2 chunks := by
  constructor
  · intro unbroken
    constructor
    · have short := unbroken [] _ rfl
      rwa [List.flatten_nil, List.append_nil] at short
    · rintro before after rfl
      rw [← unfinished_cons]
      exact unbroken (chunk :: before) after rfl
  · rintro ⟨short, unbroken⟩ before after split
    cases before with
    | nil => rwa [List.flatten_nil, List.append_nil]
    | cons first before =>
        rw [List.cons_append, List.cons.injEq] at split
        rcases split with ⟨rfl, rfl⟩
        rw [unfinished_cons]
        exact unbroken before after rfl

theorem fedValues_unbroken {buffer : List UInt8} {chunks : List (List UInt8)}
    (plain : lineFeed ∉ buffer) (unbroken : Unbroken buffer chunks) :
    fedValues buffer chunks = streamValues (buffer ++ chunks.flatten) := by
  induction chunks generalizing buffer with
  | nil =>
      rw [List.flatten_nil, List.append_nil, streamValues_unfinished plain]
      rfl
  | cons chunk chunks induction =>
      have rest := (unbroken_cons.mp unbroken).2
      have short : (cutLines lineFeed (buffer ++ chunk)).2.length ≤ maxMetricLineBytes := by
        have here := unbroken [chunk] chunks rfl
        rwa [List.flatten_singleton] at here
      rw [fedValues, if_neg (Nat.not_lt.mpr short), induction (not_mem_unfinished _) rest,
        List.flatten_cons, ← List.append_assoc, ← streamValues_append, List.append_assoc]

/-- The stream in one chunk. -/
theorem fedValues_single (stream : List UInt8) : fedValues [] [stream] = streamValues stream := by
  rw [fedValues, streamValues, List.nil_append]
  congr 1
  split
  · next long =>
      rw [if_neg (by rintro empty; rw [empty] at long; cases long)]
      rfl
  · rfl

/-- The first chunk that ends within a line of which more bytes than the limit have arrived is the
last one before some others. -/
structure Breaks (buffer : List UInt8) (chunks before after : List (List UInt8)) : Prop where
  split : chunks = before ++ after
  long : maxMetricLineBytes < (cutLines lineFeed (buffer ++ before.flatten)).2.length
  first : ∀ earlier later, before = earlier ++ later → later ≠ [] →
    (cutLines lineFeed (buffer ++ earlier.flatten)).2.length ≤ maxMetricLineBytes

variable {buffer chunk : List UInt8} {chunks before after : List (List UInt8)}

theorem breaks_here (short : (cutLines lineFeed buffer).2.length ≤ maxMetricLineBytes)
    (long : maxMetricLineBytes < (cutLines lineFeed (buffer ++ chunk)).2.length) :
    Breaks buffer (chunk :: chunks) [chunk] chunks where
  split := rfl
  long := by rwa [List.flatten_singleton]
  first := by
    intro earlier later split some_
    cases earlier with
    | nil => rwa [List.flatten_nil, List.append_nil]
    | cons first earlier =>
        rw [List.cons_append, List.cons.injEq] at split
        exact absurd (List.append_eq_nil_iff.mp split.2.symm).2 some_

theorem Breaks.later (short : (cutLines lineFeed buffer).2.length ≤ maxMetricLineBytes)
    (breaks : Breaks (cutLines lineFeed (buffer ++ chunk)).2 chunks before after) :
    Breaks buffer (chunk :: chunks) (chunk :: before) after where
  split := by rw [breaks.split, List.cons_append]
  long := by
    rw [unfinished_cons]
    exact breaks.long
  first := by
    intro earlier later split some_
    cases earlier with
    | nil => rwa [List.flatten_nil, List.append_nil]
    | cons first earlier =>
        rw [List.cons_append, List.cons.injEq] at split
        rcases split with ⟨rfl, rfl⟩
        rw [unfinished_cons]
        exact breaks.first earlier later rfl some_

theorem unbroken_or_breaks (short : (cutLines lineFeed buffer).2.length ≤ maxMetricLineBytes)
    (chunks : List (List UInt8)) :
    Unbroken buffer chunks ∨ ∃ before after, Breaks buffer chunks before after := by
  induction chunks generalizing buffer with
  | nil =>
      left
      intro before after split
      rw [(List.append_eq_nil_iff.mp split.symm).1, List.flatten_nil, List.append_nil]
      exact short
  | cons chunk chunks induction =>
      rcases Nat.lt_or_ge maxMetricLineBytes (cutLines lineFeed (buffer ++ chunk)).2.length with
        long | here
      · exact .inr ⟨_, _, breaks_here short long⟩
      · have again : (cutLines lineFeed (cutLines lineFeed (buffer ++ chunk)).2).2.length ≤
            maxMetricLineBytes := by
          rwa [cutLines_unfinished (not_mem_unfinished _)]
        rcases induction again with unbroken | ⟨before, after, breaks⟩
        · exact .inl (unbroken_cons.mpr ⟨short, unbroken⟩)
        · exact .inr ⟨_, _, breaks.later short⟩

theorem Breaks.shorter (breaks : Breaks buffer chunks before after)
    (short : (cutLines lineFeed buffer).2.length ≤ maxMetricLineBytes) :
    after.length < chunks.length := by
  have some_ : before ≠ [] := by
    rintro rfl
    have long := breaks.long
    rw [List.flatten_nil, List.append_nil] at long
    exact absurd short (Nat.not_le.mpr long)
  rw [breaks.split, List.length_append]
  exact Nat.lt_add_of_pos_left (List.length_pos_iff.mpr some_)

theorem Breaks.part_ne_nil (breaks : Breaks buffer chunks before after) :
    (cutLines lineFeed (buffer ++ before.flatten)).2 ≠ [] := by
  intro empty
  have long := breaks.long
  rw [empty] at long
  cases long

/-- At the first break the unfinished line is fed, and the rest is read as another stream. -/
theorem Breaks.fedValues_eq (breaks : Breaks buffer chunks before after)
    (short : buffer.length ≤ maxMetricLineBytes) (plain : lineFeed ∉ buffer) :
    fedValues buffer chunks =
      (cutLines lineFeed (buffer ++ before.flatten)).1.map stripReturns ++
        (cutLines lineFeed (buffer ++ before.flatten)).2 :: fedValues [] after := by
  induction before generalizing buffer chunks with
  | nil =>
      have long := breaks.long
      rw [List.flatten_nil, List.append_nil, cutLines_unfinished plain] at long
      exact absurd short (Nat.not_le.mpr long)
  | cons chunk before induction =>
      rw [breaks.split, List.cons_append, fedValues]
      rcases eq_or_ne before [] with rfl | nonempty
      · have long := breaks.long
        rw [List.flatten_singleton] at long ⊢
        rw [if_pos long]
        rfl
      · have here := breaks.first [chunk] before rfl nonempty
        rw [List.flatten_singleton] at here
        have rest : Breaks (cutLines lineFeed (buffer ++ chunk)).2 (before ++ after) before after :=
          { split := rfl
            long := by
              rw [← unfinished_cons]
              exact breaks.long
            first := by
              intro earlier later split nonempty
              rw [← unfinished_cons]
              exact breaks.first (chunk :: earlier) later (by rw [split]; rfl) nonempty }
        rw [if_neg (Nat.not_lt.mpr here), induction rest here (not_mem_unfinished _),
          ← List.append_assoc, ← unfinished_cons, List.flatten_cons, ← List.append_assoc,
          cutLines_append (buffer ++ chunk), List.map_append]

/-! ## Lines that are heard of -/

def loud (values : List (List UInt8)) : List (List UInt8) := values.filter fun value => value ≠ []

theorem loud_cons (value : List UInt8) (values : List (List UInt8)) :
    (loud (value :: values)).length = (if value = [] then 0 else 1) + (loud values).length := by
  unfold loud
  by_cases empty : value = []
  · simp [empty]
  · simp [empty, Nat.add_comm]

theorem loud_append (left right : List (List UInt8)) :
    (loud (left ++ right)).length = (loud left).length + (loud right).length := by
  rw [loud, List.filter_append, List.length_append]
  rfl

theorem loud_eq_zero_iff {values : List (List UInt8)} :
    (loud values).length = 0 ↔ ∀ value ∈ values, value = [] := by
  simp [loud]

/-- The line that is broken is one line of the stream, with what follows it. -/
theorem Breaks.stream (breaks : Breaks buffer chunks before after) :
    ∃ line lines, streamValues (buffer ++ chunks.flatten) =
        (cutLines lineFeed (buffer ++ before.flatten)).1.map stripReturns ++ line :: lines ∧
      ((lineFeed ∉ after.flatten ∧ lines = [] ∧
          line = (cutLines lineFeed (buffer ++ before.flatten)).2 ++ after.flatten) ∨
        ∃ end_ rest, after.flatten = end_ ++ lineFeed :: rest ∧ lineFeed ∉ end_ ∧
          line = stripReturns ((cutLines lineFeed (buffer ++ before.flatten)).2 ++ end_) ∧
          lines = streamValues rest) := by
  have whole : buffer ++ chunks.flatten = (buffer ++ before.flatten) ++ after.flatten := by
    rw [breaks.split, List.flatten_append, List.append_assoc]
  have long := breaks.long
  have plain := @not_mem_unfinished _ _ lineFeed (buffer ++ before.flatten)
  rw [whole, streamValues_append]
  generalize (cutLines lineFeed (buffer ++ before.flatten)).2 = part at long plain ⊢
  rcases unfinished_or_line lineFeed after.flatten with absent | ⟨end_, rest, split, absent⟩
  · refine ⟨part ++ after.flatten, [], ?_, .inl ⟨absent, rfl, rfl⟩⟩
    rw [streamValues_unfinished (by simp [plain, absent]), if_neg]
    intro empty
    rw [(List.append_eq_nil_iff.mp empty).1] at long
    cases long
  · refine ⟨_, _, ?_, .inr ⟨end_, rest, split, absent, rfl, rfl⟩⟩
    rw [split, ← List.append_assoc, streamValues_line (by simp [plain, absent])]

/-- What the stream brings after the broken line it also brings when it is read by itself. -/
theorem loud_after {line : List UInt8} {lines : List (List UInt8)} {part stream : List UInt8}
    (parts : (lineFeed ∉ stream ∧ lines = [] ∧ line = part ++ stream) ∨
      ∃ end_ rest, stream = end_ ++ lineFeed :: rest ∧ lineFeed ∉ end_ ∧
        line = stripReturns (part ++ end_) ∧ lines = streamValues rest) :
    (loud lines).length ≤ (loud (streamValues stream)).length := by
  rcases parts with ⟨-, rfl, -⟩ | ⟨end_, rest, rfl, absent, -, rfl⟩
  · exact Nat.zero_le _
  · rw [streamValues_line absent, loud_cons]
    exact Nat.le_add_left _ _

/-- Breaking lines makes no line unheard. -/
theorem loud_streamValues_le (plain : lineFeed ∉ buffer)
    (short : buffer.length ≤ maxMetricLineBytes) :
    (loud (streamValues (buffer ++ chunks.flatten))).length ≤
      (loud (fedValues buffer chunks)).length := by
  induction length : chunks.length using Nat.strongRecOn generalizing buffer chunks with
  | _ size induction =>
      have alone : (cutLines lineFeed buffer).2.length ≤ maxMetricLineBytes := by
        rwa [cutLines_unfinished plain]
      rcases unbroken_or_breaks alone chunks with unbroken | ⟨before, after, breaks⟩
      · rw [fedValues_unbroken plain unbroken]
      · rcases breaks.stream with ⟨line, lines, stream, parts⟩
        have rest : (loud (streamValues ([] ++ after.flatten))).length ≤
            (loud (fedValues [] after)).length :=
          induction after.length (by rw [← length]; exact breaks.shorter alone)
            List.not_mem_nil (Nat.zero_le _) rfl
        have more := loud_after parts
        rw [stream, breaks.fedValues_eq short plain, loud_append, loud_append, loud_cons, loud_cons,
          if_neg breaks.part_ne_nil]
        rw [List.nil_append] at rest
        split <;> omega

/-- Where no line is unheard, the first one that is heard stays at its place. -/
theorem firstLoud_eq (plain : lineFeed ∉ buffer) (short : buffer.length ≤ maxMetricLineBytes)
    (equal : (loud (fedValues buffer chunks)).length =
      (loud (streamValues (buffer ++ chunks.flatten))).length) :
    (fedValues buffer chunks).findIdx (fun value => value ≠ []) =
      (streamValues (buffer ++ chunks.flatten)).findIdx fun value => value ≠ [] := by
  have alone : (cutLines lineFeed buffer).2.length ≤ maxMetricLineBytes := by
    rwa [cutLines_unfinished plain]
  rcases unbroken_or_breaks alone chunks with unbroken | ⟨before, after, breaks⟩
  · rw [fedValues_unbroken plain unbroken]
  · rcases breaks.stream with ⟨line, lines, stream, parts⟩
    have rest : (loud (streamValues ([] ++ after.flatten))).length ≤
        (loud (fedValues [] after)).length :=
      loud_streamValues_le List.not_mem_nil (Nat.zero_le _)
    have more := loud_after parts
    rw [stream, breaks.fedValues_eq short plain, loud_append, loud_append, loud_cons, loud_cons,
      if_neg breaks.part_ne_nil] at equal
    rw [List.nil_append] at rest
    have some_ : line ≠ [] := by
      rintro rfl
      rw [if_pos rfl] at equal
      omega
    rw [stream, breaks.fedValues_eq short plain, List.findIdx_append, List.findIdx_append,
      List.findIdx_cons, List.findIdx_cons]
    simp [some_, breaks.part_ne_nil]

/-! ## Keys of events -/

def keysFrom (channel : OutputChannel) : Nat → List (List UInt8) → List String
  | _, [] => []
  | index, value :: values =>
      (if value = [] then [] else [outputKey channel index value]) ++
        keysFrom channel (index + 1) values

theorem keysFrom_append (channel : OutputChannel) (index : Nat) (left right : List (List UInt8)) :
    keysFrom channel index (left ++ right) =
      keysFrom channel index left ++ keysFrom channel (index + left.length) right := by
  induction left generalizing index with
  | nil => rfl
  | cons value left induction =>
      rw [List.cons_append, keysFrom, induction, keysFrom, List.append_assoc, List.length_cons,
        Nat.add_assoc, Nat.add_comm 1]

theorem length_keysFrom (channel : OutputChannel) (index : Nat) (values : List (List UInt8)) :
    (keysFrom channel index values).length = (loud values).length := by
  induction values generalizing index with
  | nil => rfl
  | cons value values induction =>
      rw [keysFrom, List.length_append, induction, loud_cons]
      split <;> rfl

/-- The first key is the one of the first value that is heard of. -/
theorem head_keysFrom (channel : OutputChannel) (index : Nat) {values : List (List UInt8)}
    (some_ : (loud values).length ≠ 0) :
    ∃ value, (keysFrom channel index values).head? =
      some (outputKey channel (index + values.findIdx fun value => value ≠ []) value) := by
  induction values generalizing index with
  | nil => exact absurd rfl some_
  | cons value values induction =>
      rw [loud_cons] at some_
      rw [keysFrom, List.findIdx_cons]
      by_cases empty : value = []
      · rw [if_pos empty] at some_ ⊢
        rcases induction (index + 1) (by omega) with ⟨first, head⟩
        refine ⟨first, ?_⟩
        rw [List.nil_append, head]
        simp [empty, Nat.add_assoc, Nat.add_comm 1]
      · exact ⟨value, by simp [empty]⟩

/-- Texts that a mark ends are determined by the text with anything behind it. -/
theorem append_mark_inj {left right leftRest rightRest : List Char} {mark : Char}
    (plainLeft : mark ∉ left) (plainRight : mark ∉ right)
    (same : left ++ mark :: leftRest = right ++ mark :: rightRest) :
    left = right ∧ leftRest = rightRest := by
  have cut := congrArg (cutLines mark) same
  rw [cutLines_line plainLeft, cutLines_line plainRight] at cut
  have first : left = right := (List.cons.inj (Prod.mk.inj cut).1).1
  subst first
  exact ⟨rfl, (List.cons.inj (List.append_cancel_left same)).2⟩

theorem colon_not_mem_digits (number : Nat) : ':' ∉ Nat.toDigits 10 number := by
  intro member
  have digit := Nat.isDigit_of_mem_toDigits (by decide) (by decide) member
  revert digit
  decide

def keyEnd (value : List UInt8) : List Char :=
  if maxMetricLineBytes < value.length then
    "oversized:".toList ++ (Sha256.hexDigest value).toList
  else (Sha256.hexDigest value).toList

theorem toList_outputKey (channel : OutputChannel) (index : Nat) (value : List UInt8) :
    (outputKey channel index value).toList =
      channel.name.toList ++ ':' :: (Nat.toDigits 10 index ++ ':' :: keyEnd value) := by
  unfold outputKey keyEnd
  split
  · simp
  · simp

theorem keyEnd_inj {left right : List UInt8} (same : keyEnd left = keyEnd right) :
    (maxMetricLineBytes < left.length ↔ maxMetricLineBytes < right.length) ∧
      Sha256.hexDigest left = Sha256.hexDigest right := by
  have length (value : List UInt8) : (Sha256.hexDigest value).toList.length = 64 := by
    rw [String.length_toList]
    exact Sha256.hex_length _
  have lengths := congrArg List.length same
  unfold keyEnd at same lengths
  by_cases longLeft : maxMetricLineBytes < left.length
  · by_cases longRight : maxMetricLineBytes < right.length
    · rw [if_pos longLeft, if_pos longRight] at same
      exact ⟨iff_of_true longLeft longRight, String.toList_injective (List.append_cancel_left same)⟩
    · rw [if_pos longLeft, if_neg longRight, List.length_append, length, length] at lengths
      exact absurd lengths (by decide)
  · by_cases longRight : maxMetricLineBytes < right.length
    · rw [if_neg longLeft, if_pos longRight, List.length_append, length, length] at lengths
      exact absurd lengths (by decide)
    · rw [if_neg longLeft, if_neg longRight] at same
      exact ⟨iff_of_false longLeft longRight, String.toList_injective same⟩

theorem outputKey_inj {channel : OutputChannel} {left right : Nat}
    {leftValue rightValue : List UInt8}
    (same : outputKey channel left leftValue = outputKey channel right rightValue) :
    left = right ∧
      (maxMetricLineBytes < leftValue.length ↔ maxMetricLineBytes < rightValue.length) ∧
      Sha256.hexDigest leftValue = Sha256.hexDigest rightValue := by
  have texts := congrArg String.toList same
  rw [toList_outputKey, toList_outputKey] at texts
  have numbers := (List.cons.inj (List.append_cancel_left texts)).2
  rcases append_mark_inj (colon_not_mem_digits left) (colon_not_mem_digits right) numbers with
    ⟨digits, ends⟩
  refine ⟨?_, keyEnd_inj ends⟩
  have values := congrArg (fun text => Nat.ofDigitChars 10 text 0) digits
  simpa only [Nat.ofDigitChars_ten_toDigits] using values

/-! ## Events of lines -/

namespace Collection

variable {limits : CollectorLimits} {channel : OutputChannel}

/-- Accepting metrics changes nothing but them and the dropped records. -/
theorem accept_keeps (collection : Collection) (parsed : List ParsedTrainingMetric) :
    (collection.accept limits parsed).1.recorded = collection.recorded ∧
      (collection.accept limits parsed).1.lineIndexes = collection.lineIndexes := by
  induction parsed generalizing collection with
  | nil => exact ⟨rfl, rfl⟩
  | cons metric parsed induction =>
      rw [accept]
      split
      · exact induction _
      · exact induction _

theorem decodeLine_eq_nil_iff {value : List UInt8} : decodeLine value = [] ↔ value = [] :=
  Utf8.decode_eq_nil_iff

/-- A value that is fed without an error takes one line and brings an event unless it is empty. -/
theorem feedLine_event {collection after : Collection} (sink : limits.telemetrySink = true)
    {value : List UInt8} (fed : collection.feedLine limits channel value = (after, none)) :
    after.recorded.map TrainingEvent.eventKey = collection.recorded.map TrainingEvent.eventKey ++
        (if value = [] then [] else [outputKey channel (collection.lineIndexes channel) value]) ∧
      after.lineIndexes channel = collection.lineIndexes channel + 1 := by
  unfold feedLine at fed
  dsimp only at fed
  split at fed
  · next long =>
      cases fed
      have some_ : value ≠ [] := by
        rintro rfl
        cases long
      simp [record, sink, nextLine, some_]
  · split at fed
    · cases fed
    · next parsed read =>
        generalize (if channel = .stdout then collection.parser.feed (decodeLine value)
          else (collection.parser, .ok [])).1 = parser at fed
        rcases @accept_keeps limits { collection with parser := parser } parsed with
          ⟨recorded, indexes⟩
        generalize accept { collection with parser := parser } limits parsed = accepted
          at fed recorded indexes
        dsimp only at recorded indexes
        by_cases empty : value = []
        · rw [if_pos (decodeLine_eq_nil_iff.mpr empty)] at fed
          cases fed
          simp [nextLine, recorded, indexes, empty]
        · rw [if_neg (mt decodeLine_eq_nil_iff.mp empty)] at fed
          cases fed
          simp [record, sink, nextLine, recorded, indexes, empty]

theorem feedLines_events {collection after : Collection} (sink : limits.telemetrySink = true)
    {values : List (List UInt8)}
    (fed : collection.feedLines limits channel values = (after, none)) :
    after.recorded.map TrainingEvent.eventKey = collection.recorded.map TrainingEvent.eventKey ++
      keysFrom channel (collection.lineIndexes channel) values := by
  induction values generalizing collection with
  | nil =>
      cases fed
      rw [keysFrom, List.append_nil]
  | cons value values induction =>
      rw [feedLines] at fed
      rcases one : collection.feedLine limits channel value with ⟨middle, _ | error⟩
      · rw [one] at fed
        rcases feedLine_event sink one with ⟨recorded, index⟩
        rw [induction fed, recorded, index, keysFrom, List.append_assoc]
      · rw [one] at fed
        cases fed

end Collection

/-! ## When chunks do not matter -/

def outcome (result : Collection × Option CollectorError) :
    List ParsedTrainingMetric × Nat × List TrainingEvent × Option CollectorError :=
  (result.1.metrics, result.1.droppedRecords, result.1.recorded, result.2)

/-- The chunks give the same as the whole stream in one chunk. -/
def ChunkIndependent (limits : CollectorLimits) (channel : OutputChannel)
    (chunks : List (List UInt8)) : Prop :=
  outcome (StreamingMetricCollector.collected
      (StreamingMetricCollector.collect limits channel.name .initial chunks)) =
    outcome (StreamingMetricCollector.collected
      (StreamingMetricCollector.collect limits channel.name .initial [chunks.flatten]))

def Silent (stream : List UInt8) : Prop := ∀ value ∈ streamValues stream, value = []

/-- The first line that is broken is known by its hash before the break, and only empty lines
follow it. -/
def BreaksHarmlessly (chunks : List (List UInt8)) : Prop :=
  ∃ before after, Breaks [] chunks before after ∧ Unbroken [] after ∧ Silent after.flatten ∧
    (after.flatten = [] ∨
      maxMetricLineBytes < (stripReturns (cutLines lineFeed before.flatten).2).length ∧
      Sha256.hexDigest (stripReturns (cutLines lineFeed before.flatten).2) =
        Sha256.hexDigest (cutLines lineFeed before.flatten).2)

theorem chunkIndependent_iff_values (limits : CollectorLimits) (channel : OutputChannel)
    (chunks : List (List UInt8)) :
    ChunkIndependent limits channel chunks ↔
      outcome (Collection.initial.feedLines limits channel (fedValues [] chunks)) =
        outcome (Collection.initial.feedLines limits channel (streamValues chunks.flatten)) := by
  have idle : ∀ other ≠ channel, StreamingMetricCollector.initial.buffers other = [] :=
    fun _ _ => rfl
  rw [ChunkIndependent, StreamingMetricCollector.collect_eq idle,
    StreamingMetricCollector.collect_eq idle]
  change outcome (_ : Collection × Option CollectorError) =
    outcome (Collection.initial.feedLines limits channel (fedValues [] [chunks.flatten])) ↔ _
  rw [fedValues_single]
  rfl

theorem chunkIndependent_of_unbroken (limits : CollectorLimits) (channel : OutputChannel)
    (unbroken : Unbroken [] chunks) : ChunkIndependent limits channel chunks := by
  rw [chunkIndependent_iff_values, fedValues_unbroken List.not_mem_nil unbroken]
  rfl

theorem stripReturns_append {line end_ : List UInt8} (returns : stripReturns end_ = []) :
    stripReturns (line ++ end_) = stripReturns line := by
  have all : ∀ byte ∈ end_, decide (byte = carriageReturn) = true :=
    List.rdropWhile_eq_nil_iff.mp returns
  unfold stripReturns List.rdropWhile
  rw [List.reverse_append, List.dropWhile_append_of_pos]
  intro byte member
  exact all byte (List.mem_reverse.mp member)

namespace Collection

variable {limits : CollectorLimits} {channel : OutputChannel}

theorem feedLine_empty (collection : Collection) :
    collection.feedLine limits channel [] = (collection.nextLine channel, none) := by
  have parsed (parser : TrainingLogParser) : parser.feed (decodeLine []) = (parser, .ok []) := rfl
  cases channel with
  | stdout =>
      simp only [feedLine, List.length_nil, Nat.not_lt_zero, if_false, if_true, parsed]
      rfl
  | stderr =>
      simp only [feedLine, List.length_nil, Nat.not_lt_zero, if_false]
      rfl

theorem feedLines_silent {values : List (List UInt8)} (silent : ∀ value ∈ values, value = [])
    (collection : Collection) :
    outcome (collection.feedLines limits channel values) = outcome (collection, none) := by
  induction values generalizing collection with
  | nil => rfl
  | cons value values induction =>
      rcases List.forall_mem_cons.mp silent with ⟨rfl, rest⟩
      rw [feedLines, feedLine_empty]
      exact induction rest _

/-- Of a value beyond the limit only its hash is heard. -/
theorem feedLine_long (collection : Collection) {value : List UInt8}
    (long : maxMetricLineBytes < value.length) :
    collection.feedLine limits channel value =
      ((({ collection with droppedRecords := collection.droppedRecords + 1 }).nextLine
          channel).record limits
        { source := "stdout"
          eventKey := channel.name ++ ":" ++ toString (collection.lineIndexes channel) ++
            ":oversized:" ++ Sha256.hexDigest value
          message := some "worker subprocess output line exceeded the byte limit"
          metrics := [], channel := some channel.name }, none) := by
  simp only [feedLine, outputKey, if_pos long]

end Collection

theorem nothing_of_silent {stream : List UInt8} (absent : lineFeed ∉ stream)
    (silent : Silent stream) : stream = [] := by
  by_contra some_
  have alone := streamValues_unfinished absent
  rw [if_neg some_] at alone
  exact some_ (silent _ (by rw [alone]; exact List.mem_singleton_self _))

theorem chunkIndependent_of_harmless (limits : CollectorLimits) (channel : OutputChannel)
    (harmless : BreaksHarmlessly chunks) : ChunkIndependent limits channel chunks := by
  rcases harmless with ⟨before, after, breaks, unbroken, silent, known⟩
  rcases breaks.stream with ⟨line, lines, stream, parts⟩
  have long := breaks.long
  have fed := breaks.fedValues_eq (Nat.zero_le _) List.not_mem_nil
  rw [chunkIndependent_iff_values, fed]
  rw [List.nil_append] at stream
  rw [stream, fedValues_unbroken List.not_mem_nil unbroken]
  rw [List.nil_append] at long parts ⊢
  rw [Collection.feedLines_append, Collection.feedLines_append]
  rcases Collection.initial.feedLines limits channel
    ((cutLines lineFeed before.flatten).1.map stripReturns) with ⟨middle, _ | error⟩
  · dsimp only
    rcases parts with ⟨absent, rfl, rfl⟩ | ⟨end_, rest, split, absent, rfl, rfl⟩
    · have nothing := nothing_of_silent absent silent
      simp only [nothing, List.append_nil]
      rfl
    · rcases known with nothing | ⟨longStripped, sameHash⟩
      · rw [nothing] at split
        exact absurd split.symm (List.append_ne_nil_of_right_ne_nil _ (List.cons_ne_nil _ _))
      · rw [Silent, split, streamValues_line absent] at silent
        rcases List.forall_mem_cons.mp silent with ⟨returns, quiet⟩
        rw [split, List.nil_append, streamValues_line absent, stripReturns_append returns,
          Collection.feedLines,
          Collection.feedLines, Collection.feedLine_long middle long,
          Collection.feedLine_long middle longStripped, sameHash]
        dsimp only
        rw [Collection.feedLines_silent silent, Collection.feedLines_silent quiet]
  · rfl

theorem unbroken_of_silent (silent : (loud (fedValues [] chunks)).length = 0) :
    Unbroken [] chunks := by
  rcases @unbroken_or_breaks [] (Nat.zero_le _) chunks with
    unbroken | ⟨before, after, breaks⟩
  · exact unbroken
  · rw [breaks.fedValues_eq (Nat.zero_le _) List.not_mem_nil, loud_append, loud_cons,
      if_neg breaks.part_ne_nil] at silent
    omega

/-- Where the chunks give the keys that the stream gives, every broken line is broken harmlessly. -/
theorem harmless_of_keys (channel : OutputChannel)
    (same : keysFrom channel 0 (fedValues [] chunks) =
      keysFrom channel 0 (streamValues chunks.flatten)) :
    Unbroken [] chunks ∨ BreaksHarmlessly chunks := by
  rcases @unbroken_or_breaks [] (Nat.zero_le _) chunks with
    unbroken | ⟨before, after, breaks⟩
  · exact .inl unbroken
  refine .inr ⟨before, after, breaks, ?_⟩
  rcases breaks.stream with ⟨line, lines, stream, parts⟩
  have long := breaks.long
  have some_ := breaks.part_ne_nil
  have fed := breaks.fedValues_eq (Nat.zero_le _) List.not_mem_nil
  simp only [List.nil_append] at stream fed long some_ parts
  rw [stream, fed, keysFrom_append, keysFrom_append] at same
  have rest := List.append_cancel_left same
  generalize (cutLines lineFeed before.flatten).2 = part at *
  generalize 0 + ((cutLines lineFeed before.flatten).1.map stripReturns).length = index at rest
  -- As many lines are heard of after the break as in the rest of the stream.
  have counts := congrArg List.length rest
  rw [length_keysFrom, length_keysFrom, loud_cons, loud_cons, if_neg some_] at counts
  have more := loud_after parts
  have fewer : (loud (streamValues ([] ++ after.flatten))).length ≤
      (loud (fedValues [] after)).length :=
    loud_streamValues_le List.not_mem_nil (Nat.zero_le _)
  rw [List.nil_append] at fewer
  have lineSome : line ≠ [] := by
    rintro rfl
    rw [if_pos rfl] at counts
    omega
  rw [if_neg lineSome] at counts
  rw [keysFrom, keysFrom, if_neg some_, if_neg lineSome] at rest
  rcases List.cons.inj rest with ⟨headKey, tailKeys⟩
  have quiet : (loud lines).length = 0 := by
    by_contra heard
    rcases parts with ⟨-, rfl, -⟩ | ⟨end_, later, split, absent, -, rfl⟩
    · exact heard rfl
    · -- The break has taken one line more, so that the next event has another number.
      have first := @firstLoud_eq [] after List.not_mem_nil (Nat.zero_le _)
        (by rw [List.nil_append]; omega)
      rw [List.nil_append, split, streamValues_line absent] at first
      rw [split, streamValues_line absent, loud_cons] at fewer
      have returns : stripReturns end_ = [] := by
        by_contra visible
        rw [if_neg visible] at fewer
        omega
      rw [returns, List.findIdx_cons] at first
      rcases @head_keysFrom channel (index + 1) (fedValues [] after) (by omega) with
        ⟨left, leftHead⟩
      rcases head_keysFrom channel (index + 1) heard with ⟨right, rightHead⟩
      change keysFrom channel (index + 1) (fedValues [] after) =
        keysFrom channel (index + 1) (streamValues later) at tailKeys
      rw [tailKeys, rightHead] at leftHead
      have numbers := (outputKey_inj (Option.some.inj leftHead)).1
      simp only [ne_eq, not_true_eq_false, decide_false, cond_false] at first numbers
      omega
  have silent : Silent after.flatten := loud_eq_zero_iff.mp (by omega)
  refine ⟨unbroken_of_silent (by omega), silent, ?_⟩
  rcases parts with ⟨absent, -, -⟩ | ⟨end_, later, split, absent, rfl, -⟩
  · exact .inl (nothing_of_silent absent silent)
  · have returns : stripReturns end_ = [] := by
      apply silent
      rw [split, streamValues_line absent]
      exact List.mem_cons_self
    rw [stripReturns_append returns] at headKey
    rcases outputKey_inj headKey with ⟨-, lengths, hashes⟩
    exact .inr ⟨lengths.mp long, hashes.symm⟩

theorem harmless_of_independent {limits : CollectorLimits} {channel : OutputChannel}
    (sink : limits.telemetrySink = true)
    (finishes : (Collection.initial.feedLines limits channel
      (streamValues chunks.flatten)).2 = none)
    (independent : ChunkIndependent limits channel chunks) :
    Unbroken [] chunks ∨ BreaksHarmlessly chunks := by
  rw [chunkIndependent_iff_values] at independent
  rcases whole : Collection.initial.feedLines limits channel (streamValues chunks.flatten) with
    ⟨wholeAfter, wholeError⟩
  rcases parts : Collection.initial.feedLines limits channel (fedValues [] chunks) with
    ⟨partsAfter, partsError⟩
  rw [whole] at finishes
  cases finishes
  rw [whole, parts, outcome, outcome] at independent
  simp only [Prod.mk.injEq] at independent
  rcases independent with ⟨-, -, recorded, rfl⟩
  have wholeKeys := Collection.feedLines_events sink whole
  have partsKeys := Collection.feedLines_events sink parts
  apply harmless_of_keys channel
  rw [recorded, wholeKeys] at partsKeys
  exact (List.append_cancel_left partsKeys).symm

/-- What the collector makes of a stream does not depend on the chunks when every broken line is
broken harmlessly, and, with a telemetry sink, only then, unless an error ends the collection. -/
theorem chunkIndependent_iff (limits : CollectorLimits) (channel : OutputChannel)
    (chunks : List (List UInt8)) :
    (Unbroken [] chunks ∨ BreaksHarmlessly chunks → ChunkIndependent limits channel chunks) ∧
    (limits.telemetrySink = true →
      (StreamingMetricCollector.collect limits channel.name .initial [chunks.flatten]).2 = none →
      (ChunkIndependent limits channel chunks ↔
        Unbroken [] chunks ∨ BreaksHarmlessly chunks)) := by
  have enough : Unbroken [] chunks ∨ BreaksHarmlessly chunks →
      ChunkIndependent limits channel chunks := by
    rintro (unbroken | harmless)
    · exact chunkIndependent_of_unbroken limits channel unbroken
    · exact chunkIndependent_of_harmless limits channel harmless
  refine ⟨enough, fun sink finishes => ⟨?_, enough⟩⟩
  have idle : ∀ other ≠ channel, StreamingMetricCollector.initial.buffers other = [] :=
    fun _ _ => rfl
  have read := congrArg Prod.snd
    (@StreamingMetricCollector.collect_eq limits _ _ idle [chunks.flatten])
  apply harmless_of_independent sink
  rw [← fedValues_single]
  exact read.symm.trans finishes

/-- An epoch line in two chunks. -/
theorem chunkIndependent_iff_twoChunks :
    ChunkIndependent ⟨10, true⟩ .stdout ["Train Epoch: 3 ".toUTF8.toList, "[50%]\n".toUTF8.toList] ↔
      Unbroken [] ["Train Epoch: 3 ".toUTF8.toList, "[50%]\n".toUTF8.toList] ∨
        BreaksHarmlessly ["Train Epoch: 3 ".toUTF8.toList, "[50%]\n".toUTF8.toList] :=
  (chunkIndependent_iff ⟨10, true⟩ .stdout
    ["Train Epoch: 3 ".toUTF8.toList, "[50%]\n".toUTF8.toList]).2 rfl (by decide +kernel)

/-- A line of one byte more than the limit, one byte and an LF, of which the last two come later. -/
theorem not_always_chunkIndependent :
    ¬∀ (limits : CollectorLimits) (channel : OutputChannel) (chunks : List (List UInt8)),
      ChunkIndependent limits channel chunks := by
  intro always
  let part := List.replicate (maxMetricLineBytes + 1) (120 : UInt8)
  have plain : lineFeed ∉ part := by
    intro member
    have same := List.eq_of_mem_replicate member
    revert same
    decide
  have unfinished : (cutLines lineFeed part).2.length = maxMetricLineBytes + 1 := by
    rw [cutLines_unfinished plain]
    exact List.length_replicate
  have finishes : (Collection.initial.feedLines ⟨10, true⟩ .stdout
      (streamValues [part, [120, 10]].flatten)).2 = none := by
    have stream : [part, [120, 10]].flatten = (part ++ [120]) ++ lineFeed :: [] := by
      simp [lineFeed]
    have long : maxMetricLineBytes < (stripReturns (part ++ [120])).length := by
      rw [stripReturns, List.rdropWhile_concat_neg _ _ _ (by decide), List.length_append,
        List.length_replicate]
      omega
    have absent : lineFeed ∉ part ++ [120] :=
      List.not_mem_append plain (by decide)
    rw [stream, streamValues_line absent, Collection.feedLines,
      Collection.feedLine_long _ long]
    rfl
  rcases harmless_of_independent rfl finishes (always ⟨10, true⟩ .stdout [part, [120, 10]]) with
    unbroken | ⟨before, after, breaks, -, silent, -⟩
  · have short := unbroken [part] [[120, 10]] rfl
    rw [List.flatten_singleton, List.nil_append, unfinished] at short
    omega
  · have split := breaks.split
    rcases before with _ | ⟨first, _ | ⟨second, more⟩⟩
    · exact breaks.part_ne_nil rfl
    · rw [List.singleton_append, List.cons.injEq] at split
      rw [← split.2] at silent
      have heard := silent [120] (by decide)
      cases heard
    · rw [List.cons_append, List.cons.injEq] at split
      have short := breaks.first [first] (second :: more) rfl (List.cons_ne_nil _ _)
      rw [List.flatten_singleton, List.nil_append, ← split.1, unfinished] at short
      omega

end RvcOrchestrator.Worker

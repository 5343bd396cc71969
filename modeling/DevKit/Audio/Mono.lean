import DevKit.Audio.Wave
import DevKit.Foundation.CheckedMemory

namespace DevKit
namespace Audio

/-!
# From stereo to mono

`convertToMono` keeps the left sample of every frame and writes the header again.  It
works in place: a reader moves over the frames, and a writer over the samples that are
kept.

Both cursors start behind the first frame, because its left sample is already in place.
That is right when there is a first frame.  The loop tests only that the reader is inside
the buffer, and not that a whole sample is.

The class exists twice.  The older one writes the depth of the last `format` into the
header, and not the depth it has been given.
-/

/-- The loop; `none` is an access outside the buffer. -/
def copyLoop (bytesPerSample : Nat) (size : Int) :
    (fuel curReader curWriter : Nat) -> Pointer -> Option (Nat × Pointer)
  | 0, _, _, _ => none
  | fuel + 1, curReader, curWriter, audioBuffer =>
    if (curReader : Int) < size then do
      let sample <- fetch audioBuffer curReader bytesPerSample
      let audioBuffer <- store audioBuffer curWriter sample.bytes
      copyLoop bytesPerSample size fuel (curReader + bytesPerSample * 2) (curWriter + bytesPerSample) audioBuffer
    else some (curWriter, audioBuffer)

/-- `convertToMono`, with the depth that goes into the header. -/
def convertWith (headerDepth : UInt16) (sampleRate : UInt32) (audioBuffer : Pointer) (size sampleBitLength : Int) :
    Option (Int × Pointer) :=
  if sampleBitLength ≠ 16 ∧ sampleBitLength ≠ 24 ∧ sampleBitLength ≠ 32 then some (-1, audioBuffer)
  else if audioBuffer = none ∨ size < waveHeaderSize then some (-1, audioBuffer)
  else do
    let bytesPerSample := sampleBitLength.toNat / 8
    let (curBufferSize, audioBuffer) <-
      copyLoop bytesPerSample size (size.toNat + 1) (waveHeaderSize + bytesPerSample * 2)
        (waveHeaderSize + bytesPerSample) audioBuffer
    let hdr := genericWAVHeader ((curBufferSize : Int) - waveHeaderSize) sampleRate headerDepth 1
    let audioBuffer <- store audioBuffer 0 hdr.bytes
    return (curBufferSize, audioBuffer)

/-- `convertToMono` of AudioClassV2 -/
def convertToMono (sampleRate : UInt32) (audioBuffer : Pointer) (size sampleBitLength : Int) :
    Option (Int × Pointer) :=
  convertWith (UInt16.ofInt sampleBitLength) sampleRate audioBuffer size sampleBitLength

/-- `convertToMono` of AudioClass -/
def convertToMonoV1 (sampleBitDepth : UInt16) (sampleRate : UInt32) (audioFile : Pointer)
    (size sampleBitLength : Int) : Option (Int × Pointer) :=
  convertWith sampleBitDepth sampleRate audioFile size sampleBitLength

/-- The left samples of the first frames of a recording. -/
def leftSamples (width frames : Nat) (buffer : Bytes) : Bytes :=
  (List.range frames).flatMap fun frame => slice buffer (waveHeaderSize + width * 2 * frame) width

/-- What the conversion of a recording should be. -/
structure Mono (width frames : Nat) (sampleRate : UInt32) (buffer : Bytes) (region : Bytes) : Prop where
  length_eq : region.length = buffer.length
  samples : slice region waveHeaderSize (width * frames) = leftSamples width frames buffer
  header :
    exists hdr : WaveHeader, region.take waveHeaderSize = hdr.bytes ∧
      Describes hdr 1 (8 * width) sampleRate.toNat (width * frames)

/-- The conversion is exact. -/
def Converts (width frames : Nat) (sampleRate : UInt32) (buffer : Bytes) (result : Option (Int × Pointer)) : Prop :=
  exists region, result = some (((waveHeaderSize + width * frames : Nat) : Int), some region) ∧
    Mono width frames sampleRate buffer region

/-! ## The loop -/

section Loop

variable {width : Nat} {buffer : Bytes}

/-- The buffer when the samples of some frames are in place. -/
def compacted (width : Nat) (buffer : Bytes) (frames : Nat) : Bytes :=
  buffer.take waveHeaderSize ++ leftSamples width frames buffer ++ buffer.drop (waveHeaderSize + width * frames)

theorem leftSamples_succ (width frames : Nat) (buffer : Bytes) :
    leftSamples width (frames + 1) buffer =
      leftSamples width frames buffer ++ slice buffer (waveHeaderSize + width * 2 * frames) width := by
  rw [leftSamples, List.range_succ, List.flatMap_append, List.flatMap_singleton, ← leftSamples]

theorem length_leftSamples {frames : Nat} (inside : waveHeaderSize + width * 2 * frames ≤ buffer.length) :
    (leftSamples width frames buffer).length = width * frames := by
  induction frames with
  | zero => simp [leftSamples]
  | succ frames inductionHypothesis =>
      rw [Nat.mul_succ] at inside
      rw [leftSamples_succ, List.length_append, inductionHypothesis (by omega), length_slice _ _ _ (by omega),
        Nat.mul_succ]

theorem length_front {frames : Nat} (inside : waveHeaderSize + width * 2 * frames ≤ buffer.length) :
    (buffer.take waveHeaderSize ++ leftSamples width frames buffer).length = waveHeaderSize + width * frames := by
  rw [List.length_append, length_leftSamples inside, List.length_take, Nat.min_eq_left (by omega)]

theorem length_compacted {frames : Nat} (inside : waveHeaderSize + width * 2 * frames ≤ buffer.length) :
    (compacted width buffer frames).length = buffer.length := by
  have less : width * frames ≤ width * 2 * frames := Nat.mul_le_mul_right _ (by omega)
  rw [compacted, List.length_append, length_front inside, List.length_drop]
  omega

/-- The first sample is in place. -/
theorem compacted_one (width : Nat) (buffer : Bytes) : compacted width buffer 1 = buffer := by
  have first : leftSamples width 1 buffer = (buffer.drop waveHeaderSize).take width := by
    simp [leftSamples, slice]
  rw [compacted, first, Nat.mul_one, List.append_assoc, ← List.drop_drop, List.take_append_drop,
    List.take_append_drop]

/-- What is behind the writer has not changed. -/
theorem slice_compacted {frames offset : Nat} (inside : waveHeaderSize + width * 2 * frames ≤ buffer.length)
    (behind : waveHeaderSize + width * frames ≤ offset) (size : Nat) :
    slice (compacted width buffer frames) offset size = slice buffer offset size := by
  rw [compacted, slice_append_right _ _ _ _ (by rw [length_front inside]; exact behind), length_front inside, slice,
    List.drop_drop, slice]
  congr 2
  omega

variable {frames : Nat}

/-- The reader is at the end. -/
theorem copyLoop_end (fuel : Nat) {curReader : Nat} (ended : buffer.length ≤ curReader) (curWriter : Nat)
    (audioBuffer : Pointer) :
    copyLoop width buffer.length (fuel + 1) curReader curWriter audioBuffer = some (curWriter, audioBuffer) := by
  rw [copyLoop, if_neg (by omega)]

/-- A sample that is not whole is read outside the buffer. -/
theorem copyLoop_cut (fuel : Nat) {curReader : Nat} {region : Bytes} (length : region.length = buffer.length)
    (inside : curReader < buffer.length) (cut : buffer.length < curReader + width) (curWriter : Nat) :
    copyLoop width buffer.length (fuel + 1) curReader curWriter (some region) = none := by
  rw [copyLoop, if_pos (by omega), fetch, Option.bind_some, dif_neg (by omega)]
  rfl

/-- One frame. -/
theorem copyLoop_step (fuel : Nat) (positive : 0 < width)
    (whole : waveHeaderSize + width * 2 * frames + width ≤ buffer.length) :
    copyLoop width buffer.length (fuel + 1) (waveHeaderSize + width * 2 * frames) (waveHeaderSize + width * frames)
        (some (compacted width buffer frames)) =
      copyLoop width buffer.length fuel (waveHeaderSize + width * 2 * (frames + 1))
        (waveHeaderSize + width * (frames + 1)) (some (compacted width buffer (frames + 1))) := by
  have less : width * frames ≤ width * 2 * frames := Nat.mul_le_mul_right _ (by omega)
  have inside : waveHeaderSize + width * 2 * frames ≤ buffer.length := by omega
  have length := length_compacted inside
  have sample : (slice buffer (waveHeaderSize + width * 2 * frames) width).length = width := length_slice _ _ _ whole
  have written : splice (compacted width buffer frames) (waveHeaderSize + width * frames)
      (slice buffer (waveHeaderSize + width * 2 * frames) width) = compacted width buffer (frames + 1) := by
    rw [compacted, ← length_front inside, splice_append, length_front inside, sample, List.drop_drop, compacted,
      leftSamples_succ, Nat.mul_succ width frames, Nat.add_assoc]
    simp only [List.append_assoc]
  have same := slice_compacted inside (Nat.add_le_add_left less waveHeaderSize) width
  rw [copyLoop, if_pos (by omega), fetch_some (by omega)]
  simp only [Option.bind_eq_bind, Option.bind_some, same]
  rw [store_some (by omega), Option.bind_some, written, Nat.mul_succ (width * 2) frames, Nat.mul_succ width frames,
    Nat.add_assoc, Nat.add_assoc]

/-- Some frames. -/
theorem copyLoop_steps (fuel : Nat) (positive : 0 < width) (count : Nat)
    (inside : waveHeaderSize + width * 2 * (frames + count) ≤ buffer.length) :
    copyLoop width buffer.length (fuel + count) (waveHeaderSize + width * 2 * frames)
        (waveHeaderSize + width * frames) (some (compacted width buffer frames)) =
      copyLoop width buffer.length fuel (waveHeaderSize + width * 2 * (frames + count))
        (waveHeaderSize + width * (frames + count)) (some (compacted width buffer (frames + count))) := by
  induction count generalizing fuel with
  | zero => rfl
  | succ count inductionHypothesis =>
      rw [← Nat.add_assoc, Nat.mul_succ] at inside
      have before := inductionHypothesis (fuel + 1) (by omega)
      have whole : waveHeaderSize + width * 2 * (frames + count) + width ≤ buffer.length := by omega
      rw [Nat.add_right_comm] at before
      exact before.trans (copyLoop_step fuel positive whole)

end Loop

/-! ## The conversion -/

section Conversion

variable {width frames rest : Nat} {buffer : Bytes}

/-- The end of the conversion: the header. -/
def finish (headerDepth : UInt16) (sampleRate : UInt32) (ended : Nat × Pointer) : Option (Int × Pointer) :=
  (store ended.2 0 (genericWAVHeader ((ended.1 : Int) - waveHeaderSize) sampleRate headerDepth 1).bytes).map
    fun audioBuffer => (ended.1, audioBuffer)

theorem convertWith_eq (headerDepth : UInt16) (sampleRate : UInt32) (known : width ∈ [2, 3, 4])
    (large : waveHeaderSize ≤ buffer.length) :
    convertWith headerDepth sampleRate (some buffer) buffer.length (8 * width : Nat) =
      (copyLoop width buffer.length (buffer.length + 1) (waveHeaderSize + width * 2 * 1) (waveHeaderSize + width * 1)
        (some buffer)).bind (finish headerDepth sampleRate) := by
  have accepted : ¬ (((8 * width : Nat) : Int) ≠ 16 ∧ ((8 * width : Nat) : Int) ≠ 24 ∧
      ((8 * width : Nat) : Int) ≠ 32) := by
    simp only [List.mem_cons, List.not_mem_nil, or_false] at known
    omega
  have bytes : (((8 * width : Nat) : Int)).toNat / 8 = width := by
    rw [Int.toNat_natCast, Nat.mul_div_cancel_left _ (by decide)]
  rw [convertWith, if_neg accepted, if_neg (by simp; omega)]
  simp only [bytes]
  rw [Int.toNat_natCast, Nat.mul_one, Nat.mul_one]
  cases copyLoop width buffer.length (buffer.length + 1) (waveHeaderSize + width * 2) (waveHeaderSize + width)
      (some buffer) with
  | none => rfl
  | some ended =>
      rw [Option.bind_some, finish, Option.map_eq_bind]
      rfl

/-- The depth in a header. -/
theorem slice_bytes (hdr : WaveHeader) : slice hdr.bytes 34 2 = leBytes 2 hdr.bitsPerSample.toNat := by
  have before : (hdr.riffMarker.bytes ++ leBytes 4 hdr.fileSize.toNat ++ hdr.filetypeHeader.bytes ++
      hdr.formatMarker.bytes ++ leBytes 4 hdr.dataHeaderLength.toNat ++ leBytes 2 hdr.formatType.toNat ++
      leBytes 2 hdr.numberOfChannels.toNat ++ leBytes 4 hdr.sampleRate.toNat ++ leBytes 4 hdr.bytesPerSecond.toNat ++
      leBytes 2 hdr.bytesPerFrame.toNat).length = 34 := by
    simp only [List.length_append, length_leBytes, Buffer.length_eq]
  rw [WaveHeader.bytes, List.append_assoc, List.append_assoc, slice_append_right _ _ _ _ (Nat.le_of_eq before), before,
    slice_append_left _ _ _ _ (by rw [length_leBytes])]
  exact slice_zero_length _ _ (length_leBytes _ _)

/-- Headers with equal bytes have the same depth. -/
theorem bitsPerSample_eq {one other : WaveHeader} (same : one.bytes = other.bytes) :
    one.bitsPerSample = other.bitsPerSample := by
  have bytes : leBytes 2 one.bitsPerSample.toNat = leBytes 2 other.bitsPerSample.toNat := by
    rw [← slice_bytes, ← slice_bytes, same]
  have numbers := congrArg leNat bytes
  rw [leNat_leBytes _ _ one.bitsPerSample.toNat_lt, leNat_leBytes _ _ other.bitsPerSample.toNat_lt] at numbers
  exact UInt16.toNat_inj.mp numbers

/-- The loop up to the last whole frame. -/
theorem copyLoop_frames (positive : 0 < width) (first : 0 < frames)
    (sized : buffer.length = waveHeaderSize + width * 2 * frames + rest) :
    copyLoop width buffer.length (buffer.length + 1) (waveHeaderSize + width * 2 * 1) (waveHeaderSize + width * 1)
        (some buffer) =
      copyLoop width buffer.length (buffer.length - frames + 1 + 1) (waveHeaderSize + width * 2 * frames)
        (waveHeaderSize + width * frames) (some (compacted width buffer frames)) := by
  have more : frames ≤ width * 2 * frames := Nat.le_mul_of_pos_left _ (by omega)
  have all : 1 + (frames - 1) = frames := by omega
  have fuel : buffer.length + 1 = buffer.length - frames + 1 + 1 + (frames - 1) := by omega
  have steps := copyLoop_steps (buffer.length - frames + 1 + 1) positive (frames - 1)
    (by rw [all]; omega : waveHeaderSize + width * 2 * (1 + (frames - 1)) ≤ buffer.length)
  rw [all, compacted_one] at steps
  rw [fuel]
  exact steps

/-- The loop ends behind the samples of the whole frames in two cases only. -/
theorem copyLoop_exact_iff (positive : 0 < width) (cut : rest < width * 2)
    (sized : buffer.length = waveHeaderSize + width * 2 * frames + rest) :
    (exists audioBuffer,
      copyLoop width buffer.length (buffer.length + 1) (waveHeaderSize + width * 2 * 1) (waveHeaderSize + width * 1)
        (some buffer) = some (waveHeaderSize + width * frames, audioBuffer)) <-> 0 < frames ∧ rest = 0 := by
  constructor
  · rintro ⟨audioBuffer, ends⟩
    rcases Nat.eq_zero_or_pos frames with none | first
    · -- The cursors start behind a frame that does not exist.
      subst none
      rw [copyLoop_end _ (by omega)] at ends
      have same := congrArg Prod.fst (Option.some.inj ends)
      dsimp only at same
      omega
    · refine ⟨first, ?_⟩
      rw [copyLoop_frames positive first sized] at ends
      by_contra more
      by_cases whole : width ≤ rest
      · rw [copyLoop_step _ positive (by omega), copyLoop_end _ (by rw [Nat.mul_succ (width * 2)]; omega)] at ends
        have same := congrArg Prod.fst (Option.some.inj ends)
        dsimp only at same
        rw [Nat.mul_succ] at same
        omega
      · rw [copyLoop_cut _ (length_compacted (by omega)) (by omega) (by omega)] at ends
        cases ends
  · rintro ⟨first, rfl⟩
    refine ⟨some (compacted width buffer frames), ?_⟩
    rw [copyLoop_frames positive first sized, copyLoop_end _ (by omega)]

/-- What the conversion has made of whole frames. -/
theorem converts_whole (headerDepth : UInt16) (sampleRate : UInt32) (known : width ∈ [2, 3, 4]) (first : 0 < frames)
    (sized : buffer.length = waveHeaderSize + width * 2 * frames) :
    convertWith headerDepth sampleRate (some buffer) buffer.length (8 * width : Nat) =
      some (((waveHeaderSize + width * frames : Nat) : Int),
        some ((genericWAVHeader ((width * frames : Nat) : Int) sampleRate headerDepth 1).bytes ++
          leftSamples width frames buffer ++ buffer.drop (waveHeaderSize + width * frames))) := by
  have positive : 0 < width := by
    simp only [List.mem_cons, List.not_mem_nil, or_false] at known
    omega
  have inside : waveHeaderSize + width * 2 * frames ≤ buffer.length := Nat.le_of_eq sized.symm
  have data : ((waveHeaderSize + width * frames : Nat) : Int) - waveHeaderSize = ((width * frames : Nat) : Int) := by
    omega
  have front : (buffer.take waveHeaderSize).length = waveHeaderSize := by
    rw [List.length_take]
    omega
  rw [convertWith_eq _ _ known (by omega), copyLoop_frames positive first (sized.trans (Nat.add_zero _).symm),
    copyLoop_end _ (by omega), Option.bind_some, finish, data, store_some, splice_zero, WaveHeader.length_bytes,
    compacted, List.append_assoc]
  · rw [List.drop_left' front, List.append_assoc]
    rfl
  · rw [WaveHeader.length_bytes, length_compacted inside]
    omega

/-- The conversion is exact for whole frames, when the header gets the depth of the samples. -/
theorem converts_iff (headerDepth : UInt16) (sampleRate : UInt32) (known : width ∈ [2, 3, 4]) (cut : rest < width * 2)
    (sized : buffer.length = waveHeaderSize + width * 2 * frames + rest) (small : buffer.length < 2 ^ 31) :
    Converts width frames sampleRate buffer
        (convertWith headerDepth sampleRate (some buffer) buffer.length (8 * width : Nat)) <->
      0 < frames ∧ rest = 0 ∧ headerDepth.toNat = 8 * width := by
  have positive : 0 < width := by
    simp only [List.mem_cons, List.not_mem_nil, or_false] at known
    omega
  have less : width * frames ≤ width * 2 * frames := Nat.mul_le_mul_right _ (by omega)
  constructor
  · rintro ⟨region, result, mono⟩
    have whole : 0 < frames ∧ rest = 0 := by
      rw [← copyLoop_exact_iff positive cut sized]
      rw [convertWith_eq _ _ known (by omega)] at result
      rcases Option.bind_eq_some_iff.mp result with ⟨⟨curBufferSize, audioBuffer⟩, ends, finished⟩
      rcases Option.map_eq_some_iff.mp finished with ⟨_, -, same⟩
      have number : curBufferSize = waveHeaderSize + width * frames := Int.ofNat.inj (congrArg Prod.fst same)
      exact ⟨audioBuffer, number ▸ ends⟩
    rcases whole with ⟨first, rfl⟩
    refine ⟨first, rfl, ?_⟩
    rw [converts_whole _ _ known first sized] at result
    have same : _ = region := Option.some.inj (congrArg Prod.snd (Option.some.inj result))
    rcases mono.header with ⟨hdr, bytes, describes⟩
    rw [← same, List.append_assoc, List.take_left' (WaveHeader.length_bytes _)] at bytes
    rw [← describes.hasBits, ← bitsPerSample_eq bytes]
    rfl
  · rintro ⟨first, rfl, depth⟩
    have inside : waveHeaderSize + width * 2 * frames ≤ buffer.length := Nat.le_of_eq sized.symm
    refine ⟨_, converts_whole _ _ known first sized, {
      length_eq := ?_
      samples := ?_
      header := ⟨genericWAVHeader ((width * frames : Nat) : Int) sampleRate headerDepth 1, ?_, ?_⟩ }⟩
    · rw [List.length_append, List.length_append, WaveHeader.length_bytes, length_leftSamples inside, List.length_drop]
      omega
    · rw [slice, List.append_assoc, List.drop_left' (WaveHeader.length_bytes _),
        List.take_left' (length_leftSamples inside)]
    · rw [List.append_assoc, List.take_left' (WaveHeader.length_bytes _)]
    · rw [← depth]
      exact genericWAVHeader_describes (by omega) sampleRate headerDepth (by decide)

/-- The conversion is exact when the recording consists of whole frames and there is one; the older class has to
be formatted with the width of the samples besides. -/
theorem mono_conversion_iff (sampleBitDepth : UInt16) (sampleRate : UInt32) (known : width ∈ [2, 3, 4])
    (cut : rest < width * 2) (sized : buffer.length = waveHeaderSize + width * 2 * frames + rest)
    (small : buffer.length < 2 ^ 31) :
    (Converts width frames sampleRate buffer
        (convertToMono sampleRate (some buffer) buffer.length (8 * width : Nat)) <-> 0 < frames ∧ rest = 0) ∧
      (Converts width frames sampleRate buffer
          (convertToMonoV1 sampleBitDepth sampleRate (some buffer) buffer.length (8 * width : Nat)) <->
        0 < frames ∧ rest = 0 ∧ sampleBitDepth.toNat = 8 * width) := by
  refine ⟨?_, converts_iff sampleBitDepth sampleRate known cut sized small⟩
  have given : (UInt16.ofInt ((8 * width : Nat) : Int)).toNat = 8 * width := by
    simp only [List.mem_cons, List.not_mem_nil, or_false] at known
    rcases known with rfl | rfl | rfl <;> rfl
  rw [convertToMono, converts_iff _ sampleRate known cut sized small, given]
  simp only [and_true]

/-- Two frames of 16-bit samples, with either class. -/
theorem mono_conversion_two_frames :
    Converts 2 2 8000 (List.replicate 52 7) (convertToMono 8000 (some (List.replicate 52 7)) 52 16) ∧
      Converts 2 2 8000 (List.replicate 52 7) (convertToMonoV1 16 8000 (some (List.replicate 52 7)) 52 16) := by
  have conversions : (Converts 2 2 8000 (List.replicate 52 7) (convertToMono 8000 (some (List.replicate 52 7)) 52 16) <->
        0 < 2 ∧ 0 = 0) ∧
      (Converts 2 2 8000 (List.replicate 52 7) (convertToMonoV1 16 8000 (some (List.replicate 52 7)) 52 16) <->
        0 < 2 ∧ 0 = 0 ∧ (16 : UInt16).toNat = 8 * 2) :=
    mono_conversion_iff 16 8000 (by decide) (by decide) (by decide) (by decide)
  exact ⟨conversions.1.mpr ⟨by decide, rfl⟩, conversions.2.mpr ⟨by decide, rfl, rfl⟩⟩

/-- An empty recording grows by a sample, and a cut frame is read outside the buffer. -/
theorem mono_conversion_inexact :
    ¬ Converts 2 0 8000 (List.replicate 44 0) (convertToMono 8000 (some (List.replicate 44 0)) 44 16) ∧
      (convertToMono 8000 (some (List.replicate 44 0)) 44 16).map Prod.fst = some 46 ∧
      convertToMono 8000 (some (List.replicate 49 0)) 49 16 = none := by
  have grows : (convertToMono 8000 (some (List.replicate 44 0)) 44 16).map Prod.fst = some 46 := by decide +kernel
  refine ⟨?_, grows, by decide +kernel⟩
  rintro ⟨region, result, -⟩
  rw [result] at grows
  cases grows

end Conversion

end Audio
end DevKit

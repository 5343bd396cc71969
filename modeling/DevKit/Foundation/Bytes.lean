import Mathlib

namespace DevKit

/-!
# Byte strings, fixed-size buffers and fixed-width integers

Byte strings are lists of `UInt8`.  A `Buffer` is a C array: its length is a
type index, so no operation can produce an array of the wrong size.  The
central result is `Buffer.memcpy_window`, which describes a buffer that is
filled piecewise from consecutive parts of one stream.  Integers are read and
written positionally; both directions are proved inverse at a fixed width.
-/

abbrev Bytes := List UInt8

/-- The `size` entries of a list that start at `offset`. -/
def slice (values : List X) (offset size : Nat) : List X :=
  (values.drop offset).take size

theorem length_slice (values : List X) (offset size : Nat) (within : offset + size ≤ values.length) :
    (slice values offset size).length = size := by
  simp only [slice, List.length_take, List.length_drop]
  omega

/-- A slice that ends inside the first part does not see the second. -/
theorem slice_append_left (left right : List X) (offset size : Nat)
    (within : offset + size ≤ left.length) :
    slice (left ++ right) offset size = slice left offset size := by
  unfold slice
  rw [List.drop_append_of_le_length (by omega), List.take_append_of_le_length]
  rw [List.length_drop]
  omega

theorem slice_append_right (left right : List X) (offset size : Nat)
    (past : left.length ≤ offset) :
    slice (left ++ right) offset size = slice right (offset - left.length) size := by
  unfold slice
  rw [List.drop_append, List.drop_eq_nil_of_le past, List.nil_append]

theorem slice_take (values : List X) (bound offset size : Nat) (within : offset + size ≤ bound) :
    slice (values.take bound) offset size = slice values offset size := by
  unfold slice
  rw [List.drop_take, List.take_take, Nat.min_eq_left (by omega)]

theorem slice_zero_length (values : List X) (size : Nat) (same : values.length = size) :
    slice values 0 size = values := by
  unfold slice
  rw [List.drop_zero, ← same, List.take_length]

/-- What stands at an offset, read as one part and the rest. -/
theorem drop_eq_append_iff {values part rest : List X} {offset size : Nat} (sized : part.length = size) :
    values.drop offset = part ++ rest <->
      slice values offset size = part ∧ values.drop (offset + size) = rest := by
  rw [slice, ← List.drop_drop]
  constructor
  · intro split
    rw [split, ← sized, List.take_left, List.drop_left]
    exact ⟨rfl, rfl⟩
  · rintro ⟨front, back⟩
    rw [← front, ← back, List.take_append_drop]

/-! ## Fixed-size buffers -/

/-- A byte array of a size fixed by its type. -/
@[ext]
structure Buffer (size : Nat) where
  bytes : Bytes
  length_eq : bytes.length = size
deriving DecidableEq

namespace Buffer

variable {size : Nat}

/-- `memset(buffer, 0, size)`. -/
def zero (size : Nat) : Buffer size :=
  ⟨List.replicate size 0, List.length_replicate⟩

/-- The first bytes of a string, padded with zeros to the buffer's size. -/
def fill (size : Nat) (source : Bytes) : Buffer size :=
  ⟨(source ++ List.replicate size 0).take size, by
    simp only [List.length_take, List.length_append, List.length_replicate]
    omega⟩

/-- `memcpy(buffer + offset, source, source.length)`.  Bytes that would land
behind the end of the buffer are dropped, so the size cannot change. -/
def memcpy (buffer : Buffer size) (offset : Nat) (source : Bytes) : Buffer size :=
  ⟨(buffer.bytes.take offset ++ source ++ buffer.bytes.drop (offset + source.length)).take size, by
    have := buffer.length_eq
    simp only [List.length_take, List.length_append, List.length_drop]
    omega⟩

/-- The contents of a zeroed buffer that has received the part of a stream
from position `start` on. -/
def window (size start : Nat) (stream : Bytes) : Buffer size :=
  fill size (stream.drop start)

theorem fill_bytes_of_length (source : Bytes) (exact : source.length = size) :
    (fill size source).bytes = source := by
  simp only [fill]
  rw [List.take_append_of_le_length (Nat.le_of_eq exact.symm), ← exact, List.take_length]

theorem fill_self (buffer : Buffer size) : fill size buffer.bytes = buffer :=
  Buffer.ext (fill_bytes_of_length buffer.bytes buffer.length_eq)

theorem fill_bytes_of_le (source : Bytes) (short : source.length ≤ size) :
    (fill size source).bytes = source ++ List.replicate (size - source.length) 0 := by
  simp only [fill]
  rw [List.take_append, List.take_of_length_le short, List.take_replicate,
    Nat.min_eq_left (Nat.sub_le _ _)]

theorem window_of_length_le (start : Nat) (stream : Bytes) (before : stream.length ≤ start) :
    window size start stream = zero size := by
  ext1
  simp only [window, fill, zero, List.drop_eq_nil_of_le before, List.nil_append,
    List.take_replicate, Nat.min_self]

/-- Once a window is full, its buffer is a slice of the stream. -/
theorem window_bytes_of_full (start : Nat) (stream : Bytes) (full : start + size ≤ stream.length) :
    (window size start stream).bytes = slice stream start size := by
  simp only [window, fill, slice]
  rw [List.take_append_of_le_length]
  rw [List.length_drop]
  omega

/-- Bytes behind a full window leave its buffer alone. -/
theorem window_append_of_full (start : Nat) (stream more : Bytes)
    (full : start + size ≤ stream.length) :
    window size start (stream ++ more) = window size start stream := by
  ext1
  rw [window_bytes_of_full _ _ full, window_bytes_of_full _ _ (by rw [List.length_append]; omega),
    slice_append_left _ _ _ _ full]

/-- Copying the next part of a stream to the next free position of its window
gives the window of the longer stream. -/
theorem memcpy_window (start : Nat) (stream chunk : Bytes) (started : start ≤ stream.length)
    (fits : stream.length + chunk.length ≤ start + size) :
    (window size start stream).memcpy (stream.length - start) chunk =
      window size start (stream ++ chunk) := by
  have kept : (stream.drop start).length = stream.length - start := List.length_drop
  have joined : ((stream ++ chunk).drop start) = stream.drop start ++ chunk :=
    List.drop_append_of_le_length started
  have room : stream.length - start ≤ size := by omega
  have front : ((stream.drop start) ++ List.replicate (size - (stream.length - start)) (0 : UInt8)).take
      (stream.length - start) = stream.drop start := by
    rw [List.take_append_of_le_length (by omega), List.take_of_length_le (by omega)]
  have back : ((stream.drop start) ++ List.replicate (size - (stream.length - start)) (0 : UInt8)).drop
      (stream.length - start + chunk.length) =
      List.replicate (size - (stream.length - start + chunk.length)) 0 := by
    rw [List.drop_append, List.drop_eq_nil_of_le (by omega), List.nil_append, List.drop_replicate]
    congr 1
    omega
  ext1
  simp only [memcpy, window, joined]
  rw [fill_bytes_of_le _ (by omega),
    fill_bytes_of_le (stream.drop start ++ chunk) (by rw [List.length_append]; omega), kept,
    front, back, List.length_append, kept, List.take_of_length_le]
  simp only [List.length_append, List.length_replicate]
  omega

theorem memcpy_bytes (buffer : Buffer size) (offset : Nat) (source : Bytes)
    (fits : offset + source.length ≤ size) :
    (buffer.memcpy offset source).bytes =
      buffer.bytes.take offset ++ source ++ buffer.bytes.drop (offset + source.length) := by
  have := buffer.length_eq
  simp only [memcpy]
  apply List.take_of_length_le
  simp only [List.length_append, List.length_take, List.length_drop]
  omega

/-- The bytes up to the end of a copy are the old front and the copied bytes. -/
theorem take_memcpy (buffer : Buffer size) (offset : Nat) (source : Bytes)
    (fits : offset + source.length ≤ size) :
    (buffer.memcpy offset source).bytes.take (offset + source.length) =
      buffer.bytes.take offset ++ source := by
  have := buffer.length_eq
  rw [memcpy_bytes buffer offset source fits, List.take_append_of_le_length, List.take_of_length_le]
  all_goals
    simp only [List.length_append, List.length_take]
    omega

/-- Two consecutive copies are one copy of both sources. -/
theorem memcpy_append (buffer : Buffer size) (offset : Nat) (first second : Bytes)
    (fits : offset + first.length + second.length ≤ size) :
    (buffer.memcpy offset first).memcpy (offset + first.length) second =
      buffer.memcpy offset (first ++ second) := by
  have exact := buffer.length_eq
  ext1
  rw [memcpy_bytes _ _ second fits, take_memcpy buffer offset first (by omega),
    memcpy_bytes buffer offset first (by omega),
    memcpy_bytes buffer offset (first ++ second) (by rw [List.length_append]; omega),
    List.append_assoc (buffer.bytes.take offset) first second, List.length_append]
  congr 1
  rw [List.drop_append, List.drop_eq_nil_of_le (by
    simp only [List.length_append, List.length_take]; omega), List.nil_append, List.drop_drop]
  congr 1
  simp only [List.length_append, List.length_take]
  omega

/-- A one-byte copy replaces one entry. -/
theorem memcpy_singleton (buffer : Buffer size) (offset : Nat) (byte : UInt8) (within : offset < size) :
    (buffer.memcpy offset [byte]).bytes = buffer.bytes.set offset byte := by
  have := buffer.length_eq
  rw [memcpy_bytes buffer offset [byte] within, List.set_eq_take_append_cons_drop,
    if_pos (by omega), List.append_assoc]
  rfl

end Buffer

/-! ## Fixed-width integers -/

/-- The value of a byte string, least significant byte first. -/
def leNat (bytes : Bytes) : Nat :=
  Nat.ofDigits 256 (bytes.map UInt8.toNat)

/-- The `width` low bytes of a number, least significant byte first. -/
def leBytes : (width value : Nat) -> Bytes
  | 0, _ => []
  | width + 1, value => UInt8.ofNat value :: leBytes width (value / 256)

theorem leNat_cons (byte : UInt8) (bytes : Bytes) :
    leNat (byte :: bytes) = byte.toNat + 256 * leNat bytes :=
  Nat.ofDigits_cons

theorem length_leBytes (width value : Nat) : (leBytes width value).length = width := by
  induction width generalizing value with
  | zero => rfl
  | succ width inductionHypothesis =>
      rw [leBytes, List.length_cons, inductionHypothesis]

theorem leNat_lt (bytes : Bytes) : leNat bytes < 256 ^ bytes.length := by
  induction bytes with
  | nil => decide
  | cons byte bytes inductionHypothesis =>
      have := byte.toNat_lt
      rw [leNat_cons, List.length_cons, Nat.pow_succ]
      omega

theorem leNat_leBytes (width value : Nat) (fits : value < 256 ^ width) :
    leNat (leBytes width value) = value := by
  induction width generalizing value with
  | zero =>
      have : value = 0 := by omega
      subst value
      rfl
  | succ width inductionHypothesis =>
      rw [leBytes, leNat_cons, inductionHypothesis (value / 256) (by
        rw [Nat.pow_succ] at fits
        omega), UInt8.toNat_ofNat']
      omega

theorem leBytes_leNat (bytes : Bytes) : leBytes bytes.length (leNat bytes) = bytes := by
  induction bytes with
  | nil => rfl
  | cons byte bytes inductionHypothesis =>
      have small := byte.toNat_lt
      have low : UInt8.ofNat (byte.toNat + 256 * leNat bytes) = byte := by
        apply UInt8.toNat_inj.mp
        rw [UInt8.toNat_ofNat']
        omega
      have high : (byte.toNat + 256 * leNat bytes) / 256 = leNat bytes := by omega
      rw [List.length_cons, leNat_cons, leBytes, low, high, inductionHypothesis]

theorem eq_leBytes_iff {bytes : Bytes} {width value : Nat} (sized : bytes.length = width)
    (fits : value < 256 ^ width) : bytes = leBytes width value <-> leNat bytes = value := by
  constructor
  · intro same
    rw [same, leNat_leBytes width value fits]
  · intro same
    rw [← same, ← sized, leBytes_leNat]

/-- Only the low `width` bytes of a number are written. -/
theorem leBytes_mod (width value : Nat) : leBytes width (value % 256 ^ width) = leBytes width value := by
  induction width generalizing value with
  | zero => rfl
  | succ width inductionHypothesis =>
      rw [leBytes, leBytes, Nat.pow_succ']
      congr 1
      · apply UInt8.toNat_inj.mp
        simp only [UInt8.toNat_ofNat']
        exact Nat.mod_mod_of_dvd value (Nat.dvd_mul_right 256 (256 ^ width))
      · rw [Nat.mod_mul_right_div_self, inductionHypothesis]

/-- The value of a byte string, most significant byte first. -/
def beNat (bytes : Bytes) : Nat :=
  leNat bytes.reverse

/-- The `width` low bytes of a number, most significant byte first. -/
def beBytes (width value : Nat) : Bytes :=
  (leBytes width value).reverse

theorem length_beBytes (width value : Nat) : (beBytes width value).length = width := by
  rw [beBytes, List.length_reverse, length_leBytes]

theorem beNat_beBytes (width value : Nat) (fits : value < 256 ^ width) :
    beNat (beBytes width value) = value := by
  rw [beNat, beBytes, List.reverse_reverse, leNat_leBytes width value fits]

theorem beBytes_beNat (bytes : Bytes) : beBytes bytes.length (beNat bytes) = bytes := by
  have inverse := leBytes_leNat bytes.reverse
  rw [List.length_reverse] at inverse
  rw [beBytes, beNat, inverse, List.reverse_reverse]

/-! ## Words joined from bytes -/

/-- Four bytes joined by shifts are their positional value. -/
theorem join_bytes (a b c d : Nat) (smallB : b < 256) (smallC : c < 256)
    (smallD : d < 256) :
    (a <<< 24 ||| (b <<< 16 ||| (c <<< 8 ||| d))) = a * 2 ^ 24 + (b * 2 ^ 16 + (c * 2 ^ 8 + d)) := by
  rw [← Nat.shiftLeft_add_eq_or_of_lt (show d < 2 ^ 8 by omega) c, Nat.shiftLeft_eq c,
    ← Nat.shiftLeft_add_eq_or_of_lt (show c * 2 ^ 8 + d < 2 ^ 16 by omega) b, Nat.shiftLeft_eq b,
    ← Nat.shiftLeft_add_eq_or_of_lt (show b * 2 ^ 16 + (c * 2 ^ 8 + d) < 2 ^ 24 by omega) a,
    Nat.shiftLeft_eq a]

theorem toNat_shift_byte (byte : UInt8) (count : UInt32) (small : count.toNat ≤ 24) :
    (byte.toUInt32 <<< count).toNat = byte.toNat <<< count.toNat := by
  have bound := byte.toNat_lt
  have power : 2 ^ count.toNat ≤ 2 ^ 24 := Nat.pow_le_pow_right (by decide) small
  have product : byte.toNat * 2 ^ count.toNat < 2 ^ 32 :=
    Nat.lt_of_lt_of_le (Nat.mul_lt_mul_of_lt_of_le bound power (by positivity)) (by decide)
  have short : count.toNat % 32 = count.toNat := Nat.mod_eq_of_lt (by omega)
  rw [UInt32.toNat_shiftLeft, UInt8.toNat_toUInt32, short, Nat.shiftLeft_eq,
    Nat.mod_eq_of_lt product]

theorem toNat_join_bytes (a b c d : UInt8) :
    ((a.toUInt32 <<< 24) ||| (b.toUInt32 <<< 16) ||| (c.toUInt32 <<< 8) ||| d.toUInt32).toNat =
      beNat [a, b, c, d] := by
  have value : beNat [a, b, c, d] =
      a.toNat * 2 ^ 24 + (b.toNat * 2 ^ 16 + (c.toNat * 2 ^ 8 + d.toNat)) := by
    change leNat [d, c, b, a] = _
    simp only [leNat_cons, show leNat [] = 0 from rfl]
    omega
  rw [value, ← join_bytes _ _ _ _ b.toNat_lt c.toNat_lt d.toNat_lt]
  simp only [UInt32.toNat_or]
  rw [toNat_shift_byte a 24 (by decide), toNat_shift_byte b 16 (by decide), toNat_shift_byte c 8 (by decide),
    UInt8.toNat_toUInt32]
  simp only [UInt32.reduceToNat, Nat.or_assoc]

/-! ## Signed arithmetic -/

/-- The value of an `int` expression, which is undefined outside the range of
the type. -/
def checkedInt (value : Int) : Option Int :=
  if -2 ^ 31 ≤ value ∧ value < 2 ^ 31 then some value else none

theorem checkedInt_some {value : Int} (low : -2 ^ 31 ≤ value) (high : value < 2 ^ 31) :
    checkedInt value = some value :=
  if_pos ⟨low, high⟩

/-- The cast of a `size_t` to `int`. -/
def castInt (length : Nat) : Int :=
  ((length + 2 ^ 31) % 2 ^ 32 : Nat) - 2 ^ 31

theorem castInt_eq {length : Nat} (short : length < 2 ^ 31) : castInt length = length := by
  have same : (length + 2 ^ 31) % 2 ^ 32 = length + 2 ^ 31 := Nat.mod_eq_of_lt (by omega)
  rw [castInt, same]
  omega

theorem castInt_le (length : Nat) : castInt length ≤ length := by
  unfold castInt
  omega

theorem castInt_lt {length : Nat} (long : 2 ^ 31 ≤ length) : castInt length < length := by
  unfold castInt
  omega

theorem castInt_le_max (length : Nat) : castInt length < 2 ^ 31 := by
  unfold castInt
  omega

end DevKit

import DevKit.Foundation.CString
import DevKit.Foundation.Numeral

namespace DevKit
namespace Core

/-!
# Printed numbers

`Print` turns values into bytes, which go to a device one at a time.  The device
is a list of the bytes that it has taken, and it takes every byte.

The digits of a number are written from the end of a local buffer to its front.
The loop is a recursion over the free cells in front of the string, so a digit
without a cell has no meaning.
-/

/-- `write(uint8_t)` of the device. -/
def write (c : UInt8) (output : Bytes) : Nat × Bytes :=
  (1, output ++ [c])

/-- `write(buffer, size)` -/
def writeBuffer : (buffer output : Bytes) -> Nat × Bytes
  | [], output => (0, output)
  | c :: buffer, output =>
      let first := write c output
      let rest := writeBuffer buffer first.2
      (first.1 + rest.1, rest.2)

theorem writeBuffer_eq (buffer output : Bytes) : writeBuffer buffer output = (buffer.length, output ++ buffer) := by
  induction buffer generalizing output with
  | nil => rw [writeBuffer, List.append_nil, List.length_nil]
  | cons c buffer inductionHypothesis =>
      rw [writeBuffer, write, inductionHypothesis, List.append_assoc, List.length_cons, Nat.add_comm]
      rfl

/-- `write(str)` for a region that holds a string. -/
def writeString (str output : Bytes) : Option (Nat × Bytes) :=
  (strlen (some str)).map fun length => writeBuffer (str.take length) output

theorem writeString_eq {text : Bytes} (plain : 0 ∉ text) (rest output : Bytes) :
    writeString (text ++ 0 :: rest) output = some (text.length, output ++ text) := by
  have length : strlen (some (text ++ 0 :: rest)) = some text.length := Text.strlen_region ⟨text, rest, plain⟩
  rw [writeString, length, Option.map_some, List.take_left, writeBuffer_eq]

/-! ## Integers -/

/-- The character of a digit. -/
def digitChar (c : Nat) : UInt8 :=
  if c < 10 then UInt8.ofNat (c + 0x30) else UInt8.ofNat (c + 0x41 - 10)

/-- The loop of `printNumber`, with the cells in front of the string. -/
def printLoop (base : Nat) : (cells n : Nat) -> (str : Bytes) -> Option Bytes
  | 0, _, _ => none
  | cells + 1, m, str =>
      let n := m / base
      let c := m - base * n
      if n ≠ 0 then printLoop base cells n (digitChar c :: str) else some (digitChar c :: str)

/-- The buffer has 33 cells; the last is the terminator. -/
def printNumber (n base : Nat) (output : Bytes) : Option (Nat × Bytes) :=
  (printLoop (if base < 2 then 10 else base) 32 n [0]).bind fun str => writeString str output

/-- `print(unsigned long, int)` -/
def printUnsigned (n : Nat) (base : Int) (output : Bytes) : Option (Nat × Bytes) :=
  if base = 0 then some (write (UInt8.ofNat n) output)
  else printNumber n (base % 256).toNat output

/-- A `long` as an `unsigned long`. -/
def toUnsigned (value : Int) : Nat :=
  (value % 2 ^ 32).toNat

/-- `print(long, int)` -/
def printLong (n base : Int) (output : Bytes) : Option (Nat × Bytes) :=
  if base = 0 then some (write (UInt8.ofNat (toUnsigned n)) output)
  else if base = 10 then
    if n < 0 then do
      let t := write 0x2d output
      let negated <- checkedInt (-n)
      let rest <- printNumber (toUnsigned negated) 10 t.2
      some (rest.1 + t.1, rest.2)
    else printNumber (toUnsigned n) 10 output
  else printNumber (toUnsigned n) (base % 256).toNat output

/-! ## The numeral -/

/-- The text of a number in a base. -/
def numeral (base number : Nat) : Bytes :=
  (Numeral.digits base number).map digitChar

theorem digitChar_ne_zero {digit : Nat} (small : digit < 36) : digitChar digit ≠ 0 := by
  revert digit
  decide

theorem numeral_plain {base : Nat} (large : 1 < base) (small : base ≤ 36) (number : Nat) : 0 ∉ numeral base number := by
  intro zero
  rcases List.mem_map.mp zero with ⟨digit, member, same⟩
  exact digitChar_ne_zero (Nat.lt_of_lt_of_le (Numeral.digit_lt large member) small) same

/-- The loop writes the digits in front of the string, if there are cells for
them. -/
theorem printLoop_eq {base : Nat} (large : 1 < base) {cells n : Nat} (str : Bytes)
    (room : (Numeral.digits base n).length ≤ cells) :
    printLoop base cells n str = some (numeral base n ++ str) := by
  induction cells generalizing n str with
  | zero => exact absurd (List.length_eq_zero_iff.mp (Nat.le_zero.mp room)) (Numeral.digits_ne_nil base n)
  | succ cells inductionHypothesis =>
      have last : n - base * (n / base) = n % base := (Nat.mod_eq_sub n base).symm
      rw [printLoop, last]
      rcases Nat.lt_or_ge n base with small | high
      · have zero : n / base = 0 := Nat.div_eq_of_lt small
        rw [if_neg (fun some => some zero), Nat.mod_eq_of_lt small, numeral, Numeral.digits_of_lt small]
        rfl
      · have some : n / base ≠ 0 := Nat.ne_of_gt (Nat.div_pos high (by omega))
        have digits := Numeral.digits_of_le large high
        rw [digits, List.length_append, List.length_singleton] at room
        rw [if_pos some, inductionHypothesis _ (Nat.le_of_succ_le_succ room), numeral, numeral, digits, List.map_append,
          List.append_assoc]
        rfl

theorem printNumber_eq {base n : Nat} (large : 1 < base) (small : base ≤ 36) (long : n < 2 ^ 32) (output : Bytes) :
    printNumber n base output = some ((numeral base n).length, output ++ numeral base n) := by
  have within : n < base ^ 32 := Nat.lt_of_lt_of_le long (Nat.pow_le_pow_left large 32)
  rw [printNumber, if_neg (by omega), printLoop_eq large [0] (Numeral.length_digits_le large (by decide) within),
    Option.bind_some]
  exact writeString_eq (numeral_plain large small n) [] output

theorem printUnsigned_eq {base n : Nat} (large : 1 < base) (small : base ≤ 36) (long : n < 2 ^ 32) (output : Bytes) :
    printUnsigned n base output = some ((numeral base n).length, output ++ numeral base n) := by
  have kept : ((base : Int) % 256).toNat = base := by omega
  rw [printUnsigned, if_neg (by omega), kept, printNumber_eq large small long]

/-- A number that is not the most negative one is printed with its sign. -/
theorem printLong_ten {n : Int} (low : -2 ^ 31 < n) (high : n < 2 ^ 31) (output : Bytes) :
    printLong n 10 output =
      some ((if n < 0 then 0x2d :: numeral 10 n.natAbs else numeral 10 n.natAbs).length,
        output ++ if n < 0 then 0x2d :: numeral 10 n.natAbs else numeral 10 n.natAbs) := by
  have small : n.natAbs < 2 ^ 32 := by omega
  unfold printLong
  rw [if_neg (by decide), if_pos rfl]
  by_cases negative : n < 0
  · have negated : checkedInt (-n) = some (-n) := checkedInt_some (by omega) (by omega)
    have value : toUnsigned (-n) = n.natAbs := by
      unfold toUnsigned
      omega
    have printed := printNumber_eq (by decide : 1 < 10) (by decide) small (output ++ [0x2d])
    simp only [if_pos negative, negated, value, write, printed, Option.bind_eq_bind, Option.bind_some, List.length_cons,
      List.append_assoc, List.singleton_append]
  · have value : toUnsigned n = n.natAbs := by
      unfold toUnsigned
      omega
    rw [if_neg negative, if_neg negative, value, printNumber_eq (by decide) (by decide) small]

end Core
end DevKit

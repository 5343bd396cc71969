import Mathlib.Data.Nat.Digits.Lemmas

namespace DevKit
namespace Numeral

/-!
# Numerals

The numeral of a number in a base, without superfluous zeros: its digits from the
highest to the lowest.  A loop that divides writes them from the end, and a loop
that multiplies reads them from the front.
-/

/-- The digits of a number, the highest first; zero has one digit. -/
def digits (base number : Nat) : List Nat :=
  if number = 0 then [0] else (Nat.digits base number).reverse

/-- The number that digits denote behind a number that has been read. -/
def continued (base start : Nat) (digits : List Nat) : Nat :=
  digits.foldl (fun number digit => number * base + digit) start

variable {base number : Nat}

theorem digits_of_lt (small : number < base) : digits base number = [number] := by
  unfold digits
  by_cases zero : number = 0
  · rw [if_pos zero, zero]
  · rw [if_neg zero, Nat.digits_of_lt base number zero small]
    rfl

/-- The last digit is the remainder. -/
theorem digits_of_le (large : 1 < base) (high : base ≤ number) :
    digits base number = digits base (number / base) ++ [number % base] := by
  have positive : 0 < number := by omega
  have quotient : 0 < number / base := Nat.div_pos high (by omega)
  unfold digits
  rw [if_neg (by omega), if_neg (by omega), Nat.digits_def' large positive, List.reverse_cons]

theorem digit_lt (large : 1 < base) {digit : Nat} (member : digit ∈ digits base number) : digit < base := by
  unfold digits at member
  split at member
  · rw [List.mem_singleton] at member
    omega
  · exact Nat.digits_lt_base large (List.mem_reverse.mp member)

theorem digits_ne_nil (base number : Nat) : digits base number ≠ [] := by
  unfold digits
  split
  · exact List.cons_ne_nil _ _
  · rename_i nonzero
    rw [Ne, List.reverse_eq_nil_iff, Nat.digits_eq_nil_iff_eq_zero]
    exact nonzero

theorem le_continued (positive : 0 < base) (start : Nat) (digits : List Nat) : start ≤ continued base start digits := by
  induction digits generalizing start with
  | nil => exact Nat.le_refl start
  | cons digit digits inductionHypothesis =>
      calc start ≤ start * base := Nat.le_mul_of_pos_right start positive
        _ ≤ start * base + digit := Nat.le_add_right _ _
        _ ≤ continued base start (digit :: digits) := inductionHypothesis _

/-- Reading the digits gives the number back. -/
theorem continued_digits (large : 1 < base) (number : Nat) : continued base 0 (digits base number) = number := by
  induction number using Nat.strongRecOn with
  | ind number inductionHypothesis =>
      rcases Nat.lt_or_ge number base with small | high
      · rw [digits_of_lt small, continued, List.foldl_cons, List.foldl_nil, Nat.zero_mul, Nat.zero_add]
      · have less : number / base < number := Nat.div_lt_self (by omega) large
        have rest := inductionHypothesis (number / base) less
        unfold continued at rest ⊢
        rw [digits_of_le large high, List.foldl_append, rest, List.foldl_cons, List.foldl_nil]
        exact Nat.div_add_mod' number base

theorem length_digits_le (large : 1 < base) {count : Nat} (some : 0 < count) (small : number < base ^ count) :
    (digits base number).length ≤ count := by
  unfold digits
  split
  · exact some
  · rw [List.length_reverse]
    exact (Nat.digits_length_le_iff large number).mpr small

end Numeral
end DevKit

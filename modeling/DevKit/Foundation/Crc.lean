import Mathlib

namespace DevKit
namespace Crc

open Polynomial

/-!
# Shift registers as polynomials

The bits of a register are the coefficients of a polynomial over the field with two
elements, the lowest bit first.  A shift register with feedback multiplies by `X`
modulo a generator whose leading coefficient is the bit that leaves the register and
whose other coefficients are the feedback.

Everything is about registers of any width and any feedback.
-/

variable {width : Nat}

/-- The polynomial of a register. -/
noncomputable def poly (word : BitVec width) : (ZMod 2)[X] :=
  ∑ place ∈ Finset.range width, if word.getLsbD place then X ^ place else 0

/-- The generator that belongs to a feedback. -/
noncomputable def generator (feedback : BitVec width) : (ZMod 2)[X] :=
  X ^ width + poly feedback

/-- One step of a register. -/
def shift (feedback word : BitVec width) : BitVec width :=
  if word.msb then (word <<< 1) ^^^ feedback else word <<< 1

/-- The polynomial of a sequence of bits, the highest coefficient first. -/
noncomputable def bitsPoly (bits : List Bool) : (ZMod 2)[X] :=
  bits.foldl (fun sum bit => sum * X + if bit then 1 else 0) 0

theorem add_self (polynomial : (ZMod 2)[X]) : polynomial + polynomial = 0 :=
  CharTwo.add_self_eq_zero polynomial

/-! ## Registers -/

theorem coeff_poly (word : BitVec width) (place : Nat) :
    (poly word).coeff place = if word.getLsbD place then 1 else 0 := by
  have term (other : Nat) : (if word.getLsbD other then X ^ other else (0 : (ZMod 2)[X])).coeff place =
      if place = other then (if word.getLsbD place then 1 else 0) else 0 := by
    by_cases same : place = other
    · subst same
      rw [if_pos rfl]
      split
      · rw [coeff_X_pow, if_pos rfl]
      · rw [coeff_zero]
    · rw [if_neg same]
      split
      · rw [coeff_X_pow, if_neg same]
      · rw [coeff_zero]
  rw [poly, finsetSum_coeff]
  simp only [term, Finset.sum_ite_eq, Finset.mem_range]
  split
  · rfl
  next outside => rw [BitVec.getLsbD_of_ge word place (Nat.le_of_not_lt outside), if_neg Bool.false_ne_true]

/-- A register is known by its polynomial. -/
theorem poly_injective {one two : BitVec width} (same : poly one = poly two) : one = two := by
  apply BitVec.eq_of_getLsbD_eq
  intro place _
  have equal := congrArg (fun polynomial => polynomial.coeff place) same
  simp only [coeff_poly] at equal
  cases first : one.getLsbD place <;> cases second : two.getLsbD place <;> simp [first, second] at equal ⊢

theorem degree_poly_lt (word : BitVec width) : (poly word).degree < width := by
  rw [degree_lt_iff_coeff_zero]
  intro place outside
  rw [coeff_poly, BitVec.getLsbD_of_ge word place outside, if_neg Bool.false_ne_true]

theorem generator_monic (feedback : BitVec width) : (generator feedback).Monic :=
  monic_X_pow_add (degree_poly_lt feedback)

theorem degree_generator (feedback : BitVec width) : (generator feedback).degree = width := by
  rw [generator, degree_add_eq_left_of_degree_lt, degree_X_pow]
  rw [degree_X_pow]
  exact degree_poly_lt feedback

theorem poly_xor (one two : BitVec width) : poly (one ^^^ two) = poly one + poly two := by
  rw [poly, poly, poly, ← Finset.sum_add_distrib]
  apply Finset.sum_congr rfl
  intro place _
  rw [BitVec.getLsbD_xor]
  cases one.getLsbD place <;> cases two.getLsbD place <;> simp [add_self]

theorem poly_zero : poly (BitVec.ofNat width 0) = 0 := by
  rw [poly]
  apply Finset.sum_eq_zero
  intro place _
  rw [BitVec.getLsbD_zero, if_neg Bool.false_ne_true]

/-- A word in the upper part of a register. -/
theorem poly_append_zero {high low : Nat} (word : BitVec high) :
    poly (word ++ BitVec.ofNat low 0) = poly word * X ^ low := by
  ext place
  rw [coeff_mul_X_pow', coeff_poly, BitVec.getLsbD_append]
  rcases Nat.lt_or_ge place low with below | above
  · rw [if_neg (Nat.not_le.mpr below)]
    simp [below]
  · rw [if_pos above, coeff_poly]
    simp [Nat.not_lt.mpr above]

/-- A bit that leaves the register is the coefficient at its width. -/
theorem poly_shiftLeft_one (word : BitVec width) :
    X * poly word = poly (word <<< 1) + if word.msb then X ^ width else 0 := by
  ext place
  have top : (if word.msb then X ^ width else (0 : (ZMod 2)[X])).coeff place =
      if place = width ∧ word.msb = true then 1 else 0 := by
    by_cases msb : word.msb = true
    · rw [if_pos msb, coeff_X_pow]
      simp [msb]
    · rw [if_neg msb, coeff_zero, if_neg fun both => msb both.2]
  rw [coeff_add, coeff_poly, top, BitVec.getLsbD_shiftLeft]
  cases place with
  | zero =>
      rw [mul_comm, coeff_mul_X_zero]
      cases width with
      | zero => simp [BitVec.of_length_zero]
      | succ width => simp
  | succ place =>
      rw [mul_comm, coeff_mul_X, coeff_poly, BitVec.msb_eq_getLsbD_last]
      rcases Nat.lt_trichotomy (place + 1) width with inside | last | outside
      · simp [inside, Nat.ne_of_lt inside]
      · subst last
        simp
      · have past : width ≤ place := Nat.lt_succ_iff.mp outside
        simp [BitVec.getLsbD_of_ge word place past, Nat.not_lt.mpr (Nat.le_of_lt outside), Nat.ne_of_gt outside]

/-- A step multiplies by `X`, up to the generator. -/
theorem poly_shift (feedback word : BitVec width) :
    X * poly word = poly (shift feedback word) + if word.msb then generator feedback else 0 := by
  rw [poly_shiftLeft_one, shift]
  by_cases msb : word.msb = true
  · rw [if_pos msb, if_pos msb, if_pos msb, poly_xor, generator]
    calc poly (word <<< 1) + X ^ width
        = poly (word <<< 1) + X ^ width + (poly feedback + poly feedback) := by rw [add_self, add_zero]
      _ = poly (word <<< 1) + poly feedback + (X ^ width + poly feedback) := by ring
  · rw [if_neg msb, if_neg msb, if_neg msb]

/-! ## Sequences of bits -/

theorem bitsPoly_append (front back : List Bool) :
    bitsPoly (front ++ back) = bitsPoly front * X ^ back.length + bitsPoly back := by
  have general (sum : (ZMod 2)[X]) : back.foldl (fun sum bit => sum * X + if bit then 1 else 0) sum =
      sum * X ^ back.length + bitsPoly back := by
    induction back using List.reverseRecOn with
    | nil => simp [bitsPoly]
    | append_singleton back bit inductionHypothesis =>
        unfold bitsPoly at inductionHypothesis ⊢
        rw [List.foldl_append, List.foldl_append, inductionHypothesis, List.length_append, List.length_singleton,
          pow_succ]
        simp only [List.foldl_cons, List.foldl_nil]
        ring
  unfold bitsPoly at general ⊢
  rw [List.foldl_append, general]

/-- The bits of a register, the highest first. -/
def bitsOf (word : BitVec width) : List Bool :=
  (List.range width).map word.getMsbD

theorem length_bitsOf (word : BitVec width) : (bitsOf word).length = width := by
  rw [bitsOf, List.length_map, List.length_range]

/-- The first bits are the highest ones. -/
theorem bitsPoly_take (word : BitVec width) {count : Nat} (inside : count ≤ width) :
    bitsPoly ((List.range count).map word.getMsbD) =
      ∑ place ∈ Finset.range count, if word.getMsbD (count - 1 - place) then X ^ place else 0 := by
  induction count with
  | zero => rfl
  | succ count inductionHypothesis =>
      rw [List.range_succ, List.map_append, bitsPoly_append, inductionHypothesis (Nat.le_of_succ_le inside),
        Finset.sum_range_succ', Finset.sum_mul]
      congr 1
      · apply Finset.sum_congr rfl
        intro place member
        have shifted : count + 1 - 1 - (place + 1) = count - 1 - place := by omega
        rw [shifted, List.map_singleton, List.length_singleton, pow_one]
        split
        · rw [pow_succ]
        · rw [zero_mul]
      · simp [bitsPoly]

theorem bitsPoly_bitsOf (word : BitVec width) : bitsPoly (bitsOf word) = poly word := by
  rw [bitsOf, bitsPoly_take word (Nat.le_refl width), poly]
  apply Finset.sum_congr rfl
  intro place member
  have inside := Finset.mem_range.mp member
  have same : word.getMsbD (width - 1 - place) = word.getLsbD place := by
    have first : width - 1 - place < width := by omega
    have second : width - 1 - (width - 1 - place) = place := by omega
    rw [BitVec.getMsbD, decide_eq_true first, Bool.true_and, second]
  rw [same]

/-! ## Residues -/

theorem dvd_shift (feedback word : BitVec width) :
    generator feedback ∣ X * poly word - poly (shift feedback word) := by
  rw [poly_shift feedback word, add_sub_cancel_left]
  split
  · exact dvd_refl _
  · exact dvd_zero _

theorem dvd_iterate (feedback word : BitVec width) (count : Nat) :
    generator feedback ∣ X ^ count * poly word - poly ((shift feedback)^[count] word) := by
  induction count with
  | zero =>
      rw [pow_zero, one_mul, Function.iterate_zero, id, sub_self]
      exact dvd_zero _
  | succ count inductionHypothesis =>
      rw [Function.iterate_succ_apply']
      have step := dvd_shift feedback ((shift feedback)^[count] word)
      have split : X ^ (count + 1) * poly word - poly (shift feedback ((shift feedback)^[count] word)) =
          X * (X ^ count * poly word - poly ((shift feedback)^[count] word)) +
            (X * poly ((shift feedback)^[count] word) - poly (shift feedback ((shift feedback)^[count] word))) := by
        ring
      rw [split]
      exact dvd_add (Dvd.dvd.mul_left inductionHypothesis X) step

/-- A register that is congruent to a polynomial is its residue. -/
theorem poly_eq_modByMonic {feedback word : BitVec width} {polynomial : (ZMod 2)[X]}
    (congruent : generator feedback ∣ polynomial - poly word) : poly word = polynomial %ₘ generator feedback := by
  rw [modByMonic_eq_of_dvd_sub (generator_monic feedback) congruent]
  symm
  rw [modByMonic_eq_self_iff (generator_monic feedback), degree_generator]
  exact degree_poly_lt word

end Crc
end DevKit

import DevKit.Foundation.Crc
import DevKit.Ota.Digest

namespace DevKit
namespace Ota

open Polynomial

/-!
# The checksum of an image

`crc16Update` is a shift register of sixteen bits with the feedback `0x1021`.  From
zero on it has the residue of the message, multiplied by `X ^ 16`, modulo the generator
`X ^ 16 + X ^ 12 + X ^ 5 + 1`.  How the message is cut into blocks has no influence.
-/

/-- The feedback of the register. -/
def feedback : BitVec 16 := 0x1021

/-- The bits of a message, the highest bit of each byte first. -/
def messageBits (data : Bytes) : List Bool :=
  data.flatMap fun byte => Crc.bitsOf byte.toBitVec

/-- The polynomial of a message. -/
noncomputable def messagePoly (data : Bytes) : (ZMod 2)[X] :=
  Crc.bitsPoly (messageBits data)

theorem generator_feedback : Crc.generator feedback = X ^ 16 + X ^ 12 + X ^ 5 + 1 := by
  have low : Crc.poly feedback = 1 + X ^ 5 + X ^ 12 := by
    simp [Crc.poly, feedback, Finset.sum_range_succ]
  rw [Crc.generator, low]
  ring

/-! ## The register -/

/-- The bit that is tested is the highest one. -/
theorem and_top_ne_zero_iff (crc : UInt16) : crc &&& 0x8000 ≠ 0 <-> crc.toBitVec.msb = true := by
  have top : (crc &&& 0x8000).toBitVec = if crc.toBitVec.getLsbD 15 then BitVec.twoPow 16 15 else 0#16 := by
    rw [UInt16.toBitVec_and]
    exact BitVec.and_twoPow crc.toBitVec 15
  rw [BitVec.msb_eq_getLsbD_last, Ne, ← UInt16.toBitVec_inj, top]
  cases crc.toBitVec.getLsbD (16 - 1) <;> decide

theorem crc16Step_toBitVec (crc : UInt16) : (crc16Step crc).toBitVec = Crc.shift feedback crc.toBitVec := by
  unfold crc16Step Crc.shift
  by_cases top : crc &&& 0x8000 ≠ 0
  · rw [if_pos top, if_pos ((and_top_ne_zero_iff crc).mp top)]
    rfl
  · rw [if_neg top, if_neg fun msb => top ((and_top_ne_zero_iff crc).mpr msb)]
    rfl

/-- A byte enters at the upper end. -/
theorem upper_toBitVec (byte : UInt8) : (byte.toUInt16 <<< 8).toBitVec = byte.toBitVec ++ 0#8 := by
  have less := byte.toNat_lt
  have left : (byte.toUInt16 <<< 8).toBitVec.toNat = byte.toNat * 256 % 65536 := by
    change (byte.toUInt16 <<< 8).toNat = _
    rw [UInt16.toNat_shiftLeft]
    simp [Nat.shiftLeft_eq]
  have right : (byte.toBitVec ++ 0#8).toNat = byte.toNat * 256 := by
    rw [BitVec.toNat_append, BitVec.toNat_ofNat, Nat.shiftLeft_eq]
    simp
  apply BitVec.eq_of_toNat_eq
  rw [left, right]
  omega

theorem crc16Byte_eq (crc : UInt16) (byte : UInt8) :
    (crc16Byte crc byte).toBitVec = (Crc.shift feedback)^[8] (crc.toBitVec ^^^ (byte.toBitVec ++ 0#8)) := by
  have start : (crc ^^^ (byte.toUInt16 <<< 8)).toBitVec = crc.toBitVec ^^^ (byte.toBitVec ++ 0#8) := by
    rw [UInt16.toBitVec_xor, upper_toBitVec]
  have steps (count : Nat) (crc : UInt16) :
      ((List.range count).foldl (fun crc _ => crc16Step crc) crc).toBitVec =
        (Crc.shift feedback)^[count] crc.toBitVec := by
    induction count with
    | zero => rfl
    | succ count inductionHypothesis =>
        rw [List.range_succ, List.foldl_append, List.foldl_cons, List.foldl_nil, crc16Step_toBitVec,
          inductionHypothesis, Function.iterate_succ_apply']
  rw [← start, ← steps]
  rfl

theorem messagePoly_concat (data : Bytes) (byte : UInt8) :
    messagePoly (data ++ [byte]) = messagePoly data * X ^ 8 + Crc.poly byte.toBitVec := by
  have bits : messageBits (data ++ [byte]) = messageBits data ++ Crc.bitsOf byte.toBitVec := by
    rw [messageBits, List.flatMap_append, List.flatMap_singleton]
    rfl
  rw [messagePoly, bits, Crc.bitsPoly_append, Crc.length_bitsOf, Crc.bitsPoly_bitsOf]
  rfl

/-- The register is congruent to what has been read. -/
theorem dvd_crc16Update (data : Bytes) :
    Crc.generator feedback ∣ messagePoly data * X ^ 16 - Crc.poly (crc16Update 0 data).toBitVec := by
  induction data using List.reverseRecOn with
  | nil =>
      have start : Crc.poly (crc16Update 0 []).toBitVec = 0 := Crc.poly_zero
      have empty : messagePoly [] = 0 := rfl
      rw [start, empty, zero_mul, sub_self]
      exact dvd_zero _
  | append_singleton data byte inductionHypothesis =>
      have last : crc16Update 0 (data ++ [byte]) = crc16Byte (crc16Update 0 data) byte := by
        rw [crc16Update_append]
        rfl
      have steps := Crc.dvd_iterate feedback ((crc16Update 0 data).toBitVec ^^^ (byte.toBitVec ++ 0#8)) 8
      rw [Crc.poly_xor, Crc.poly_append_zero] at steps
      have split : messagePoly (data ++ [byte]) * X ^ 16 - Crc.poly (crc16Update 0 (data ++ [byte])).toBitVec =
          X ^ 8 * (messagePoly data * X ^ 16 - Crc.poly (crc16Update 0 data).toBitVec) +
            (X ^ 8 * (Crc.poly (crc16Update 0 data).toBitVec + Crc.poly byte.toBitVec * X ^ 8) -
              Crc.poly (crc16Update 0 (data ++ [byte])).toBitVec) := by
        rw [messagePoly_concat]
        ring
      rw [split, last, crc16Byte_eq]
      exact dvd_add (Dvd.dvd.mul_left inductionHypothesis _) steps

theorem foldl_crc16Update (crc : UInt16) (chunks : List Bytes) :
    chunks.foldl crc16Update crc = crc16Update crc chunks.flatten := by
  induction chunks generalizing crc with
  | nil => rfl
  | cons chunk chunks inductionHypothesis =>
      rw [List.foldl_cons, inductionHypothesis, List.flatten_cons, crc16Update_append]

/-- The residue of a message. -/
noncomputable def residue (data : Bytes) : (ZMod 2)[X] :=
  (messagePoly data * X ^ 16) %ₘ (X ^ 16 + X ^ 12 + X ^ 5 + 1)

theorem poly_crc16Update (data : Bytes) : Crc.poly (crc16Update 0 data).toBitVec = residue data := by
  rw [residue, ← generator_feedback]
  exact Crc.poly_eq_modByMonic (dvd_crc16Update data)

/-- The checksum of a message in any blocks is its residue, and two checksums are equal
exactly if the residues are. -/
theorem crc16_residue (chunks : List Bytes) :
    Crc.poly (chunks.foldl crc16Update 0).toBitVec = residue chunks.flatten ∧
    forall others : List Bytes, chunks.foldl crc16Update 0 = others.foldl crc16Update 0 <->
      residue chunks.flatten = residue others.flatten := by
  rw [foldl_crc16Update]
  refine ⟨poly_crc16Update _, fun others => ?_⟩
  rw [foldl_crc16Update, ← poly_crc16Update, ← poly_crc16Update]
  constructor
  · intro same
    rw [same]
  · intro same
    exact UInt16.toBitVec_inj.mp (Crc.poly_injective same)

end Ota
end DevKit

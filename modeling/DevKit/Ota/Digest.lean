import DevKit.Foundation.Sha256

namespace DevKit
namespace Ota

/-!
# The staging engine's digests

The incremental SHA-256 and CRC-16 of `OTAStaging.cpp`.  The context keeps the
chaining words, the 64-bit bit count and one block buffer; its fill level is
below 64 between calls, which the structure carries as a field, because the
update loop would not make progress on a full buffer.

`sha256Update_eq_foldl` reduces the buffered update to a byte-by-byte fold of
the whole context, stale buffer bytes included, so feeding a stream does not
depend on how it is cut.  `sha256Finish_stream` then identifies the final
digest with the standard's function.
-/

open Sha256 (Words)

def rotateRight (value count : UInt32) : UInt32 :=
  (value >>> count) ||| (value <<< (32 - count))

def readBigEndian32 (bytes : Bytes) : UInt32 :=
  ((bytes.getD 0 0).toUInt32 <<< 24) ||| ((bytes.getD 1 0).toUInt32 <<< 16) |||
    ((bytes.getD 2 0).toUInt32 <<< 8) ||| (bytes.getD 3 0).toUInt32

def readLittleEndian32 (bytes : Bytes) : UInt32 :=
  (bytes.getD 0 0).toUInt32 ||| ((bytes.getD 1 0).toUInt32 <<< 8) |||
    ((bytes.getD 2 0).toUInt32 <<< 16) ||| ((bytes.getD 3 0).toUInt32 <<< 24)

def readLittleEndian16 (bytes : Bytes) : UInt16 :=
  (bytes.getD 0 0).toUInt16 ||| ((bytes.getD 1 0).toUInt16 <<< 8)

/-- The `constants` table of `sha256Transform`. -/
def constants : List UInt32 :=
  [0x428A2F98, 0x71374491, 0xB5C0FBCF, 0xE9B5DBA5, 0x3956C25B, 0x59F111F1, 0x923F82A4, 0xAB1C5ED5,
    0xD807AA98, 0x12835B01, 0x243185BE, 0x550C7DC3, 0x72BE5D74, 0x80DEB1FE, 0x9BDC06A7, 0xC19BF174,
    0xE49B69C1, 0xEFBE4786, 0x0FC19DC6, 0x240CA1CC, 0x2DE92C6F, 0x4A7484AA, 0x5CB0A9DC, 0x76F988DA,
    0x983E5152, 0xA831C66D, 0xB00327C8, 0xBF597FC7, 0xC6E00BF3, 0xD5A79147, 0x06CA6351, 0x14292967,
    0x27B70A85, 0x2E1B2138, 0x4D2C6DFC, 0x53380D13, 0x650A7354, 0x766A0ABB, 0x81C2C92E, 0x92722C85,
    0xA2BFE8A1, 0xA81A664B, 0xC24B8B70, 0xC76C51A3, 0xD192E819, 0xD6990624, 0xF40E3585, 0x106AA070,
    0x19A4C116, 0x1E376C08, 0x2748774C, 0x34B0BCB5, 0x391C0CB3, 0x4ED8AA4A, 0x5B9CCA4F, 0x682E6FF3,
    0x748F82EE, 0x78A5636F, 0x84C87814, 0x8CC70208, 0x90BEFFFA, 0xA4506CEB, 0xBEF9A3F7, 0xC67178F2]

/-- One step of the schedule loop `for (i = 16; i < 64; ++i)`. -/
def extendWords (words : List UInt32) (i : Nat) : List UInt32 :=
  let s0 := rotateRight (words.getD (i - 15) 0) 7 ^^^ rotateRight (words.getD (i - 15) 0) 18 ^^^
    (words.getD (i - 15) 0 >>> 3)
  let s1 := rotateRight (words.getD (i - 2) 0) 17 ^^^ rotateRight (words.getD (i - 2) 0) 19 ^^^
    (words.getD (i - 2) 0 >>> 10)
  words ++ [words.getD (i - 16) 0 + s0 + words.getD (i - 7) 0 + s1]

/-- The array `words` of `sha256Transform` after both filling loops. -/
def transformWords (block : Bytes) : List UInt32 :=
  (List.range' 16 48).foldl extendWords
    ((List.range 16).map fun i => readBigEndian32 (block.drop (i * 4)))

/-- The body of the round loop of `sha256Transform`. -/
def transformRound (words : List UInt32) (v : Words) (i : Nat) : Words :=
  let sum1 := rotateRight v.e 6 ^^^ rotateRight v.e 11 ^^^ rotateRight v.e 25
  let choice := (v.e &&& v.f) ^^^ (~~~v.e &&& v.g)
  let temp1 := v.h + sum1 + choice + constants.getD i 0 + words.getD i 0
  let sum0 := rotateRight v.a 2 ^^^ rotateRight v.a 13 ^^^ rotateRight v.a 22
  let majority := (v.a &&& v.b) ^^^ (v.a &&& v.c) ^^^ (v.b &&& v.c)
  let temp2 := sum0 + majority
  ⟨temp1 + temp2, v.a, v.b, v.c, v.d + temp1, v.e, v.f, v.g⟩

def sha256Transform (state : Words) (block : Bytes) : Words :=
  let v := (List.range 64).foldl (transformRound (transformWords block)) state
  ⟨state.a + v.a, state.b + v.b, state.c + v.c, state.d + v.d,
    state.e + v.e, state.f + v.f, state.g + v.g, state.h + v.h⟩

@[ext]
structure Sha256Context where
  state : Words
  bitCount : UInt64
  block : Buffer 64
  blockSize : Nat
  blockSize_lt : blockSize < 64
deriving DecidableEq

/-- The block buffer is left uninitialised by the source; a session's context
lies in a zeroed record. -/
def sha256Init : Sha256Context where
  state := ⟨0x6A09E667, 0xBB67AE85, 0x3C6EF372, 0xA54FF53A,
    0x510E527F, 0x9B05688C, 0x1F83D9AB, 0x5BE0CD19⟩
  bitCount := 0
  block := Buffer.zero 64
  blockSize := 0
  blockSize_lt := by decide

def sha256Update (context : Sha256Context) (data : Bytes) : Sha256Context :=
  if data.length = 0 then context
  else
    let available := 64 - context.blockSize
    let copied := if data.length < available then data.length else available
    let block := context.block.memcpy context.blockSize (data.take copied)
    let bitCount := context.bitCount + UInt64.ofNat copied * 8
    if full : context.blockSize + copied = 64 then
      sha256Update ⟨sha256Transform context.state block.bytes, bitCount, block, 0, by decide⟩
        (data.drop copied)
    else
      sha256Update ⟨context.state, bitCount, block, context.blockSize + copied, by
        have := context.blockSize_lt
        have : copied ≤ available := by
          change (if data.length < available then data.length else available) ≤ available
          split <;> omega
        omega⟩ (data.drop copied)
termination_by data.length
decreasing_by
  all_goals
    have := context.blockSize_lt
    rw [List.length_drop]
    split <;> omega

/-- The digest is eight big-endian words. -/
def digestBytes (state : Words) : Bytes :=
  [state.a, state.b, state.c, state.d, state.e, state.f, state.g, state.h].flatMap fun (word : UInt32) =>
    [(word >>> 24).toUInt8, (word >>> 16).toUInt8, (word >>> 8).toUInt8, word.toUInt8]

def sha256Finish (context : Sha256Context) : Bytes :=
  let bitCount := context.bitCount
  let block := context.block.memcpy context.blockSize [0x80]
  let blockSize := context.blockSize + 1
  let (state, block, blockSize) :=
    if blockSize > 56 then
      let block := block.memcpy blockSize (List.replicate (64 - blockSize) 0)
      (sha256Transform context.state block.bytes, block, 0)
    else (context.state, block, blockSize)
  let block := block.memcpy blockSize (List.replicate (56 - blockSize) 0)
  let block := (List.range 8).foldl
    (fun block i => block.memcpy (63 - i) [(bitCount >>> UInt64.ofNat (i * 8)).toUInt8]) block
  digestBytes (sha256Transform state block.bytes)

def sha256 (data : Bytes) : Bytes :=
  sha256Finish (sha256Update sha256Init data)

/-- One round of the loop over the bits. -/
def crc16Step (crc : UInt16) : UInt16 :=
  if crc &&& 0x8000 ≠ 0 then (crc <<< 1) ^^^ 0x1021 else crc <<< 1

/-- The eight shift steps of `crc16Update` for one byte. -/
def crc16Byte (crc : UInt16) (byte : UInt8) : UInt16 :=
  (List.range 8).foldl (fun crc _ => crc16Step crc) (crc ^^^ (byte.toUInt16 <<< 8))

def crc16Update (crc : UInt16) (data : Bytes) : UInt16 :=
  data.foldl crc16Byte crc

theorem crc16Update_append (crc : UInt16) (first second : Bytes) :
    crc16Update crc (first ++ second) = crc16Update (crc16Update crc first) second :=
  List.foldl_append

example : crc16Update 0 [0x31, 0x32, 0x33, 0x34, 0x35, 0x36, 0x37, 0x38, 0x39] = 0x31C3 := by
  decide +kernel

/-! ## Reading integers -/

theorem readBigEndian32_cons (a b c d : UInt8) (rest : Bytes) :
    (readBigEndian32 (a :: b :: c :: d :: rest)).toNat = beNat [a, b, c, d] := by
  simp only [readBigEndian32, List.getD_cons_zero, List.getD_cons_succ]
  exact toNat_join_bytes a b c d

theorem readLittleEndian32_cons (a b c d : UInt8) (rest : Bytes) :
    (readLittleEndian32 (a :: b :: c :: d :: rest)).toNat = leNat [a, b, c, d] := by
  have value : leNat [a, b, c, d] =
      d.toNat * 2 ^ 24 + (c.toNat * 2 ^ 16 + (b.toNat * 2 ^ 8 + a.toNat)) := by
    simp only [leNat_cons, show leNat [] = 0 from rfl]
    omega
  rw [value, ← join_bytes _ _ _ _ c.toNat_lt b.toNat_lt a.toNat_lt]
  simp only [readLittleEndian32, List.getD_cons_zero, List.getD_cons_succ, UInt32.toNat_or]
  rw [toNat_shift_byte d 24 (by decide), toNat_shift_byte c 16 (by decide),
    toNat_shift_byte b 8 (by decide), UInt8.toNat_toUInt32]
  simp only [UInt32.reduceToNat]
  rw [Nat.or_comm, Nat.or_comm _ (c.toNat <<< 16), Nat.or_comm a.toNat]

theorem readLittleEndian16_cons (a b : UInt8) (rest : Bytes) :
    (readLittleEndian16 (a :: b :: rest)).toNat = leNat [a, b] := by
  have value : leNat [a, b] = b.toNat <<< 8 ||| a.toNat := by
    simp only [leNat_cons, show leNat [] = 0 from rfl]
    rw [← Nat.shiftLeft_add_eq_or_of_lt (show a.toNat < 2 ^ 8 from a.toNat_lt) b.toNat,
      Nat.shiftLeft_eq]
    omega
  have bound := b.toNat_lt
  have shifted : (b.toUInt16 <<< 8).toNat = b.toNat <<< 8 := by
    rw [UInt16.toNat_shiftLeft, UInt8.toNat_toUInt16]
    simp only [UInt16.reduceToNat, Nat.shiftLeft_eq, Nat.reduceMod, Nat.reducePow]
    omega
  rw [value]
  simp only [readLittleEndian16, List.getD_cons_zero, List.getD_cons_succ, UInt16.toNat_or, shifted,
    UInt8.toNat_toUInt16]
  rw [Nat.or_comm]

theorem readBigEndian32_eq (bytes : Bytes) (long : 4 ≤ bytes.length) :
    readBigEndian32 bytes = UInt32.ofNat (beNat (bytes.take 4)) := by
  match bytes, long with
  | a :: b :: c :: d :: rest, _ =>
      have value := readBigEndian32_cons a b c d rest
      rw [show (a :: b :: c :: d :: rest).take 4 = [a, b, c, d] from rfl, ← value, UInt32.ofNat_toNat]

/-- A little-endian word of the source is the positional value of its bytes. -/
theorem readLittleEndian32_toNat (bytes : Bytes) (long : 4 ≤ bytes.length) :
    (readLittleEndian32 bytes).toNat = leNat (bytes.take 4) := by
  match bytes, long with
  | a :: b :: c :: d :: rest, _ => exact readLittleEndian32_cons a b c d rest

theorem readLittleEndian16_toNat (bytes : Bytes) (long : 2 ≤ bytes.length) :
    (readLittleEndian16 bytes).toNat = leNat (bytes.take 2) := by
  match bytes, long with
  | a :: b :: rest, _ => exact readLittleEndian16_cons a b rest

/-! ## The compression function -/

theorem constants_eq : constants = Sha256.roundConstants := by
  decide +kernel

theorem sha256Init_state : sha256Init.state = Sha256.initialValue := by
  decide +kernel

/-- The array that the two filling loops build holds the schedule. -/
theorem foldl_extendWords (message : Nat -> UInt32) (count : Nat) :
    (List.range' 16 count).foldl extendWords ((List.range 16).map message) =
      (List.range (16 + count)).map (Sha256.schedule message) := by
  induction count with
  | zero =>
      apply List.map_congr_left
      intro i member
      exact (Sha256.schedule_of_lt message i (List.mem_range.mp member)).symm
  | succ count inductionHypothesis =>
      rw [List.range'_concat, List.foldl_append, inductionHypothesis]
      have entry : forall i, i < 16 + count ->
          ((List.range (16 + count)).map (Sha256.schedule message)).getD i 0 =
            Sha256.schedule message i := by
        intro i within
        simp only [List.getD_eq_getElem?_getD, List.getElem?_map, List.getElem?_range within,
          Option.map_some, Option.getD_some]
      simp only [List.foldl_cons, List.foldl_nil, extendWords, Nat.one_mul]
      rw [entry (16 + count - 15) (by omega), entry (16 + count - 2) (by omega),
        entry (16 + count - 16) (by omega), entry (16 + count - 7) (by omega),
        ← Nat.add_assoc, List.range_succ, List.map_append]
      congr 1
      rw [List.map_singleton, Sha256.schedule_of_le message (16 + count) (by omega)]
      change [_ + Sha256.smallSigma0 (Sha256.schedule message (16 + count - 15)) + _ +
        Sha256.smallSigma1 (Sha256.schedule message (16 + count - 2))] = _
      congr 1
      ac_rfl

theorem transformWords_getD (block : Bytes) (exact : block.length = 64) (i : Nat) (within : i < 64) :
    (transformWords block).getD i 0 = Sha256.schedule (Sha256.messageWord block) i := by
  have words : (List.range 16).map (fun i => readBigEndian32 (block.drop (i * 4))) =
      (List.range 16).map (Sha256.messageWord block) := by
    apply List.map_congr_left
    intro t member
    have early := List.mem_range.mp member
    rw [readBigEndian32_eq _ (by rw [List.length_drop]; omega), Nat.mul_comm t 4]
    rfl
  rw [transformWords, words, foldl_extendWords]
  simp only [List.getD_eq_getElem?_getD, List.getElem?_map, Nat.reduceAdd,
    List.getElem?_range within, Option.map_some, Option.getD_some]

/-- On a full block the source's transform is the standard's compression. -/
theorem sha256Transform_eq (state : Words) (block : Bytes) (exact : block.length = 64) :
    sha256Transform state block = Sha256.compress state block := by
  have rounds : (List.range 64).foldl (transformRound (transformWords block)) state =
      (List.range 64).foldl (fun v t => Sha256.round (Sha256.roundConstants.getD t 0)
        (Sha256.schedule (Sha256.messageWord block) t) v) state := by
    apply List.foldl_ext
    intro v t member
    rw [← transformWords_getD block exact t (List.mem_range.mp member), ← constants_eq]
    rfl
  unfold sha256Transform Sha256.compress
  rw [rounds]
  rfl

/-! ## The incremental digest -/

/-- The effect of `sha256Update` on a single byte. -/
def sha256Push (context : Sha256Context) (byte : UInt8) : Sha256Context :=
  let block := context.block.memcpy context.blockSize [byte]
  if full : context.blockSize + 1 = 64 then
    ⟨sha256Transform context.state block.bytes, context.bitCount + 8, block, 0, by decide⟩
  else
    ⟨context.state, context.bitCount + 8, block, context.blockSize + 1, by
      have := context.blockSize_lt
      omega⟩

theorem foldl_sha256Push_of_short (context : Sha256Context) (chunk : Bytes)
    (short : context.blockSize + chunk.length < 64) :
    chunk.foldl sha256Push context =
      ⟨context.state, context.bitCount + UInt64.ofNat chunk.length * 8,
        context.block.memcpy context.blockSize chunk, context.blockSize + chunk.length, short⟩ := by
  induction chunk generalizing context with
  | nil =>
      have same : context.block.memcpy context.blockSize [] = context.block := by
        have := context.block.length_eq
        ext1
        rw [Buffer.memcpy_bytes _ _ _ (Nat.le_of_lt short), List.append_nil, List.length_nil,
          Nat.add_zero, List.take_append_drop]
      ext1
      · rfl
      · exact (UInt64.add_zero context.bitCount).symm
      · exact same.symm
      · rfl
  | cons byte chunk inductionHypothesis =>
      rw [List.length_cons] at short
      have pushed : sha256Push context byte = ⟨context.state, context.bitCount + 8,
          context.block.memcpy context.blockSize [byte], context.blockSize + 1, by omega⟩ := by
        unfold sha256Push
        rw [dif_neg (by omega)]
      have bits : context.bitCount + 8 + UInt64.ofNat chunk.length * 8 =
          context.bitCount + UInt64.ofNat (byte :: chunk).length * 8 := by
        rw [List.length_cons, UInt64.ofNat_add, UInt64.add_mul, UInt64.add_assoc]
        congr 1
        rw [UInt64.add_comm]
        rfl
      rw [List.foldl_cons, pushed, inductionHypothesis _ (by
        change context.blockSize + 1 + chunk.length < 64
        omega)]
      ext1
      · rfl
      · exact bits
      · exact Buffer.memcpy_append context.block context.blockSize [byte] chunk (by
          rw [List.length_singleton]; omega)
      · change context.blockSize + 1 + chunk.length = context.blockSize + (byte :: chunk).length
        rw [List.length_cons]
        omega

theorem foldl_sha256Push_of_full (context : Sha256Context) (chunk : Bytes)
    (full : context.blockSize + chunk.length = 64) :
    chunk.foldl sha256Push context =
      ⟨sha256Transform context.state (context.block.memcpy context.blockSize chunk).bytes,
        context.bitCount + UInt64.ofNat chunk.length * 8,
        context.block.memcpy context.blockSize chunk, 0, by decide⟩ := by
  have notFull := context.blockSize_lt
  rcases List.eq_nil_or_concat chunk with empty | ⟨initial, last, ending⟩
  · subst empty
    rw [List.length_nil] at full
    omega
  · rw [List.concat_eq_append] at ending
    subst chunk
    rw [List.length_append, List.length_singleton] at full
    have joined := Buffer.memcpy_append context.block context.blockSize initial [last] (by
      rw [List.length_singleton]; omega)
    have bits : context.bitCount + UInt64.ofNat initial.length * 8 + 8 =
        context.bitCount + UInt64.ofNat (initial ++ [last]).length * 8 := by
      rw [List.length_append, List.length_singleton, UInt64.ofNat_add, UInt64.add_mul, UInt64.add_assoc]
      rfl
    rw [List.foldl_append, foldl_sha256Push_of_short context initial (by omega), List.foldl_cons,
      List.foldl_nil, ← joined, ← bits]
    unfold sha256Push
    rw [dif_pos (by change context.blockSize + initial.length + 1 = 64; omega)]

/-- The buffered update is a byte-by-byte fold of the whole context. -/
theorem sha256Update_eq_foldl (context : Sha256Context) (data : Bytes) :
    sha256Update context data = data.foldl sha256Push context := by
  induction size : data.length using Nat.strongRecOn generalizing context data with
  | _ size inductionHypothesis =>
      have notFull := context.blockSize_lt
      rw [sha256Update]
      by_cases empty : data.length = 0
      · rw [if_pos empty, List.length_eq_zero_iff.mp empty]
        rfl
      · rw [if_neg empty]
        have split := List.take_append_drop
          (if data.length < 64 - context.blockSize then data.length else 64 - context.blockSize) data
        by_cases short : data.length < 64 - context.blockSize
        · simp only [if_pos short] at split ⊢
          have part : (data.take data.length).length = data.length := by rw [List.take_length]
          rw [dif_neg (by omega), inductionHypothesis _ (by rw [List.length_drop]; omega) _ _ rfl]
          conv_rhs => rw [← split, List.foldl_append, foldl_sha256Push_of_short context _ (by omega)]
          simp only [part]
        · simp only [if_neg short] at split ⊢
          have part : (data.take (64 - context.blockSize)).length = 64 - context.blockSize := by
            rw [List.length_take]
            omega
          rw [dif_pos (by omega), inductionHypothesis _ (by rw [List.length_drop]; omega) _ _ rfl]
          conv_rhs => rw [← split, List.foldl_append, foldl_sha256Push_of_full context _ (by omega)]
          simp only [part]

/-- Feeding a stream does not depend on how it is cut. -/
theorem sha256Update_append (context : Sha256Context) (first second : Bytes) :
    sha256Update context (first ++ second) = sha256Update (sha256Update context first) second := by
  rw [sha256Update_eq_foldl, sha256Update_eq_foldl, sha256Update_eq_foldl, List.foldl_append]

theorem sha256Update_nil (context : Sha256Context) : sha256Update context [] = context := by
  rw [sha256Update_eq_foldl]
  rfl

/-- The part of a context that determines its digest. -/
def Sha256Context.pending (context : Sha256Context) : BlockStream.Pending Words UInt8 :=
  (context.state, context.block.bytes.take context.blockSize)

theorem pending_sha256Push (context : Sha256Context) (byte : UInt8) :
    (sha256Push context byte).pending = BlockStream.push Sha256.compress 64 context.pending byte := by
  have notFull := context.blockSize_lt
  have size := context.block.length_eq
  have kept : (context.block.bytes.take context.blockSize).length = context.blockSize := by
    rw [List.length_take]
    omega
  have copied := Buffer.take_memcpy context.block context.blockSize [byte] (by
    rw [List.length_singleton]; omega)
  rw [List.length_singleton] at copied
  unfold sha256Push BlockStream.push
  simp only [Sha256Context.pending, kept]
  by_cases full : context.blockSize + 1 = 64
  · rw [dif_pos full, if_pos full, ← copied, full, List.take_of_length_le (Nat.le_of_eq (Buffer.length_eq _))]
    simp only [List.take_zero]
    rw [sha256Transform_eq _ _ (Buffer.length_eq _)]
  · rw [dif_neg full, if_neg full, ← copied]

theorem pending_sha256Update (context : Sha256Context) (data : Bytes) :
    (sha256Update context data).pending =
      BlockStream.absorb Sha256.compress 64 context.pending data := by
  rw [sha256Update_eq_foldl]
  induction data generalizing context with
  | nil => rfl
  | cons byte data inductionHypothesis =>
      rw [List.foldl_cons, inductionHypothesis, pending_sha256Push]
      rfl

theorem bitCount_sha256Update (context : Sha256Context) (data : Bytes) :
    (sha256Update context data).bitCount = context.bitCount + UInt64.ofNat (8 * data.length) := by
  rw [sha256Update_eq_foldl]
  induction data generalizing context with
  | nil => exact (UInt64.add_zero _).symm
  | cons byte data inductionHypothesis =>
      have pushed : (sha256Push context byte).bitCount = context.bitCount + 8 := by
        unfold sha256Push
        split <;> rfl
      rw [List.foldl_cons, inductionHypothesis, pushed, List.length_cons, Nat.mul_add,
        UInt64.ofNat_add, UInt64.add_assoc, UInt64.add_comm 8]
      rfl

/-! ## Padding -/

theorem toUInt8_shiftRight64 (value : UInt64) (count : Nat) (small : count < 8) :
    (value >>> UInt64.ofNat (count * 8)).toUInt8 = UInt8.ofNat (value.toNat / 256 ^ count) := by
  apply UInt8.toNat_inj.mp
  have power : (2 : Nat) ^ (count * 8) = 256 ^ count := by rw [Nat.mul_comm, Nat.pow_mul]
  have shift : (UInt64.ofNat (count * 8)).toNat % 64 = count * 8 := by
    rw [UInt64.toNat_ofNat']
    omega
  rw [UInt64.toNat_toUInt8, UInt64.toNat_shiftRight, shift, Nat.shiftRight_eq_div_pow, power,
    UInt8.toNat_ofNat']

theorem toUInt8_shiftRight32 (value count : UInt32) (steps : Nat) (small : count.toNat = steps * 8)
    (bound : steps < 4) : (value >>> count).toUInt8 = UInt8.ofNat (value.toNat / 256 ^ steps) := by
  apply UInt8.toNat_inj.mp
  have power : (2 : Nat) ^ (steps * 8) = 256 ^ steps := by rw [Nat.mul_comm, Nat.pow_mul]
  have shift : count.toNat % 32 = steps * 8 := by omega
  rw [UInt32.toNat_toUInt8, UInt32.toNat_shiftRight, shift, Nat.shiftRight_eq_div_pow, power,
    UInt8.toNat_ofNat']

theorem digestBytes_eq (state : Words) : digestBytes state = state.toBytes := by
  have word : forall value : UInt32,
      [(value >>> 24).toUInt8, (value >>> 16).toUInt8, (value >>> 8).toUInt8, value.toUInt8] =
        beBytes 4 value.toNat := by
    intro value
    rw [toUInt8_shiftRight32 value 24 3 rfl (by decide), toUInt8_shiftRight32 value 16 2 rfl (by decide),
      toUInt8_shiftRight32 value 8 1 rfl (by decide)]
    simp only [beBytes, leBytes, List.reverse_cons, List.reverse_nil, List.nil_append, List.cons_append,
      Nat.div_div_eq_div_mul, Nat.reduceMul, Nat.reducePow]
    rfl
  simp only [digestBytes, List.flatMap_cons, List.flatMap_nil, List.append_nil, word, Words.toBytes,
    List.append_assoc]

/-- The last eight bytes of the final block are the big-endian bit count. -/
theorem foldl_length_field (block : Buffer 64) (bitCount : UInt64) :
    ((List.range 8).foldl
      (fun (block : Buffer 64) i => block.memcpy (63 - i) [(bitCount >>> UInt64.ofNat (i * 8)).toUInt8])
      block).bytes = block.bytes.take 56 ++ beBytes 8 bitCount.toNat := by
  have exact := block.length_eq
  have tail : (block.bytes.drop 56).length = 8 := by rw [List.length_drop, exact]
  have front : (block.bytes.take 56).length = 56 := by rw [List.length_take, exact]; rfl
  rw [show List.range 8 = [0, 1, 2, 3, 4, 5, 6, 7] from rfl]
  simp only [List.foldl_cons, List.foldl_nil]
  repeat rw [Buffer.memcpy_singleton _ _ _ (by decide)]
  rw [toUInt8_shiftRight64 bitCount 0 (by decide), toUInt8_shiftRight64 bitCount 1 (by decide),
    toUInt8_shiftRight64 bitCount 2 (by decide), toUInt8_shiftRight64 bitCount 3 (by decide),
    toUInt8_shiftRight64 bitCount 4 (by decide), toUInt8_shiftRight64 bitCount 5 (by decide),
    toUInt8_shiftRight64 bitCount 6 (by decide), toUInt8_shiftRight64 bitCount 7 (by decide)]
  conv_lhs => rw [← List.take_append_drop 56 block.bytes]
  match ending : block.bytes.drop 56, tail with
  | [x0, x1, x2, x3, x4, x5, x6, x7], _ =>
      simp only [List.set_append, front, Nat.reduceSub, Nat.reduceLT, if_false, List.set_cons_succ,
        List.set_cons_zero]
      congr 1
      simp only [beBytes, leBytes, List.reverse_cons, List.reverse_nil, List.nil_append, List.cons_append,
        Nat.div_div_eq_div_mul, Nat.reduceMul, Nat.reducePow, Nat.div_one]

/-- Finishing compresses the pending bytes, the marker, the zeros and the bit
count: in one block when the length field still fits, otherwise in two. -/
theorem sha256Finish_eq_absorb (context : Sha256Context) :
    sha256Finish context =
      (BlockStream.absorb Sha256.compress 64 context.pending
        ([0x80] ++ List.replicate (Sha256.paddingZeros context.blockSize) 0 ++
          beBytes 8 context.bitCount.toNat)).1.toBytes := by
  have notFull := context.blockSize_lt
  have kept : (context.block.bytes.take context.blockSize).length = context.blockSize := by
    rw [List.length_take, context.block.length_eq]
    omega
  have marked := Buffer.take_memcpy context.block context.blockSize [0x80] (by
    rw [List.length_singleton]; omega)
  rw [List.length_singleton] at marked
  unfold sha256Finish
  by_cases long : context.blockSize + 1 > 56
  · have zeros : Sha256.paddingZeros context.blockSize = (63 - context.blockSize) + 56 := by
      unfold Sha256.paddingZeros
      omega
    have filled := Buffer.take_memcpy (context.block.memcpy context.blockSize [0x80])
      (context.blockSize + 1) (List.replicate (64 - (context.blockSize + 1)) 0) (by
        rw [List.length_replicate]; omega)
    rw [List.length_replicate, marked, show context.blockSize + 1 + (64 - (context.blockSize + 1)) = 64 by omega,
      List.take_of_length_le (Nat.le_of_eq (Buffer.length_eq _))] at filled
    have second := Buffer.take_memcpy
      ((context.block.memcpy context.blockSize [0x80]).memcpy (context.blockSize + 1)
        (List.replicate (64 - (context.blockSize + 1)) 0)) 0 (List.replicate (56 - 0) 0) (by
        rw [List.length_replicate]; omega)
    rw [List.take_zero, List.nil_append, List.length_replicate] at second
    simp only [if_pos long]
    rw [digestBytes_eq]
    congr 1
    rw [sha256Transform_eq _ _ (Buffer.length_eq _), foldl_length_field, filled, second, zeros,
      List.replicate_add, ← List.append_assoc, List.append_assoc ([0x80] ++ _),
      BlockStream.absorb_append,
      sha256Transform_eq _ _ (by
        simp only [List.length_append, kept, List.length_singleton, List.length_replicate]; omega)]
    have first := BlockStream.absorb_of_full Sha256.compress 64 context.state
      (context.block.bytes.take context.blockSize)
      ([0x80] ++ List.replicate (63 - context.blockSize) 0) (by simp) (by
        simp only [List.length_append, kept, List.length_singleton, List.length_replicate]; omega)
    have last := BlockStream.absorb_of_full Sha256.compress 64
      (Sha256.compress context.state (context.block.bytes.take context.blockSize ++
        ([0x80] ++ List.replicate (63 - context.blockSize) 0))) []
      (List.replicate 56 0 ++ beBytes 8 context.bitCount.toNat) (by simp) (by
        simp only [List.length_append, List.length_nil, List.length_replicate, length_beBytes])
    unfold Sha256Context.pending
    rw [first, last, List.nil_append, show 64 - (context.blockSize + 1) = 63 - context.blockSize by omega,
      List.append_assoc]
  · have zeros : Sha256.paddingZeros context.blockSize = 56 - (context.blockSize + 1) := by
      unfold Sha256.paddingZeros
      omega
    have filled := Buffer.take_memcpy (context.block.memcpy context.blockSize [0x80])
      (context.blockSize + 1) (List.replicate (56 - (context.blockSize + 1)) 0) (by
        rw [List.length_replicate]; omega)
    rw [List.length_replicate, marked, show context.blockSize + 1 + (56 - (context.blockSize + 1)) = 56 by omega]
      at filled
    simp only [if_neg long]
    rw [digestBytes_eq]
    congr 1
    rw [sha256Transform_eq _ _ (Buffer.length_eq _), foldl_length_field, filled, zeros]
    unfold Sha256Context.pending
    rw [BlockStream.absorb_of_full _ _ _ _ _ (by simp) (by
        simp only [List.length_append, kept, List.length_singleton, List.length_replicate, length_beBytes]
        omega)]
    simp only [List.append_assoc]

/-- A context has taken in a stream, whatever its block buffer held before. -/
structure Sha256Context.Streams (context : Sha256Context) (stream : Bytes) : Prop where
  pending : context.pending = BlockStream.absorb Sha256.compress 64 (Sha256.initialValue, []) stream
  bits : context.bitCount = UInt64.ofNat (8 * stream.length)

namespace Sha256Context.Streams

variable {context : Sha256Context} {stream : Bytes}

theorem update (streams : context.Streams stream) (data : Bytes) :
    (sha256Update context data).Streams (stream ++ data) where
  pending := by
    rw [pending_sha256Update, streams.pending, BlockStream.absorb_append]
  bits := by
    rw [bitCount_sha256Update, streams.bits, List.length_append, Nat.mul_add, UInt64.ofNat_add]

theorem blockSize_eq (streams : context.Streams stream) : context.blockSize = stream.length % 64 := by
  have lengths := BlockStream.length_absorb_pending Sha256.compress 64 (Sha256.initialValue, []) stream (by decide)
  rw [← streams.pending, List.length_nil, Nat.zero_add] at lengths
  have notFull := context.blockSize_lt
  rw [← lengths]
  simp only [Sha256Context.pending, List.length_take, Buffer.length_eq]
  omega

/-- The digest of a context is the standard's digest of its stream. -/
theorem finish (streams : context.Streams stream) : sha256Finish context = Sha256.hash stream := by
  have bits : beBytes 8 context.bitCount.toNat = beBytes 8 (8 * stream.length) := by
    rw [streams.bits, UInt64.toNat_ofNat', beBytes, beBytes, show (2 : Nat) ^ 64 = 256 ^ 8 by decide, leBytes_mod]
  have zeros : Sha256.paddingZeros (stream.length % 64) = Sha256.paddingZeros stream.length := by
    unfold Sha256.paddingZeros
    rw [Nat.mod_mod]
  rw [sha256Finish_eq_absorb, streams.blockSize_eq, zeros, bits, streams.pending, ← BlockStream.absorb_append,
    Sha256.hash_eq_absorb, Sha256.pad]
  simp only [List.append_assoc]

end Sha256Context.Streams

theorem streams_sha256Init : sha256Init.Streams [] where
  pending := Prod.ext sha256Init_state rfl
  bits := rfl

/-- The streamed digest is the standard's digest of the stream. -/
theorem sha256Finish_stream (data : Bytes) :
    sha256Finish (sha256Update sha256Init data) = Sha256.hash data :=
  (streams_sha256Init.update data).finish

/-- The source's one-shot helper computes SHA-256. -/
theorem sha256_eq (data : Bytes) : sha256 data = Sha256.hash data :=
  sha256Finish_stream data

end Ota
end DevKit

import DevKit.Foundation.Bytes

namespace DevKit

/-!
# Streaming computations over fixed-size blocks

A block function consumes one full block at a time.  To feed it a stream in
arbitrary pieces, an implementation keeps the entries of the incomplete last
block.  `push` is that bookkeeping for one entry, so feeding a stream is a
fold and does not depend on how the stream is cut.  `absorb_of_dvd` connects
the fold with the block function applied to the consecutive blocks of a
message whose length is a multiple of the block size.
-/

namespace BlockStream

variable {Chain Entry : Type} (compress : Chain -> List Entry -> Chain) (block : Nat)

/-- A chaining value and the entries of the incomplete block behind it. -/
abbrev Pending (Chain Entry : Type) := Chain × List Entry

/-- Accept one entry; a block that becomes full is compressed at once. -/
def push (pending : Pending Chain Entry) (entry : Entry) : Pending Chain Entry :=
  if pending.2.length + 1 = block then (compress pending.1 (pending.2 ++ [entry]), [])
  else (pending.1, pending.2 ++ [entry])

/-- Accept the entries of a message one by one. -/
def absorb (pending : Pending Chain Entry) (message : List Entry) : Pending Chain Entry :=
  message.foldl (push compress block) pending

/-- Cutting the message does not change what is absorbed. -/
theorem absorb_append (pending : Pending Chain Entry) (first second : List Entry) :
    absorb compress block pending (first ++ second) =
      absorb compress block (absorb compress block pending first) second :=
  List.foldl_append

/-- Entries that do not complete a block are only kept. -/
theorem absorb_of_short (chain : Chain) (kept more : List Entry)
    (short : kept.length + more.length < block) :
    absorb compress block (chain, kept) more = (chain, kept ++ more) := by
  induction more generalizing kept with
  | nil => rw [List.append_nil]; rfl
  | cons entry more inductionHypothesis =>
      rw [List.length_cons] at short
      have incomplete : kept.length + 1 ≠ block := by omega
      change absorb compress block (push compress block (chain, kept) entry) more = _
      rw [push, if_neg incomplete, inductionHypothesis (kept ++ [entry]) (by
        rw [List.length_append, List.length_singleton]; omega),
        List.append_assoc, List.singleton_append]

/-- Entries that complete a block exactly trigger one compression. -/
theorem absorb_of_full (chain : Chain) (kept more : List Entry) (positive : more ≠ [])
    (full : kept.length + more.length = block) :
    absorb compress block (chain, kept) more = (compress chain (kept ++ more), []) := by
  rcases List.eq_nil_or_concat more with empty | ⟨initial, last, ending⟩
  · exact absurd empty positive
  · rw [List.concat_eq_append] at ending
    subst more
    rw [List.length_append, List.length_singleton] at full
    rw [absorb_append, absorb_of_short compress block chain kept initial (by omega)]
    change push compress block (chain, kept ++ initial) last = _
    rw [push, if_pos (by rw [List.length_append]; omega), List.append_assoc]

/-- The incomplete block holds what is left over after the full blocks. -/
theorem length_absorb_pending (pending : Pending Chain Entry) (message : List Entry)
    (incomplete : pending.2.length < block) :
    (absorb compress block pending message).2.length = (pending.2.length + message.length) % block := by
  induction message generalizing pending with
  | nil =>
      change pending.2.length = _
      rw [List.length_nil, Nat.add_zero, Nat.mod_eq_of_lt incomplete]
  | cons entry message inductionHypothesis =>
      change (absorb compress block (push compress block pending entry) message).2.length = _
      rw [List.length_cons]
      by_cases full : pending.2.length + 1 = block
      · have reset : push compress block pending entry = (compress pending.1 (pending.2 ++ [entry]), []) := by
          rw [push, if_pos full]
        have sum : pending.2.length + (message.length + 1) = message.length + block := by omega
        rw [reset, inductionHypothesis _ (by rw [List.length_nil]; omega), List.length_nil, Nat.zero_add,
          sum, Nat.add_mod_right]
      · have kept : push compress block pending entry = (pending.1, pending.2 ++ [entry]) := by
          rw [push, if_neg full]
        have length : (pending.2 ++ [entry]).length = pending.2.length + 1 := by
          rw [List.length_append, List.length_singleton]
        rw [kept, inductionHypothesis _ (by rw [length]; omega), length]
        congr 1
        omega

/-- The consecutive blocks of a message; a last incomplete block is left out. -/
def blocks (block : Nat) (message : List Entry) : List (List Entry) :=
  if 0 < block ∧ block ≤ message.length then
    message.take block :: blocks block (message.drop block)
  else
    []
termination_by message.length
decreasing_by
  rw [List.length_drop]
  omega

/-- Absorbing whole blocks folds the block function over them. -/
theorem absorb_of_dvd (chain : Chain) (message : List Entry) (positive : 0 < block)
    (whole : block ∣ message.length) :
    absorb compress block (chain, []) message = ((blocks block message).foldl compress chain, []) := by
  induction size : message.length using Nat.strongRecOn generalizing chain message with
  | _ size inductionHypothesis =>
      by_cases empty : message.length = 0
      · have nothing : message = [] := List.length_eq_zero_iff.mp empty
        subst nothing
        rw [blocks, if_neg (by rw [List.length_nil]; omega)]
        rfl
      · have long : block ≤ message.length := Nat.le_of_dvd (by omega) whole
        have head : (message.take block).length = block := by rw [List.length_take]; omega
        have rest : block ∣ (message.drop block).length := by
          rw [List.length_drop]
          exact Nat.dvd_sub whole (Nat.dvd_refl block)
        rw [blocks, if_pos ⟨positive, long⟩]
        conv_lhs => rw [← List.take_append_drop block message]
        rw [absorb_append, absorb_of_full compress block chain [] (message.take block) (by
            intro none
            rw [none, List.length_nil] at head
            omega) (by rw [List.length_nil, head, Nat.zero_add]),
          inductionHypothesis (message.drop block).length (by rw [List.length_drop]; omega)
            (compress chain ([] ++ message.take block)) (message.drop block) rest rfl,
          List.nil_append, List.foldl_cons]

end BlockStream
end DevKit

import DevKit.Eeprom.Envelopes

namespace DevKit
namespace Eeprom

open Procedure

/-!
# Zones as byte arrays

`Arrays` is what the zones are for: one array of bytes for each zone.  A device
represents such arrays when its channel is enabled, every zone is formatted
with the bytes of its array, and every use of an envelope so far was the use
of one chunk.  `write` and `read` keep a device that represents arrays in step
with the same operations on the arrays.
-/

variable {World : Type}

/-- One array for each zone, of the length the table gives. -/
abbrev Arrays := (zone : UInt8) -> Buffer (dataSegmentLength zone)

namespace Arrays

/-- A write replaces the first bytes of a zone. -/
def write (arrays : Arrays) (data : Bytes) (size : Int) (zone : UInt8) : Int × Arrays :=
  if 0 < size ∧ size ≤ dataSegmentLength zone then
    (0, Function.update arrays zone ((arrays zone).memcpy 0 (data.take size.toNat)))
  else (-1, arrays)

/-- A read copies what lies behind an offset of a zone, up to the end of it. -/
def read (arrays : Arrays) (buffer : Bytes) (size : Int) (offset : Nat) (zone : UInt8) : Int × Pointer :=
  if 0 < size ∧ offset < dataSegmentLength zone then
    (min size (dataSegmentLength zone - offset : Nat),
      some (splice buffer 0 (slice (arrays zone).bytes offset
        (min size.toNat (dataSegmentLength zone - offset)))))
  else (-1, some buffer)

end Arrays

/-- Every use of an envelope was the use of one chunk of its zone. -/
def Orderly (log : List Event) : Prop :=
  forall zone size offset, .envelope zone size offset ∈ log -> ChunkOf zone (.envelope zone size offset)

/-- The device holds these arrays. -/
structure Represents (hal : Hal World) (view : World -> UInt8 -> Nat -> Option Bytes) (arrays : Arrays)
    (device : Device World) : Prop where
  enabled : isHostSecureChannelEnabled hal device.world = true
  formatted : forall zone, Formatted view device.world zone (arrays zone).bytes
  orderly : Orderly device.log

theorem Since.orderly {hal : Hal World} {zone : UInt8} {start device : Device World}
    (since : Since hal zone start device) (before : Orderly start.log) : Orderly device.log := by
  rcases since.log with ⟨events, log, chunks⟩
  intro other size offset member
  rw [log] at member
  rcases List.mem_append.mp member with early | late
  · exact before other size offset early
  · rcases chunks _ late with ⟨index, inside, same⟩
    cases same
    exact ⟨index, inside, rfl⟩

/-- Two uses of envelopes of one zone are uses of the same envelope, with the
same size, or of envelopes that do not meet. -/
theorem Orderly.separate {log : List Event} (orderly : Orderly log) {zone : UInt8} {size offset size' offset' : Nat}
    (first : .envelope zone size offset ∈ log) (second : .envelope zone size' offset' ∈ log) :
    (offset = offset' ∧ size = size') ∨ Apart offset size offset' size' := by
  rcases orderly zone size offset first with ⟨index, _, same⟩
  rcases orderly zone size' offset' second with ⟨other, _, same'⟩
  cases same
  cases same'
  rcases Nat.lt_trichotomy index other with before | equal | behind
  · exact Or.inr (apart_of_lt before (Nat.min_le_right _ _))
  · rw [equal]
    exact Or.inl ⟨rfl, rfl⟩
  · exact Or.inr (apart_of_lt behind (Nat.min_le_right _ _)).symm

/-! ## The checks -/

theorem dataSegmentLength_of_gt {zone : UInt8} (outside : zone > 10) : dataSegmentLength zone = 0 := by
  have large : 10 < zone.toNat := outside
  rw [dataSegmentLength, List.getD_eq_default]
  exact large

theorem checkZoneSize_write (zone : UInt8) (size : Int) :
    checkZoneSize zone size true = (!decide (0 < size ∧ size ≤ dataSegmentLength zone), size) := by
  unfold checkZoneSize
  by_cases outside : zone > 10 ∨ dataSegmentLength zone = 0
  · have empty : dataSegmentLength zone = 0 := outside.elim dataSegmentLength_of_gt id
    have refused : ¬ (0 < size ∧ size ≤ (dataSegmentLength zone : Int)) := by omega
    rw [if_pos outside, decide_eq_false refused]
    rfl
  · rw [if_neg outside]
    by_cases positive : size ≤ 0
    · have refused : ¬ (0 < size ∧ size ≤ (dataSegmentLength zone : Int)) := by omega
      rw [if_pos positive, decide_eq_false refused]
      rfl
    · by_cases long : size > dataSegmentLength zone
      · have refused : ¬ (0 < size ∧ size ≤ (dataSegmentLength zone : Int)) := by omega
        rw [if_neg positive, if_pos ⟨rfl, long⟩, decide_eq_false refused]
        rfl
      · have accepted : 0 < size ∧ size ≤ (dataSegmentLength zone : Int) := by omega
        rw [if_neg positive, if_neg (fun both => long both.2), if_neg long, decide_eq_true accepted]
        rfl

theorem checkZoneSize_read (zone : UInt8) (size : Int) :
    (checkZoneSize zone size false).1 = !decide (0 < size ∧ 0 < dataSegmentLength zone) ∧
      (0 < size ∧ 0 < dataSegmentLength zone ->
        (checkZoneSize zone size false).2 = min size (dataSegmentLength zone)) := by
  unfold checkZoneSize
  by_cases outside : zone > 10 ∨ dataSegmentLength zone = 0
  · have empty : dataSegmentLength zone = 0 := outside.elim dataSegmentLength_of_gt id
    have refused : ¬ (0 < size ∧ 0 < dataSegmentLength zone) := by omega
    rw [if_pos outside, decide_eq_false refused]
    exact ⟨rfl, fun accepted => absurd accepted refused⟩
  · rw [if_neg outside]
    by_cases positive : size ≤ 0
    · have refused : ¬ (0 < size ∧ 0 < dataSegmentLength zone) := by omega
      rw [if_pos positive, decide_eq_false refused]
      exact ⟨rfl, fun accepted => absurd accepted refused⟩
    · have accepted : 0 < size ∧ 0 < dataSegmentLength zone := by omega
      rw [if_neg positive, if_neg (fun both => (nomatch both.1)), decide_eq_true accepted]
      by_cases long : size > dataSegmentLength zone
      · rw [if_pos long]
        exact ⟨rfl, fun _ => by omega⟩
      · rw [if_neg long]
        exact ⟨rfl, fun _ => by omega⟩

/-! ## The public functions -/

section Public

variable {hal : Hal World} {view : World -> UInt8 -> Nat -> Option Bytes} {arrays : Arrays} {start : Device World}

theorem Represents.initHal (lawful : Lawful hal view) (represents : Represents hal view arrays start) :
    Represents hal view arrays ⟨(hal.initHal start.world).2, start.log ++ []⟩ := by
  refine ⟨(lawful.enabled_initHal _).trans represents.enabled, fun zone index more => ?_, ?_⟩
  · rw [lawful.view_initHal]
    exact represents.formatted zone index more
  · rw [List.append_nil]
    exact represents.orderly

/-- A use of the envelopes of a zone that leaves every envelope alone. -/
theorem Represents.since {zone : UInt8} {device : Device World} (represents : Represents hal view arrays start)
    (since : Since hal zone start device) (same : view device.world = view start.world) :
    Represents hal view arrays device := by
  refine ⟨since.enabled.trans represents.enabled, fun other index more => ?_, since.orderly represents.orderly⟩
  rw [same]
  exact represents.formatted other index more

theorem write_triple (lawful : Lawful hal view) (reliable : Reliable hal)
    (represents : Represents hal view arrays start) {data : Bytes} {size : Int} (zone : UInt8)
    (fits : size ≤ data.length) :
    Returns (fun device => device = start) (write hal (some data) size zone) fun code device =>
      code = (arrays.write data size zone).1 ∧ Represents hal view (arrays.write data size zone).2 device := by
  have ready := represents.initHal lawful
  refine ask_triple ?_
  have check := checkZoneSize_write zone size
  unfold Arrays.write
  by_cases accepted : 0 < size ∧ size ≤ dataSegmentLength zone
  · rw [decide_eq_true accepted] at check
    rw [if_pos accepted]
    refine Triple.guard ?_ fun _ => ?_
    · rintro (impossible | refused)
      · cases impossible
      · rw [check] at refused
        cases refused
    · rw [check]
      refine Triple.read fun device current => ?_
      subst current
      rw [if_pos ready.enabled]
      have length := (arrays zone).length_eq
      refine Triple.call (Triple.weaken (writeWithEnvelope_triple lawful (ready.formatted zone) length
        (by omega) (by omega) (by omega)) (fun _ same => same) ?_ ?_)
      · rintro code reached ⟨rfl, since, formatted, others⟩
        refine ⟨rfl, since.enabled.trans ready.enabled, fun other => ?_, since.orderly ready.orderly⟩
        dsimp only
        by_cases same : other = zone
        · subst same
          rw [Function.update_self, Buffer.memcpy_bytes]
          · exact formatted
          · rw [List.length_take]
            omega
        · rw [Function.update_of_ne same]
          exact fun index more => others other same _ _ (ready.formatted other index more)
      · exact fun reason reached failed => absurd reliable failed.2
  · rw [decide_eq_false accepted] at check
    rw [if_neg accepted]
    refine Triple.guard ?_ fun passed => ?_
    · rintro _ device rfl
      exact ⟨rfl, ready⟩
    · exact absurd (Or.inr (by rw [check]; rfl)) passed

theorem read_triple (lawful : Lawful hal view) (represents : Represents hal view arrays start) {buffer : Bytes}
    {size : Int} {offset : UInt16} (zone : UInt8) (fits : size ≤ buffer.length)
    (bounded : size + offset.toNat < 2 ^ 31) :
    Returns (fun device => device = start) (read hal (some buffer) size offset zone) fun answer device =>
      answer = arrays.read buffer size offset.toNat zone ∧ Represents hal view arrays device := by
  have ready := represents.initHal lawful
  have length := (arrays zone).length_eq
  refine ask_triple ?_
  unfold Arrays.read
  by_cases positive : 0 < size
  · refine Triple.guard ?_ fun _ => ?_
    · rintro (impossible | small)
      · cases impossible
      · exact absurd positive (by omega)
    have sum : checkedInt (size + offset.toNat) = some (size + offset.toNat) := checkedInt_some (by omega) (by omega)
    refine Triple.defined sum ?_
    have check := checkZoneSize_read zone (size + offset.toNat)
    by_cases inside : offset.toNat < dataSegmentLength zone
    · have both : 0 < size + offset.toNat ∧ 0 < dataSegmentLength zone := by omega
      rw [if_pos ⟨positive, inside⟩]
      rw [decide_eq_true both] at check
      refine Triple.guard ?_ fun _ => ?_
      · rintro (refused | empty)
        · rw [check.1] at refused
          cases refused
        · have length := check.2 both
          exact absurd empty (by omega)
      · refine Triple.read fun device current => ?_
        subst current
        rw [if_pos ready.enabled, check.2 both]
        have amount : (min (size + offset.toNat) (dataSegmentLength zone : Int) - offset.toNat).toNat =
            min size.toNat (dataSegmentLength zone - offset.toNat) := by omega
        rw [amount]
        refine Triple.call (Triple.weaken (readWithEnvelope_triple lawful (ready.formatted zone) length
          (by omega) (by omega)) (fun _ same => same) ?_ (fun _ _ left => left))
        rintro answer reached ⟨rfl, since, same⟩
        refine ⟨?_, ready.since since same⟩
        congr 1
        omega
    · rw [if_neg fun accepted => inside accepted.2]
      refine Triple.guard ?_ fun passed => ?_
      · rintro _ device rfl
        exact ⟨rfl, ready⟩
      · exfalso
        apply passed
        by_cases empty : 0 < dataSegmentLength zone
        · have both : 0 < size + offset.toNat ∧ 0 < dataSegmentLength zone := by omega
          have length := check.2 both
          exact Or.inr (by omega)
        · rw [check.1, decide_eq_false (fun both => empty both.2)]
          exact Or.inl rfl
  · rw [if_neg fun accepted => positive accepted.1]
    refine Triple.guard ?_ fun passed => ?_
    · rintro _ device rfl
      exact ⟨rfl, ready⟩
    · exact absurd (Or.inr (by omega)) passed

end Public

end Eeprom
end DevKit

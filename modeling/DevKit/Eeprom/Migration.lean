import DevKit.Eeprom.Zones

namespace DevKit
namespace Eeprom

open Procedure

/-!
# Enabling the secure channel

The migration loop reads each zone plainly into one work buffer and stores the
buffer in envelopes.  The log tells what each plain read left in the buffer,
and that is what the zone holds from then on: `Migrated` keeps both together.
A successful plain read leaves the zone's bytes; a failed one leaves whatever
it leaves, and the migration goes on.
-/

variable {World : Type}

/-- The first `count` zones hold in their envelopes what their plain reads left
in the work buffer, and the others still hold their plain bytes. -/
structure Migrated (hal : Hal World) (view : World -> UInt8 -> Nat -> Option Bytes) (begun : World)
    (held : UInt8 -> Bool × Bytes) (count : Nat) (device : Device World) : Prop where
  enabled : isHostSecureChannelEnabled hal device.world = true
  orderly : Orderly device.log
  recorded : forall zone failed bytes, .plainRead zone failed bytes ∈ device.log <->
    zone ∈ zones.take count ∧ dataSegmentLength zone ≠ 0 ∧ held zone = (failed, bytes)
  formatted : forall zone, zone ∈ zones.take count -> dataSegmentLength zone ≠ 0 ->
    (held zone).2.length = dataSegmentLength zone ∧ Formatted view device.world zone (held zone).2
  untouched : forall plain, PlainLawful hal plain -> forall zone, zone ∉ zones.take count ->
    plain device.world zone = plain begun zone
  copied : forall plain, PlainLawful hal plain -> forall zone, zone ∈ zones.take count ->
    dataSegmentLength zone ≠ 0 -> (held zone).1 = false ->
    (held zone).2 = load (plain begun zone) 0 (dataSegmentLength zone)

/-- The invariant of the loop over the zones. -/
def Carried (hal : Hal World) (view : World -> UInt8 -> Nat -> Option Bytes) (begun : World) (count : Nat)
    (buf : Pointer) (device : Device World) : Prop :=
  (exists region, buf = some region ∧ region.length = maxBufferSize) ∧
    exists held, Migrated hal view begun held count device

theorem Since.plainRead_iff {hal : Hal World} {zone other : UInt8} {start device : Device World} {failed : Bool}
    {bytes : Bytes} (since : Since hal zone start device) :
    .plainRead other failed bytes ∈ device.log <-> .plainRead other failed bytes ∈ start.log := by
  rcases since.log with ⟨events, log, chunks⟩
  rw [log, List.mem_append, or_iff_left]
  intro impossible
  rcases chunks _ impossible with ⟨_, _, same⟩
  cases same

theorem zones_take_succ {index : Nat} {zone : UInt8} (found : zones[index]? = some zone) :
    zones.take (index + 1) = zones.take index ++ [zone] := by
  rw [List.take_add_one, found]
  rfl

theorem not_mem_zones_take {index : Nat} {zone : UInt8} (found : zones[index]? = some zone) :
    zone ∉ zones.take index := by
  have distinct : zones.Nodup := by decide
  have front : (zones.take (index + 1)).Nodup := distinct.sublist (List.take_sublist _ _)
  rw [zones_take_succ found] at front
  intro member
  exact (List.nodup_append.mp front).2.2 zone member zone List.mem_cons_self rfl

section Loop

variable {hal : Hal World} {view : World -> UInt8 -> Nat -> Option Bytes} {start : Device World}

/-- A plain read leaves its answer in the buffer whether it failed or not. -/
theorem readWithoutEnvelope_triple {Value : Type} {exited : Leaving Value -> Device World -> Prop} {region : Bytes}
    {size : Nat} (offset : Nat) (zone : UInt8) (fits : 0 + size ≤ region.length) :
    Triple (fun device => device = start) (call (readWithoutEnvelope hal (some region) size offset zone))
      (fun answer device => exists before,
        answer.2 = some (splice region 0 (hal.getDataZone zone size before offset start.world).1.2.bytes) ∧
        device = ⟨(hal.getDataZone zone size before offset start.world).2,
          start.log ++ [.plainRead zone (hal.getDataZone zone size before offset start.world).1.1
            (hal.getDataZone zone size before offset start.world).1.2.bytes]⟩) exited := by
  have plain : forall exited : Leaving (Int × Pointer) -> Device World -> Prop,
      Triple (fun device => device = start) (getDataZone hal zone size (some region) offset)
        (fun answer device => exists before,
          answer.2 = some (splice region 0 (hal.getDataZone zone size before offset start.world).1.2.bytes) ∧
          device = ⟨(hal.getDataZone zone size before offset start.world).2,
            start.log ++ [.plainRead zone (hal.getDataZone zone size before offset start.world).1.1
              (hal.getDataZone zone size before offset start.world).1.2.bytes]⟩) exited := by
    intro exited
    refine Triple.defined (fetch_some fits) (ask_triple ?_)
    refine Triple.defined (store_some ?_) (Triple.pure fun device same => ⟨_, rfl, same⟩)
    rw [Buffer.length_eq]
    exact fits
  refine Triple.call ((plain _).bind fun answer => Triple.ite (fun _ => ?_) fun _ => ?_)
  · exact Triple.exit fun device left => left
  · exact Triple.pure fun device left => left

section Pass

variable {begun : World} {held : UInt8 -> Bool × Bytes} {index : Nat} {zone : UInt8}

/-- A zone of length zero is passed over. -/
theorem Migrated.skip (migrated : Migrated hal view begun held index start) (found : zones[index]? = some zone)
    (empty : dataSegmentLength zone = 0) : Migrated hal view begun held (index + 1) start := by
  have take := zones_take_succ found
  have same : forall other, dataSegmentLength other ≠ 0 ->
      (other ∈ zones.take (index + 1) <-> other ∈ zones.take index) := by
    intro other nonempty
    rw [take, List.mem_append, List.mem_singleton, or_iff_left]
    rintro rfl
    exact nonempty empty
  refine ⟨migrated.enabled, migrated.orderly, fun other failed bytes => ?_, fun other member nonempty => ?_,
    fun plain reads other outside => ?_, fun plain reads other member nonempty => ?_⟩
  · rw [migrated.recorded other failed bytes, and_congr_left_iff]
    exact fun both => (same _ both.1).symm
  · exact migrated.formatted _ ((same _ nonempty).mp member) nonempty
  · refine migrated.untouched plain reads other fun member => outside ?_
    rw [take]
    exact List.mem_append_left _ member
  · exact migrated.copied plain reads _ ((same _ nonempty).mp member) nonempty

/-- A zone whose plain read left `bytes` in the buffer holds those bytes. -/
theorem Migrated.store (migrated : Migrated hal view begun held index start) (found : zones[index]? = some zone)
    (nonempty : dataSegmentLength zone ≠ 0) {failed : Bool} {bytes : Bytes} {read device : Device World}
    (length : bytes.length = dataSegmentLength zone) (log : read.log = start.log ++ [.plainRead zone failed bytes])
    (enabled : isHostSecureChannelEnabled hal read.world = isHostSecureChannelEnabled hal start.world)
    (plainly : forall plain, PlainLawful hal plain -> plain read.world = plain start.world ∧
      (failed = false -> bytes = load (plain start.world zone) 0 (dataSegmentLength zone)))
    (since : Since hal zone read device) (formatted : Formatted view device.world zone bytes)
    (others : forall other, other ≠ zone -> forall position kept, view start.world other position = some kept ->
      view device.world other position = some kept) :
    Migrated hal view begun (Function.update held zone (failed, bytes)) (index + 1) device := by
  have fresh := not_mem_zones_take found
  have member_iff : forall other, other ∈ zones.take (index + 1) <-> other ∈ zones.take index ∨ other = zone := by
    intro other
    rw [zones_take_succ found, List.mem_append, List.mem_singleton]
  have distinct : forall other, other ∈ zones.take index -> other ≠ zone := by
    rintro other member rfl
    exact fresh member
  constructor
  · exact since.enabled.trans (enabled.trans migrated.enabled)
  · refine since.orderly ?_
    intro other size offset member
    rw [log] at member
    rcases List.mem_append.mp member with early | late
    · exact migrated.orderly other size offset early
    · cases List.mem_singleton.mp late
  · intro other result content
    rw [since.plainRead_iff, log, List.mem_append, List.mem_singleton, migrated.recorded, member_iff]
    by_cases same : other = zone
    · subst same
      rw [Function.update_self]
      constructor
      · rintro (⟨impossible, _⟩ | event)
        · exact absurd impossible fresh
        · cases event
          exact ⟨Or.inr rfl, nonempty, rfl⟩
      · rintro ⟨_, _, answer⟩
        cases answer
        exact Or.inr rfl
    · rw [Function.update_of_ne same, or_iff_left same, or_iff_left]
      rintro impossible
      cases impossible
      exact same rfl
  · intro other member long
    by_cases same : other = zone
    · subst same
      rw [Function.update_self]
      exact ⟨length, formatted⟩
    · rw [Function.update_of_ne same]
      have earlier := migrated.formatted other (((member_iff other).mp member).resolve_right same) long
      exact ⟨earlier.1, fun index more => others other same _ _ (earlier.2 index more)⟩
  · intro plain reads other outside
    rw [member_iff, not_or] at outside
    rw [since.elsewhere plain reads other outside.2, (plainly plain reads).1]
    exact migrated.untouched plain reads other outside.1
  · intro plain reads other member long succeeded
    by_cases same : other = zone
    · subst same
      rw [Function.update_self] at succeeded ⊢
      rw [← migrated.untouched plain reads other fresh]
      exact (plainly plain reads).2 succeeded
    · rw [Function.update_of_ne same] at succeeded ⊢
      exact migrated.copied plain reads other (((member_iff other).mp member).resolve_right same) long succeeded

/-- One pass of the loop over the zones. -/
theorem migrateZone_triple (lawful : Lawful hal view) {region : Bytes} (found : zones[index]? = some zone)
    (large : region.length = maxBufferSize) (migrated : Migrated hal view begun held index start) :
    Triple (fun device => device = start) (migrateZone hal (some region) zone)
      (Carried hal view begun (index + 1)) (StoreFailed hal) := by
  have short := dataSegmentLength_le zone
  change region.length = 1000 at large
  refine Triple.ite (fun empty => ?_) fun nonempty => ?_
  · apply Triple.pure
    rintro device rfl
    exact ⟨⟨region, rfl, large⟩, held, migrated.skip found empty⟩
  · refine Triple.bind (readWithoutEnvelope_triple 0 zone (by omega)) fun answer => Triple.fix ?_
    rintro reached ⟨before, target, rfl⟩
    generalize outcome : hal.getDataZone zone (dataSegmentLength zone) before 0 start.world = operation at target ⊢
    have enabled := lawful.enabled_getDataZone zone (dataSegmentLength zone) before 0 start.world
    have same := lawful.view_getDataZone zone (dataSegmentLength zone) before 0 start.world
    have length := operation.1.2.length_eq
    have room : dataSegmentLength zone ≤ (splice region 0 operation.1.2.bytes).length := by
      rw [length_splice (by omega)]
      omega
    rw [outcome] at enabled same
    rw [target]
    refine Triple.bind (storeEnvelopes_triple lawful (Or.inl rfl) room) fun _ => Triple.pure ?_
    intro device written
    refine ⟨⟨_, rfl, by rw [length_splice (by omega)]; exact large⟩, _, migrated.store found nonempty length rfl
      enabled ?_ written.since ?_ ?_⟩
    · intro plain reads
      have copied := reads.reads zone (dataSegmentLength zone) before 0 start.world
      have kept := reads.plain_getDataZone zone (dataSegmentLength zone) before 0 start.world
      rw [outcome] at copied kept
      exact ⟨kept, copied⟩
    · have formatted := written.formatted (Or.inl rfl) room length fun index past more => absurd more (by omega)
      rw [splice_zero, length, List.take_left' length, List.drop_eq_nil_of_le (Nat.le_of_eq length),
        List.append_nil] at formatted
      exact formatted
    · intro other different position kept present
      refine written.kept other position kept ?_ (Or.inl different)
      rw [same]
      exact present

end Pass

/-- What lies in the zones when the channel has been enabled. -/
theorem enableHostSecureChannel_triple (lawful : Lawful hal view) (world : World) (key : Pointer) :
    Triple (fun device => device = ⟨world, []⟩) (enableHostSecureChannel hal 1 key)
      (fun code device => code = 0 ∧ exists held, Migrated hal view world held zones.length device)
      (fun reason device => (reason = .returned 1 ∧ isHostSecureChannelEnabled hal world = true) ∨
        StoreFailed hal reason device) := by
  refine Triple.guard (fun different => absurd rfl different) fun _ => ?_
  refine Triple.read fun device current => ?_
  subst current
  refine Triple.guard (fun enabled device same => Or.inl ⟨rfl, enabled⟩) fun _ => ?_
  refine ask_triple (Triple.guard (fun impossible => absurd impossible.1 (by decide)) fun _ => ?_)
  refine Triple.guard (fun impossible => absurd impossible.1 (by decide)) fun _ => ?_
  rw [if_pos rfl]
  refine ask_triple (ask_triple (ask_triple (malloc_triple lawful maxBufferSize fun region large => ?_)))
  dsimp only [List.append_nil]
  generalize began : (hal.malloc maxBufferSize _).2 = ready
  have enabled : isHostSecureChannelEnabled hal ready = true := by
    rw [← began, lawful.enabled_malloc, lawful.enabled_initHal, lawful.enabled_freeHal, lawful.enables]
  have plainly : forall plain, PlainLawful hal plain -> plain ready = plain world := by
    intro plain reads
    rw [← began, reads.plain_malloc, reads.plain_initHal, reads.plain_freeHal, reads.plain_initPerso,
      reads.plain_initHal]
  have first : Migrated hal view world (fun _ => (false, [])) 0 ⟨ready, []⟩ := by
    refine ⟨enabled, fun _ _ _ impossible => (nomatch impossible), fun _ _ _ => ?_,
      fun _ impossible => (nomatch impossible), fun plain reads zone _ => congrFun (plainly plain reads) zone,
      fun _ _ _ impossible => (nomatch impossible)⟩
    exact ⟨fun impossible => (nomatch impossible), fun impossible => (nomatch impossible.1)⟩
  have loop : Triple (Carried hal view world 0 (some region)) (zones.foldlM (migrateZone hal) (some region))
      (Carried hal view world zones.length) (StoreFailed hal) := by
    refine Triple.foldlM _ (fun index zone buf found => Triple.fix ?_) (some region)
    rintro reached ⟨⟨filled, rfl, length⟩, held, migrated⟩
    exact migrateZone_triple lawful found length migrated
  refine Triple.bind (Triple.weaken (loop.start ⟨⟨region, rfl, large⟩, _, first⟩) (fun _ same => same)
    (fun _ _ carried => carried) (fun _ _ => Or.inr)) fun buf => ?_
  exact Triple.pure fun device carried => ⟨rfl, carried.2⟩

end Loop

/-! ## Sequences of calls -/

/-- A call of the interface with a buffer of the caller's. -/
inductive Call where
  | write (data : Bytes) (size : Int) (zone : UInt8)
  | read (buffer : Bytes) (size : Int) (offset : UInt16) (zone : UInt8)
deriving Repr, DecidableEq

/-- The buffer has the size that is passed with it, and the end of a read is an `int`. -/
def Call.Allowed : Call -> Prop
  | .write data size _ => size ≤ data.length
  | .read buffer size offset _ => size ≤ buffer.length ∧ size + offset.toNat < 2 ^ 31

/-- The code a call returns, with the caller's buffer afterwards. -/
def perform (hal : Hal World) (device : Device World) : Call -> Option ((Int × Pointer) × Device World)
  | .write data size zone =>
      (run (write hal (some data) size zone) device).map fun answer => ((answer.1, some data), answer.2)
  | .read buffer size offset zone => run (read hal (some buffer) size offset zone) device

/-- The answers of a sequence of calls. -/
def performAll (hal : Hal World) : List Call -> Device World -> Option (List (Int × Pointer) × Device World)
  | [], device => some ([], device)
  | call :: calls, device =>
      (perform hal device call).bind fun answer =>
        (performAll hal calls answer.2).map fun rest => (answer.1 :: rest.1, rest.2)

namespace Arrays

/-- The same call on arrays. -/
def perform (arrays : Arrays) : Call -> (Int × Pointer) × Arrays
  | .write data size zone => (((arrays.write data size zone).1, some data), (arrays.write data size zone).2)
  | .read buffer size offset zone => (arrays.read buffer size offset.toNat zone, arrays)

def performAll : List Call -> Arrays -> List (Int × Pointer)
  | [], _ => []
  | call :: calls, arrays => (arrays.perform call).1 :: performAll calls (arrays.perform call).2

end Arrays

section Calls

variable {hal : Hal World} {view : World -> UInt8 -> Nat -> Option Bytes}

theorem perform_eq (lawful : Lawful hal view) (reliable : Reliable hal) {arrays : Arrays} {device : Device World}
    (represents : Represents hal view arrays device) {call : Call} (allowed : call.Allowed) :
    exists reached, perform hal device call = some ((arrays.perform call).1, reached) ∧
      Represents hal view (arrays.perform call).2 reached := by
  cases call with
  | write data size zone =>
      rcases (write_triple lawful reliable represents zone allowed).run_eq rfl with ⟨code, reached, ended, rfl, after⟩
      refine ⟨reached, ?_, after⟩
      rw [perform, ended]
      rfl
  | read buffer size offset zone =>
      rcases (read_triple lawful represents zone allowed.1 allowed.2).run_eq rfl with ⟨answer, reached, ended, rfl, after⟩
      exact ⟨reached, ended, after⟩

theorem performAll_eq (lawful : Lawful hal view) (reliable : Reliable hal) (calls : List Call) {arrays : Arrays}
    {device : Device World} (represents : Represents hal view arrays device)
    (allowed : forall call, call ∈ calls -> call.Allowed) :
    exists reached, performAll hal calls device = some (arrays.performAll calls, reached) ∧
      Orderly reached.log := by
  induction calls generalizing arrays device with
  | nil => exact ⟨device, rfl, represents.orderly⟩
  | cons call calls inductionHypothesis =>
      rcases perform_eq lawful reliable represents (allowed call List.mem_cons_self) with ⟨middle, first, after⟩
      rcases inductionHypothesis after fun other member => allowed other (List.mem_cons_of_mem _ member) with
        ⟨reached, rest, orderly⟩
      refine ⟨reached, ?_, orderly⟩
      rw [performAll, first, Option.bind_some, rest]
      rfl

/-- Every zone that exists is visited. -/
theorem mem_zones {zone : UInt8} (nonempty : dataSegmentLength zone ≠ 0) : zone ∈ zones := by
  have all : zones = (List.range 11).map UInt8.ofNat := by decide
  have small : ¬ zone > 10 := fun outside => nonempty (dataSegmentLength_of_gt outside)
  have bound : ¬ 10 < zone.toNat := small
  rw [all]
  exact List.mem_map.mpr ⟨zone.toNat, List.mem_range.mpr (by omega), UInt8.ofNat_toNat⟩

/-- After the last zone the device holds the arrays that the plain reads left
in the work buffer. -/
theorem Migrated.represents {begun : World} {held : UInt8 -> Bool × Bytes} {device : Device World}
    (migrated : Migrated hal view begun held zones.length device) :
    exists arrays : Arrays, Represents hal view arrays device ∧
      forall zone, dataSegmentLength zone ≠ 0 -> (arrays zone).bytes = (held zone).2 := by
  have visited : forall zone, dataSegmentLength zone ≠ 0 -> zone ∈ zones.take zones.length := by
    intro zone nonempty
    rw [List.take_length]
    exact mem_zones nonempty
  have content : forall zone, dataSegmentLength zone ≠ 0 ->
      (Buffer.fill (dataSegmentLength zone) (held zone).2).bytes = (held zone).2 := by
    intro zone nonempty
    exact Buffer.fill_bytes_of_length _ (migrated.formatted zone (visited zone nonempty) nonempty).1
  refine ⟨fun zone => Buffer.fill _ (held zone).2, ⟨migrated.enabled, fun zone => ?_, migrated.orderly⟩, content⟩
  by_cases nonempty : dataSegmentLength zone = 0
  · intro index impossible
    rw [Buffer.length_eq] at impossible
    omega
  · rw [content zone nonempty]
    exact (migrated.formatted zone (visited zone nonempty) nonempty).2

/-- Reading a whole zone of a device that holds arrays. -/
theorem Represents.readBack (lawful : Lawful hal view) {arrays : Arrays} {device : Device World}
    (represents : Represents hal view arrays device) {zone : UInt8} (nonempty : dataSegmentLength zone ≠ 0)
    {buffer : Bytes} (length : buffer.length = dataSegmentLength zone) :
    exists final, run (read hal (some buffer) (dataSegmentLength zone) 0 zone) device =
      some (((dataSegmentLength zone : Int), some (arrays zone).bytes), final) := by
  have short := dataSegmentLength_le zone
  have sized := (arrays zone).length_eq
  have answer : arrays.read buffer (dataSegmentLength zone) 0 zone =
      ((dataSegmentLength zone : Int), some (arrays zone).bytes) := by
    rw [Arrays.read, if_pos (by omega), Nat.sub_zero, Int.min_self, Int.toNat_natCast, Nat.min_self,
      slice_zero_length _ _ sized, splice_zero, List.drop_eq_nil_of_le (by omega), List.append_nil]
  have fits : (dataSegmentLength zone : Int) ≤ buffer.length := by omega
  have bounded : (dataSegmentLength zone : Int) + (0 : UInt16).toNat < 2 ^ 31 := by
    change (dataSegmentLength zone : Int) + (0 : Nat) < 2 ^ 31
    omega
  rcases (read_triple lawful represents zone fits bounded).run_eq rfl with ⟨value, final, ended, same, _⟩
  refine ⟨final, ?_⟩
  rw [ended, same]
  exact congrArg (fun answer => some (answer, final)) answer

end Calls

/-! ## A chip that keeps the laws -/

/-- A chip whose plain zones hold their own number in every byte. -/
structure Chip where
  enabled : Bool
  envelopes : UInt8 -> Nat -> Option Bytes

namespace Chip

def blank : Chip := ⟨false, fun _ _ => none⟩

def plain (_ : Chip) (zone : UInt8) (_ : Nat) : UInt8 := zone

/-- An envelope replaces the ones it meets. -/
def store (chip : Chip) (zone : UInt8) (data : Bytes) (offset : Nat) : Chip :=
  { chip with envelopes := fun other position =>
      if other = zone then
        if position = offset then some data
        else (chip.envelopes other position).filter fun bytes =>
          decide (position + bytes.length + 8 ≤ offset ∨ offset + data.length + 8 ≤ position)
      else chip.envelopes other position }

/-- An envelope is read with the size it was stored with. -/
def get (chip : Chip) (zone : UInt8) (size : Nat) (before : Buffer size) (offset : Nat) : Bool × Buffer size :=
  match chip.envelopes zone offset with
  | some bytes => if same : bytes.length = size then (false, ⟨bytes, same⟩) else (true, before)
  | none => (true, before)

/-- The chip with the zones whose plain reads fail and leave the buffer alone. -/
def hal (fails : UInt8 -> Bool) : Hal Chip where
  initHal chip := (false, chip)
  freeHal chip := chip
  initPerso _ _ _ chip := { chip with enabled := true }
  sectors _ := 0
  pcropCode chip := if chip.enabled then 0xb4f0 else 0
  malloc size chip := (some (Buffer.zero size), chip)
  storeDataZone _ _ _ _ chip := (false, chip)
  getDataZone zone size before _ chip :=
    ((fails zone, if fails zone then before else ⟨List.replicate size zone, List.length_replicate⟩), chip)
  storeDataWithinEnvelop zone _ data offset chip := (false, chip.store zone data.bytes offset)
  getDataWithinEnvelop zone size before offset chip := (chip.get zone size before offset, chip)

variable (fails : UInt8 -> Bool)

theorem get_succeeds (chip : Chip) (zone : UInt8) (size : Nat) (before : Buffer size) (offset : Nat) :
    (chip.get zone size before offset).1 = false <->
      exists bytes, chip.envelopes zone offset = some bytes ∧ bytes.length = size := by
  unfold get
  cases chip.envelopes zone offset with
  | none => simp
  | some bytes =>
      by_cases same : bytes.length = size
      · simp [same]
      · simp [same]

theorem get_returns (chip : Chip) (zone : UInt8) (size : Nat) (before : Buffer size) (offset : Nat)
    (succeeded : (chip.get zone size before offset).1 = false) :
    chip.envelopes zone offset = some (chip.get zone size before offset).2.bytes := by
  rcases (get_succeeds chip zone size before offset).mp succeeded with ⟨bytes, found, same⟩
  simp [get, found, same]

theorem hal_lawful : Lawful (hal fails) envelopes where
  allocates size chip := ⟨Buffer.zero size, rfl⟩
  stored zone size data offset chip _ _ := by
    change (if zone = zone then if offset = offset then some data.bytes else _ else _) = _
    rw [if_pos rfl, if_pos rfl]
  kept zone size data offset chip other position bytes _ _ found apart := by
    have length := data.length_eq
    change (if other = zone then if position = offset then some data.bytes
      else (chip.envelopes other position).filter _ else chip.envelopes other position) = _
    by_cases same : other = zone
    · have separate := apart.resolve_left fun different => different same
      have away : position ≠ offset := by
        rcases separate with before | behind <;> omega
      rw [if_pos same, if_neg away, found, Option.filter_some, if_pos]
      rw [length]
      exact decide_eq_true separate
    · rw [if_neg same, found]
  succeeds zone size before offset chip := get_succeeds chip zone size before offset
  returns zone size before offset chip := get_returns chip zone size before offset
  view_initHal _ := rfl
  view_malloc _ _ := rfl
  view_getDataZone _ _ _ _ _ := rfl
  view_getDataWithinEnvelop _ _ _ _ _ := rfl
  enables _ := by simp [isHostSecureChannelEnabled, hal]
  enabled_initHal _ := rfl
  enabled_freeHal _ := rfl
  enabled_malloc _ _ := rfl
  enabled_getDataZone _ _ _ _ _ := rfl
  enabled_storeDataWithinEnvelop _ _ _ _ _ := rfl
  enabled_getDataWithinEnvelop _ _ _ _ _ := rfl

theorem load_plain (chip : Chip) (zone : UInt8) (offset size : Nat) :
    load (plain chip zone) offset size = List.replicate size zone := by
  rw [load, List.eq_replicate_iff, List.length_map, List.length_range]
  refine ⟨rfl, fun byte member => ?_⟩
  rcases List.mem_map.mp member with ⟨_, _, same⟩
  exact same.symm

theorem hal_plainLawful : PlainLawful (hal fails) plain where
  reads zone size before offset chip succeeded := by
    change fails zone = false at succeeded
    change (if fails zone = true then before else ⟨List.replicate size zone, List.length_replicate⟩ :
      Buffer size).bytes = _
    rw [load_plain, succeeded]
    rfl
  plain_initHal _ := rfl
  plain_freeHal _ := rfl
  plain_initPerso _ := rfl
  plain_malloc _ _ := rfl
  plain_getDataZone _ _ _ _ _ := rfl
  plain_getDataWithinEnvelop _ _ _ _ _ := rfl
  plain_storeDataWithinEnvelop _ _ _ _ _ _ _ := rfl

end Chip

section Enabling

variable {hal : Hal World} {view : World -> UInt8 -> Nat -> Option Bytes}

/-- On a chip that keeps what is stored in it, enabling the channel leaves
arrays with what the plain reads left in the work buffer. -/
theorem enabled_represents (lawful : Lawful hal view) (reliable : Reliable hal) (world : World) (key : Pointer)
    (closed : isHostSecureChannelEnabled hal world = false) :
    exists start, run (enableHostSecureChannel hal 1 key) ⟨world, []⟩ = some (0, start) ∧
      exists arrays : Arrays, Represents hal view arrays start ∧
        forall zone, dataSegmentLength zone ≠ 0 ->
          exists failed, .plainRead zone failed (arrays zone).bytes ∈ start.log := by
  have enabling : Returns (fun device => device = ⟨world, []⟩) (enableHostSecureChannel hal 1 key)
      fun code device => code = 0 ∧ exists held, Migrated hal view world held zones.length device := by
    refine (enableHostSecureChannel_triple lawful world key).weaken (fun _ same => same) (fun _ _ ended => ended) ?_
    rintro reason device (⟨_, enabled⟩ | ⟨_, unreliable⟩)
    · rw [closed] at enabled
      cases enabled
    · exact absurd reliable unreliable
  rcases enabling.run_eq rfl with ⟨_, start, ended, rfl, held, migrated⟩
  rcases migrated.represents with ⟨arrays, represents, content⟩
  refine ⟨start, ended, arrays, represents, fun zone nonempty => ⟨(held zone).1, ?_⟩⟩
  rw [migrated.recorded, List.take_length, content zone nonempty]
  exact ⟨mem_zones nonempty, nonempty, rfl⟩

/-- On a chip that keeps what is stored in it, enabling the channel returns 0,
and every sequence of reads and writes that follows answers as plain byte
arrays do, without leaving the work buffer or a caller's buffer.  Envelopes of
one zone do not meet and are always used with the same size. -/
theorem zones_behave_as_arrays (lawful : Lawful hal view) (reliable : Reliable hal) (world : World) (key : Pointer)
    (closed : isHostSecureChannelEnabled hal world = false) :
    exists start, run (enableHostSecureChannel hal 1 key) ⟨world, []⟩ = some (0, start) ∧
      exists arrays : Arrays,
        (forall zone, dataSegmentLength zone ≠ 0 ->
          exists failed, .plainRead zone failed (arrays zone).bytes ∈ start.log) ∧
        forall calls : List Call, (forall call, call ∈ calls -> call.Allowed) ->
          exists final, performAll hal calls start = some (arrays.performAll calls, final) ∧
            forall zone size offset size' offset', .envelope zone size offset ∈ final.log ->
              .envelope zone size' offset' ∈ final.log ->
              (offset = offset' ∧ size = size') ∨ Apart offset size offset' size' := by
  rcases enabled_represents lawful reliable world key closed with ⟨start, ended, arrays, represents, content⟩
  refine ⟨start, ended, arrays, content, fun calls allowed => ?_⟩
  rcases performAll_eq lawful reliable calls represents allowed with ⟨final, answers, orderly⟩
  exact ⟨final, answers, fun _ _ _ _ _ first second => orderly.separate first second⟩

/-- Two zones are written, and a read crosses from one envelope of the first zone
into the next. -/
def crossing : List Call :=
  [.write (List.replicate 500 7) 500 5, .write [1, 2, 3] 3 3, .read (List.replicate 20 0) 20 470 5]

theorem crossing_allowed (call : Call) (member : call ∈ crossing) : call.Allowed := by
  simp only [crossing, List.mem_cons, List.not_mem_nil, or_false] at member
  rcases member with rfl | rfl | rfl
  · rw [Call.Allowed, List.length_replicate]
    decide
  · exact (by decide : (3 : Int) ≤ 3)
  · exact ⟨(by decide : (20 : Int) ≤ 20), (by decide : (20 : Int) + 470 < 2 ^ 31)⟩

/-- The hypotheses hold of a chip. -/
theorem zones_behave_as_arrays_chip : exists start, exists arrays : Arrays, exists final,
    run (enableHostSecureChannel (Chip.hal fun _ => false) 1 none) ⟨Chip.blank, []⟩ = some (0, start) ∧
    performAll (Chip.hal fun _ => false) crossing start = some (arrays.performAll crossing, final) := by
  rcases zones_behave_as_arrays (Chip.hal_lawful fun _ => false) (fun _ _ _ _ _ => rfl) Chip.blank none
    (by decide +kernel) with ⟨start, enabled, arrays, _, sequences⟩
  rcases sequences crossing crossing_allowed with ⟨final, answers, _⟩
  exact ⟨start, arrays, final, enabled, answers⟩

/-- When enabling the channel has returned 0, every zone reads back the bytes
it held plainly exactly when each plain read that failed had left those bytes
in the work buffer. -/
theorem enabling_keeps_settings_iff (lawful : Lawful hal view) {plain : World -> UInt8 -> Nat -> UInt8}
    (reads : PlainLawful hal plain) {world : World} {key : Pointer} {reached : Device World}
    (returned : run (enableHostSecureChannel hal 1 key) ⟨world, []⟩ = some (0, reached)) :
    (forall zone, dataSegmentLength zone ≠ 0 ->
      forall buffer : Bytes, buffer.length = dataSegmentLength zone ->
        exists final, run (read hal (some buffer) (dataSegmentLength zone) 0 zone) reached =
          some (((dataSegmentLength zone : Int), some (load (plain world zone) 0 (dataSegmentLength zone))), final)) <->
    (forall zone bytes, .plainRead zone true bytes ∈ reached.log ->
      bytes = load (plain world zone) 0 (dataSegmentLength zone)) := by
  have enabling : Returns (fun device => device = ⟨world, []⟩) (enableHostSecureChannel hal 1 key)
      fun code device => code = 0 -> exists held, Migrated hal view world held zones.length device := by
    refine (enableHostSecureChannel_triple lawful world key).weaken (fun _ same => same)
      (fun _ _ ended _ => ended.2) ?_
    rintro reason device (⟨rfl, _⟩ | ⟨rfl, _⟩)
    · exact fun impossible => absurd impossible (by decide)
    · exact fun impossible => absurd impossible (by decide)
  rcases enabling.run rfl returned rfl with ⟨held, migrated⟩
  rcases migrated.represents with ⟨arrays, represents, content⟩
  constructor
  · intro readBack zone bytes failed
    rcases (migrated.recorded zone true bytes).mp failed with ⟨_, nonempty, same⟩
    have length : (List.replicate (dataSegmentLength zone) (0 : UInt8)).length = dataSegmentLength zone :=
      List.length_replicate
    rcases readBack zone nonempty _ length with ⟨_, expected⟩
    rcases represents.readBack lawful nonempty length with ⟨_, actual⟩
    rw [actual, content zone nonempty, same] at expected
    cases expected
    rfl
  · intro copied zone nonempty buffer length
    have bytes : (arrays zone).bytes = load (plain world zone) 0 (dataSegmentLength zone) := by
      have visited : zone ∈ zones.take zones.length := by
        rw [List.take_length]
        exact mem_zones nonempty
      rw [content zone nonempty]
      cases outcome : (held zone).1 with
      | false => exact migrated.copied plain reads zone visited nonempty outcome
      | true =>
          apply copied zone
          rw [migrated.recorded, ← outcome]
          exact ⟨visited, nonempty, rfl⟩
    rw [← bytes]
    exact represents.readBack lawful nonempty length

/-- On a chip whose plain reads succeed, every zone reads back its plain bytes. -/
theorem enabling_keeps_settings_chip : exists reached,
    run (enableHostSecureChannel (Chip.hal fun _ => false) 1 none) ⟨Chip.blank, []⟩ = some (0, reached) ∧
    forall zone, dataSegmentLength zone ≠ 0 -> forall buffer : Bytes, buffer.length = dataSegmentLength zone ->
      exists final, run (read (Chip.hal fun _ => false) (some buffer) (dataSegmentLength zone) 0 zone) reached =
        some (((dataSegmentLength zone : Int),
          some (load (Chip.plain Chip.blank zone) 0 (dataSegmentLength zone))), final) := by
  have quiet : ((run (enableHostSecureChannel (Chip.hal fun _ => false) 1 none) ⟨Chip.blank, []⟩).map fun answer =>
      (answer.1, answer.2.log.all fun event =>
        match event with
        | .plainRead _ failed _ => !failed
        | .envelope _ _ _ => true)) = some (0, true) := by decide +kernel
  rcases Option.map_eq_some_iff.mp quiet with ⟨⟨code, reached⟩, ended, same⟩
  rcases Prod.mk.inj same with ⟨rfl, succeeded⟩
  refine ⟨reached, ended, (enabling_keeps_settings_iff (Chip.hal_lawful fun _ => false)
    (Chip.hal_plainLawful fun _ => false) ended).mpr fun zone bytes failed => ?_⟩
  have impossible := List.all_eq_true.mp succeeded _ failed
  cases impossible

/-- The plain read of zone 2 fails, and enabling the channel returns 0 all the
same: the zone then holds the bytes of zone 0 instead of its own. -/
theorem failedPlainRead_loses_settings :
    ((run (enableHostSecureChannel (Chip.hal fun zone => zone == 2) 1 none) ⟨Chip.blank, []⟩).bind fun enabled =>
      (run (read (Chip.hal fun zone => zone == 2) (some (List.replicate 192 9)) 192 0 2) enabled.2).map fun answer =>
        (enabled.1, answer.1)) = some (0, 192, some (List.replicate 192 0)) ∧
    load (Chip.plain Chip.blank 2) 0 192 = List.replicate 192 2 := by
  refine ⟨by decide +kernel, Chip.load_plain _ _ _ _⟩

end Enabling

end Eeprom
end DevKit

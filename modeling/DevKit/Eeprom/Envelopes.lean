import DevKit.Eeprom.Interface
import DevKit.Foundation.Memory

namespace DevKit
namespace Eeprom

open Procedure

/-!
# Zones kept in envelopes

The laws of the chip speak about a view of the world: the data of the envelope
that starts at an offset of a zone, if there is one.  `Lawful` says what the
operations do to that view when they succeed; a plain read or a store may also
fail, and `Reliable` excludes that for stores.

A zone is formatted with a byte string when the chunks of that string lie in
its envelopes, one every 488 bytes.  Reading through the envelopes then
returns parts of the string, and writing through them replaces its first
bytes.  What both functions do to the log is the same in all cases: they add
uses of the envelopes of one zone, each with the size its chunk has in the
whole zone.
-/

variable {World : Type}

/-- Two ranges of envelopes with `first` and `second` data bytes do not meet.
An envelope takes eight bytes more than its data. -/
def Apart (position first offset second : Nat) : Prop :=
  position + first + 8 ≤ offset ∨ offset + second + 8 ≤ position

/-- An envelope of at most 480 bytes ends before the envelope of a later chunk. -/
theorem apart_of_lt {index later first second : Nat} (before : index < later) (small : first ≤ 480) :
    Apart (index * 488) first (later * 488) second :=
  Or.inl (by omega)

theorem Apart.symm {position first offset second : Nat} (apart : Apart position first offset second) :
    Apart offset second position first :=
  Or.symm apart

/-- What is assumed of the chip's library, the allocator and the option bytes. -/
structure Lawful (hal : Hal World) (view : World -> UInt8 -> Nat -> Option Bytes) : Prop where
  allocates : forall size world, exists buffer, (hal.malloc size world).1 = some buffer
  /-- A store that succeeds leaves its data at its offset. -/
  stored : forall zone size data offset world, size ≤ maxEncryptDataSize ->
    (hal.storeDataWithinEnvelop zone size data offset world).1 = false ->
    view (hal.storeDataWithinEnvelop zone size data offset world).2 zone offset = some data.bytes
  /-- A store that succeeds keeps the envelopes it does not meet. -/
  kept : forall zone size data offset world other position bytes, size ≤ maxEncryptDataSize ->
    (hal.storeDataWithinEnvelop zone size data offset world).1 = false ->
    view world other position = some bytes -> other ≠ zone ∨ Apart position bytes.length offset size ->
    view (hal.storeDataWithinEnvelop zone size data offset world).2 other position = some bytes
  /-- A read succeeds exactly when the envelope was stored with the same size. -/
  succeeds : forall zone size before offset world,
    (hal.getDataWithinEnvelop zone size before offset world).1.1 = false <->
      exists bytes, view world zone offset = some bytes ∧ bytes.length = size
  /-- A read that succeeds returns the data of the envelope. -/
  returns : forall zone size before offset world,
    (hal.getDataWithinEnvelop zone size before offset world).1.1 = false ->
    view world zone offset = some (hal.getDataWithinEnvelop zone size before offset world).1.2.bytes
  view_initHal : forall world, view (hal.initHal world).2 = view world
  view_malloc : forall size world, view (hal.malloc size world).2 = view world
  view_getDataZone : forall zone size before offset world,
    view (hal.getDataZone zone size before offset world).2 = view world
  view_getDataWithinEnvelop : forall zone size before offset world,
    view (hal.getDataWithinEnvelop zone size before offset world).2 = view world
  /-- Personalization enables the channel, and nothing disables it. -/
  enables : forall world, isHostSecureChannelEnabled hal (hal.initPerso 0 0 none world) = true
  enabled_initHal : forall world,
    isHostSecureChannelEnabled hal (hal.initHal world).2 = isHostSecureChannelEnabled hal world
  enabled_freeHal : forall world,
    isHostSecureChannelEnabled hal (hal.freeHal world) = isHostSecureChannelEnabled hal world
  enabled_malloc : forall size world,
    isHostSecureChannelEnabled hal (hal.malloc size world).2 = isHostSecureChannelEnabled hal world
  enabled_getDataZone : forall zone size before offset world,
    isHostSecureChannelEnabled hal (hal.getDataZone zone size before offset world).2 =
      isHostSecureChannelEnabled hal world
  enabled_storeDataWithinEnvelop : forall zone size data offset world,
    isHostSecureChannelEnabled hal (hal.storeDataWithinEnvelop zone size data offset world).2 =
      isHostSecureChannelEnabled hal world
  enabled_getDataWithinEnvelop : forall zone size before offset world,
    isHostSecureChannelEnabled hal (hal.getDataWithinEnvelop zone size before offset world).2 =
      isHostSecureChannelEnabled hal world

/-- What is assumed of plain reads: one that succeeds returns the bytes that
lie in the zone.  Those bytes change only when an envelope is stored over
them. -/
structure PlainLawful (hal : Hal World) (plain : World -> UInt8 -> Nat -> UInt8) : Prop where
  reads : forall zone size before offset world,
    (hal.getDataZone zone size before offset world).1.1 = false ->
    (hal.getDataZone zone size before offset world).1.2.bytes = load (plain world zone) offset size
  plain_initHal : forall world, plain (hal.initHal world).2 = plain world
  plain_freeHal : forall world, plain (hal.freeHal world) = plain world
  plain_initPerso : forall world, plain (hal.initPerso 0 0 none world) = plain world
  plain_malloc : forall size world, plain (hal.malloc size world).2 = plain world
  plain_getDataZone : forall zone size before offset world,
    plain (hal.getDataZone zone size before offset world).2 = plain world
  plain_getDataWithinEnvelop : forall zone size before offset world,
    plain (hal.getDataWithinEnvelop zone size before offset world).2 = plain world
  plain_storeDataWithinEnvelop : forall zone size data offset world other, other ≠ zone ->
    plain (hal.storeDataWithinEnvelop zone size data offset world).2 other = plain world other

/-- No store fails. -/
def Reliable (hal : Hal World) : Prop :=
  forall zone size data offset world, (hal.storeDataWithinEnvelop zone size data offset world).1 = false

/-- The chunks of a byte string lie in the envelopes of a zone. -/
def Formatted (view : World -> UInt8 -> Nat -> Option Bytes) (world : World) (zone : UInt8) (bytes : Bytes) :
    Prop :=
  forall index, index * 480 < bytes.length ->
    view world zone (index * 488) = some (slice bytes (index * 480) 480)

/-- The use of an envelope that holds one chunk of the whole zone. -/
def ChunkOf (zone : UInt8) (event : Event) : Prop :=
  exists index, index * 480 < dataSegmentLength zone ∧
    event = .envelope zone (min (dataSegmentLength zone - index * 480) 480) (index * 488)

/-- A device that has only used the envelopes of one zone since `start`.  Its
channel is as it was, and so are the plain bytes of the other zones. -/
structure Since (hal : Hal World) (zone : UInt8) (start device : Device World) : Prop where
  enabled : isHostSecureChannelEnabled hal device.world = isHostSecureChannelEnabled hal start.world
  log : exists events, device.log = start.log ++ events ∧ forall event, event ∈ events -> ChunkOf zone event
  elsewhere : forall plain, PlainLawful hal plain -> forall other, other ≠ zone ->
    plain device.world other = plain start.world other

theorem Since.refl (hal : Hal World) (zone : UInt8) (start : Device World) : Since hal zone start start :=
  ⟨rfl, ⟨[], (List.append_nil _).symm, fun _ impossible => (nomatch impossible)⟩, fun _ _ _ _ => rfl⟩

theorem Since.trans {hal : Hal World} {zone : UInt8} {start middle device : Device World}
    (before : Since hal zone start middle) (after : Since hal zone middle device) :
    Since hal zone start device := by
  rcases before.log with ⟨first, firstLog, firstChunks⟩
  rcases after.log with ⟨second, secondLog, secondChunks⟩
  refine ⟨after.enabled.trans before.enabled, ⟨first ++ second, ?_, ?_⟩, ?_⟩
  · rw [secondLog, firstLog, List.append_assoc]
  · intro event member
    rcases List.mem_append.mp member with early | late
    · exact firstChunks event early
    · exact secondChunks event late
  · intro plain reads other different
    exact (after.elsewhere plain reads other different).trans (before.elsewhere plain reads other different)

theorem Since.malloc {hal : Hal World} {view : World -> UInt8 -> Nat -> Option Bytes} (lawful : Lawful hal view)
    (zone : UInt8) (start : Device World) (size : Nat) :
    Since hal zone start ⟨(hal.malloc size start.world).2, start.log⟩ :=
  ⟨lawful.enabled_malloc _ _, ⟨[], (List.append_nil _).symm, fun _ impossible => (nomatch impossible)⟩,
    fun _ reads _ _ => congrFun (reads.plain_malloc _ _) _⟩

/-- No zone is longer than the work buffer. -/
theorem dataSegmentLength_le (zone : UInt8) : dataSegmentLength zone ≤ 976 := by
  rw [dataSegmentLength, List.getD_eq_getElem?_getD]
  cases found : dataSegmentLengths[zone.toNat]? with
  | none => exact Nat.zero_le 976
  | some length =>
      have bounded : forall length, length ∈ dataSegmentLengths -> length ≤ 976 := by decide
      exact bounded length (List.mem_of_getElem? found)

/-- The size of a chunk of a byte string. -/
theorem length_chunk (bytes : Bytes) (index : Nat) :
    (slice bytes (index * 480) 480).length = min (bytes.length - index * 480) 480 := by
  rw [slice, List.length_take, List.length_drop, Nat.min_comm]

/-! ## One operation -/

section Steps

variable {Value Result : Type} {post : Result -> Device World -> Prop} {start : Device World}

/-- Behind an operation of the world, its answer and the new state are known. -/
theorem ask_triple {Exit : Type} {exited : Exit -> Device World -> Prop} {operation : World -> Value × World}
    {record : Value -> List Event} {next : Value -> Procedure (Device World) Exit Result}
    (after : Triple (fun device => device = ⟨(operation start.world).2, start.log ++ record (operation start.world).1⟩)
      (next (operation start.world).1) post exited) :
    Triple (fun device => device = start) (ask operation record >>= next) post exited := by
  rintro device rfl
  rw [bind_apply_ok (rfl : ask operation record device = (.ok _, _))]
  exact after _ rfl

/-- The last operation of a procedure. -/
theorem ask_last {Exit : Type} {exited : Exit -> Device World -> Prop} {operation : World -> Result × World}
    {record : Result -> List Event}
    (holds : post (operation start.world).1
      ⟨(operation start.world).2, start.log ++ record (operation start.world).1⟩) :
    Triple (fun device => device = start) (ask operation record) post exited := by
  rintro device rfl
  refine ⟨fun value reached ended => ?_, fun reason reached impossible => (nomatch impossible)⟩
  cases ended
  exact holds

variable {hal : Hal World} {view : World -> UInt8 -> Nat -> Option Bytes}

/-- An allocation that succeeds gives an object of the size asked for. -/
theorem malloc_some {exited : Leaving Value -> Device World -> Prop} {size : Nat} {buffer : Buffer size}
    {next : Pointer -> Procedure (Device World) (Leaving Value) Result}
    (allocated : (hal.malloc size start.world).1 = some buffer)
    (after : Triple (fun device => device = ⟨(hal.malloc size start.world).2, start.log⟩)
      (next (some buffer.bytes)) post exited) :
    Triple (fun device => device = start) (malloc hal size >>= next) post exited := by
  rintro device rfl
  have ended : malloc hal size device =
      ((.ok (some buffer.bytes), ⟨(hal.malloc size device.world).2, device.log⟩) :
        Except (Leaving Value) Pointer × Device World) := by
    change ((.ok ((hal.malloc size device.world).1.map Buffer.bytes), ⟨_, device.log ++ []⟩) :
        Except (Leaving Value) Pointer × Device World) = _
    rw [allocated, List.append_nil]
    rfl
  rw [bind_apply_ok ended]
  exact after _ rfl

theorem malloc_triple (lawful : Lawful hal view) {exited : Leaving Value -> Device World -> Prop} (size : Nat)
    {next : Pointer -> Procedure (Device World) (Leaving Value) Result}
    (after : forall region : Bytes, region.length = size ->
      Triple (fun device => device = ⟨(hal.malloc size start.world).2, start.log⟩) (next (some region)) post exited) :
    Triple (fun device => device = start) (malloc hal size >>= next) post exited := by
  rcases lawful.allocates size start.world with ⟨buffer, allocated⟩
  exact malloc_some allocated (after buffer.bytes buffer.length_eq)

/-- Storing one chunk of the zone, or failing on a chip that fails. -/
theorem storeDataWithinEnvelop_triple (lawful : Lawful hal view) {zone : UInt8} {index size : Nat}
    {region : Bytes} {post : Bool -> Device World -> Prop} {exited : Leaving Value -> Device World -> Prop}
    (chunk : index * 480 < dataSegmentLength zone)
    (sized : size = min (dataSegmentLength zone - index * 480) 480) (fits : index * 480 + size ≤ region.length)
    (fails : forall device, ¬ Reliable hal -> post true device)
    (succeeds : forall device, Since hal zone start device ->
      view device.world zone (index * 488) = some (slice region (index * 480) size) ->
      (forall other position bytes, view start.world other position = some bytes ->
        other ≠ zone ∨ Apart position bytes.length (index * 488) size ->
        view device.world other position = some bytes) -> post false device) :
    Triple (fun device => device = start)
      (storeDataWithinEnvelop hal zone size (some region) (index * 480) (index * 488)) post exited := by
  have small : size ≤ maxEncryptDataSize := by
    rw [sized]
    exact Nat.min_le_right _ _
  refine Triple.defined (fetch_some fits) (ask_last ?_)
  have since : Since hal zone start ⟨(hal.storeDataWithinEnvelop zone size
      ⟨slice region (index * 480) size, length_slice region (index * 480) size fits⟩ (index * 488) start.world).2,
      start.log ++ [.envelope zone size (index * 488)]⟩ := by
    refine ⟨lawful.enabled_storeDataWithinEnvelop _ _ _ _ _, ⟨_, rfl, fun event member => ?_⟩,
      fun _ reads _ different => reads.plain_storeDataWithinEnvelop _ _ _ _ _ _ different⟩
    rw [List.mem_singleton.mp member, sized]
    exact ⟨index, chunk, rfl⟩
  cases failed : (hal.storeDataWithinEnvelop zone size
      ⟨slice region (index * 480) size, length_slice region (index * 480) size fits⟩ (index * 488) start.world).1 with
  | true =>
      apply fails
      intro reliable
      rw [reliable] at failed
      cases failed
  | false =>
      refine succeeds _ since (lawful.stored _ _ _ _ _ small failed) ?_
      intro other position bytes found apart
      exact lawful.kept _ _ _ _ _ _ _ _ small failed found apart

/-- Reading a chunk that lies in its envelope. -/
theorem getDataWithinEnvelop_triple (lawful : Lawful hal view) {zone : UInt8} {index size : Nat}
    {region chunk : Bytes} {exited : Leaving Value -> Device World -> Prop}
    (inside : index * 480 < dataSegmentLength zone)
    (sized : size = min (dataSegmentLength zone - index * 480) 480) (fits : index * 480 + size ≤ region.length)
    (present : view start.world zone (index * 488) = some chunk) (length : chunk.length = size) :
    Triple (fun device => device = start)
      (getDataWithinEnvelop hal zone size (some region) (index * 480) (index * 488))
      (fun answer device => answer = (false, some (splice region (index * 480) chunk)) ∧
        Since hal zone start device ∧ view device.world = view start.world) exited := by
  refine Triple.defined (fetch_some fits) (ask_triple ?_)
  generalize before : (⟨slice region (index * 480) size, length_slice region (index * 480) size fits⟩ :
    Buffer size) = target
  have succeeded : (hal.getDataWithinEnvelop zone size target (index * 488) start.world).1.1 = false :=
    (lawful.succeeds _ _ _ _ _).mpr ⟨chunk, present, length⟩
  have bytes : (hal.getDataWithinEnvelop zone size target (index * 488) start.world).1.2.bytes = chunk := by
    have returned := lawful.returns _ _ _ _ _ succeeded
    rw [present] at returned
    exact (Option.some_inj.mp returned).symm
  refine Triple.defined (store_some (by rw [bytes, length]; exact fits)) (Triple.pure ?_)
  rintro device rfl
  refine ⟨by rw [succeeded, bytes], ⟨lawful.enabled_getDataWithinEnvelop _ _ _ _ _, ⟨_, rfl, ?_⟩,
    fun _ reads _ _ => congrFun (reads.plain_getDataWithinEnvelop _ _ _ _ _) _⟩,
    lawful.view_getDataWithinEnvelop _ _ _ _ _⟩
  intro event member
  rw [List.mem_singleton.mp member, sized]
  exact ⟨index, inside, rfl⟩

end Steps

/-! ## The loops over the chunks of a zone -/

section Loops

variable {hal : Hal World} {view : World -> UInt8 -> Nat -> Option Bytes} {start : Device World}

/-- A limit that cuts a zone between two chunks or at its end. -/
def Aligned (zone : UInt8) (limit : Nat) : Prop :=
  limit = dataSegmentLength zone ∨ (limit ≤ dataSegmentLength zone ∧ limit % 480 = 0)

theorem Aligned.le {zone : UInt8} {limit : Nat} (aligned : Aligned zone limit) :
    limit ≤ dataSegmentLength zone := by
  rcases aligned with whole | ⟨below, _⟩
  · exact Nat.le_of_eq whole
  · exact below

/-- The chunks before an aligned limit have the size they have in the zone. -/
theorem Aligned.size {zone : UInt8} {limit index : Nat} (aligned : Aligned zone limit)
    (inside : index * 480 < limit) :
    min (limit - index * 480) 480 = min (dataSegmentLength zone - index * 480) 480 := by
  rcases aligned with whole | ⟨below, multiple⟩
  · rw [whole]
  · omega

/-- What the store loop has done after a number of passes. -/
structure Written (hal : Hal World) (view : World -> UInt8 -> Nat -> Option Bytes) (start : Device World)
    (region : Bytes) (limit : Nat) (zone : UInt8) (count : Nat) (device : Device World) : Prop where
  since : Since hal zone start device
  chunks : forall index, index < count -> index * 480 < limit ->
    view device.world zone (index * 488) =
      some (slice region (index * 480) (min (limit - index * 480) 480))
  kept : forall other position bytes, view start.world other position = some bytes ->
    other ≠ zone ∨ (exists index, limit ≤ index * 480 ∧ position = index * 488) ->
    view device.world other position = some bytes

/-- The exit of a store that failed. -/
def StoreFailed (hal : Hal World) (reason : Leaving Int) (_ : Device World) : Prop :=
  reason = .returned (-1) ∧ ¬ Reliable hal

theorem storeEnvelopes_triple (lawful : Lawful hal view) {region : Bytes} {limit : Nat} {zone : UInt8}
    (aligned : Aligned zone limit) (fits : limit ≤ region.length) :
    Triple (fun device => device = start) (storeEnvelopes hal (some region) limit zone)
      (fun _ => Written hal view start region limit zone
        (strides maxEncryptDataSize limit).length) (StoreFailed hal) := by
  have below := aligned.le
  refine (Triple.foldlM (fun count _ => Written hal view start region limit zone count) ?_ ()).strengthen ?_
  · rintro index item _ found
    rcases getElem?_strides (by decide) found with ⟨rfl, inside⟩
    change item * 480 < limit at inside
    apply Triple.fix
    intro reached written
    have chunk : item * 480 < dataSegmentLength zone := by omega
    have room : item * 480 + min (limit - item * 480) 480 ≤ region.length := by omega
    have step : Triple (fun device => device = reached)
        (storeDataWithinEnvelop hal zone (min (limit - item * 480) 480) (some region) (item * 480) (item * 488))
        (fun failed device => if failed = true then ¬ Reliable hal else
          Written hal view start region limit zone (item + 1) device) (StoreFailed hal) := by
      refine storeDataWithinEnvelop_triple lawful chunk (aligned.size inside) room ?_ ?_
      · intro device unreliable
        exact unreliable
      · intro device since stored kept
        refine ⟨written.since.trans since, ?_, ?_⟩
        · intro index early more
          by_cases last : index = item
          · rw [last]
            exact stored
          · have before : index < item := by omega
            refine kept _ _ _ (written.chunks index before more) (Or.inr (apart_of_lt before ?_))
            rw [slice, List.length_take]
            exact (Nat.min_le_left _ _).trans (Nat.min_le_right _ _)
        · intro other position bytes found apart
          refine kept _ _ _ (written.kept _ _ _ found apart) (apart.imp_right ?_)
          rintro ⟨index, past, rfl⟩
          exact (apart_of_lt (by omega) (Nat.min_le_right _ _)).symm
    refine step.bind fun failed => Triple.reject ?_ ?_
    · rintro rfl device unreliable
      exact ⟨rfl, unreliable⟩
    · intro succeeded device holds
      rw [if_neg succeeded] at holds
      exact holds
  · rintro device rfl
    exact ⟨Since.refl _ _ _, fun _ early => absurd early (Nat.not_lt_zero _), fun _ _ _ found _ => found⟩

/-- The part of a zone that the read loop has copied after a number of passes. -/
structure Loaded (hal : Hal World) (view : World -> UInt8 -> Nat -> Option Bytes) (start : Device World)
    (bytes : Bytes) (zone : UInt8) (count : Nat) (buf : Pointer) (device : Device World) : Prop where
  since : Since hal zone start device
  view : view device.world = view start.world
  buffer : exists region, buf = some region ∧ region.length = maxBufferSize ∧
    region.take (min (count * 480) bytes.length) = bytes.take (min (count * 480) bytes.length)

/-- Copying the next chunk behind the ones before it. -/
theorem take_splice_chunk {region bytes : Bytes} {index : Nat} (inside : index * 480 < bytes.length)
    (room : bytes.length ≤ region.length)
    (before : region.take (min (index * 480) bytes.length) = bytes.take (min (index * 480) bytes.length)) :
    (splice region (index * 480) (slice bytes (index * 480) 480)).take (min ((index + 1) * 480) bytes.length) =
      bytes.take (min ((index + 1) * 480) bytes.length) := by
  have length := length_chunk bytes index
  have reach : min ((index + 1) * 480) bytes.length =
      index * 480 + (slice bytes (index * 480) 480).length := by
    rw [length]
    omega
  rw [Nat.min_eq_left (Nat.le_of_lt inside)] at before
  rw [reach, take_splice (by omega), before, List.take_add, length, slice]
  congr 1
  by_cases whole : 480 ≤ bytes.length - index * 480
  · rw [Nat.min_eq_right whole]
  · rw [Nat.min_eq_left (by omega), List.take_of_length_le (by rw [List.length_drop]; omega),
      List.take_of_length_le (by rw [List.length_drop])]

/-- Reading through the envelopes of a formatted zone returns a part of its
bytes and changes no envelope. -/
theorem readWithEnvelope_triple (lawful : Lawful hal view) {zone : UInt8} {bytes buffer : Bytes}
    {buffSize offset : Nat} {exited : Leaving (Int × Pointer) -> Device World -> Prop}
    (formatted : Formatted view start.world zone bytes) (sized : bytes.length = dataSegmentLength zone)
    (inside : buffSize + offset ≤ bytes.length) (fits : buffSize ≤ buffer.length) :
    Triple (fun device => device = start) (readWithEnvelope hal (some buffer) buffSize offset zone)
      (fun answer device => answer = ((buffSize : Int), some (splice buffer 0 (slice bytes offset buffSize))) ∧
        Since hal zone start device ∧ view device.world = view start.world) exited := by
  have short := dataSegmentLength_le zone
  refine malloc_triple lawful maxBufferSize fun region length => ?_
  have allocated : Loaded hal view start bytes zone 0 (some region)
      ⟨(hal.malloc maxBufferSize start.world).2, start.log⟩ := by
    refine ⟨Since.malloc lawful zone start _, lawful.view_malloc _ _, region, rfl, length, ?_⟩
    rw [Nat.zero_mul, Nat.zero_min, List.take_zero, List.take_zero]
  refine Triple.bind
    (Triple.start (Triple.foldlM (Loaded hal view start bytes zone) ?_ (some region)) allocated) fun buf => ?_
  rotate_left
  · apply Triple.fix
    rintro reached ⟨since, same, filled, rfl, large, front⟩
    have all : ¬ (strides maxEncryptDataSize (buffSize + offset)).length * 480 < buffSize + offset := by
      intro more
      exact Nat.lt_irrefl _ ((lt_length_strides (by decide)).mpr more)
    have reach : offset + buffSize ≤
        min ((strides maxEncryptDataSize (buffSize + offset)).length * 480) bytes.length := by omega
    have copied : slice filled offset buffSize = slice bytes offset buffSize := by
      rw [← slice_take filled _ offset buffSize reach, front, slice_take bytes _ offset buffSize reach]
    change filled.length = 1000 at large
    refine Triple.defined (fetch_some (by omega)) (Triple.defined (store_some ?_) (Triple.pure ?_))
    · rw [length_slice filled offset buffSize (by omega)]
      omega
    · rintro device rfl
      exact ⟨congrArg (fun part => ((buffSize : Int), some (splice buffer 0 part))) copied, since, same⟩
  · rintro index item buf found
    rcases getElem?_strides (by decide) found with ⟨rfl, more⟩
    change item * 480 < buffSize + offset at more
    apply Triple.fix
    rintro reached ⟨since, same, filled, rfl, large, front⟩
    change filled.length = 1000 at large
    have chunk : item * 480 < dataSegmentLength zone := by omega
    have room : item * 480 + min (dataSegmentLength zone - item * 480) 480 ≤ filled.length := by omega
    have present := formatted item (by omega)
    rw [← same] at present
    have length := length_chunk bytes item
    rw [sized] at length
    refine (getDataWithinEnvelop_triple lawful chunk rfl room present length).bind fun answer => ?_
    apply Triple.fix
    rintro next ⟨rfl, later, still⟩
    refine Triple.ite (fun impossible => (nomatch impossible)) fun _ => Triple.pure ?_
    rintro device rfl
    refine ⟨since.trans later, still.trans same, _, rfl, ?_, take_splice_chunk (by omega) (by omega) front⟩
    rw [length_splice (by omega)]
    exact large

/-- The string that lies in the envelopes after the chunks before an aligned
limit have been stored. -/
theorem Written.formatted {device : Device World} {region bytes : Bytes} {limit : Nat} {zone : UInt8}
    (written : Written hal view start region limit zone (strides maxEncryptDataSize limit).length device)
    (aligned : Aligned zone limit) (fits : limit ≤ region.length) (sized : bytes.length = dataSegmentLength zone)
    (before : forall index, limit ≤ index * 480 -> index * 480 < bytes.length ->
      view start.world zone (index * 488) = some (slice bytes (index * 480) 480)) :
    Formatted view device.world zone (region.take limit ++ bytes.drop limit) := by
  have below := aligned.le
  have front : (region.take limit).length = limit := by
    rw [List.length_take, Nat.min_eq_left fits]
  intro index more
  rw [List.length_append, front, List.length_drop] at more
  by_cases inside : index * 480 < limit
  · have cut : slice (region.take limit ++ bytes.drop limit) (index * 480) 480 =
        slice (region.take limit) (index * 480) 480 := by
      rcases aligned with whole | ⟨_, multiple⟩
      · rw [List.drop_eq_nil_of_le (by omega), List.append_nil]
      · exact slice_append_left _ _ _ _ (by omega)
    rw [written.chunks index ((lt_length_strides (by decide)).mpr inside) inside, cut, slice, slice,
      List.drop_take, List.take_take, Nat.min_comm]
  · rw [written.kept zone _ _ (before index (by omega) (by omega)) (Or.inr ⟨index, by omega, rfl⟩),
      slice_append_right _ _ _ _ (by omega), front, slice, slice, List.drop_drop]
    congr 3
    omega

/-- The chunks that the first bytes of a zone reach. -/
theorem aligned_readSize {zone : UInt8} {size : Nat} (positive : 0 < size) (within : size ≤ dataSegmentLength zone) :
    Aligned zone (min (dataSegmentLength zone) (((size - 1) / maxEncryptDataSize + 1) * maxEncryptDataSize)) ∧
      size ≤ min (dataSegmentLength zone) (((size - 1) / maxEncryptDataSize + 1) * maxEncryptDataSize) := by
  rw [Aligned, maxEncryptDataSize]
  omega

/-- Overwriting the front of a copied part and putting the part back. -/
theorem take_splice_splice {region bytes data : Bytes} {limit : Nat} (within : limit ≤ bytes.length)
    (short : data.length ≤ limit) :
    (splice (splice region 0 (slice bytes 0 limit)) 0 data).take limit ++ bytes.drop limit =
      splice bytes 0 data := by
  have length : (slice bytes 0 limit).length = limit := length_slice bytes 0 limit (by omega)
  have middle : (slice bytes 0 limit ++ region.drop limit).drop data.length =
      (slice bytes 0 limit).drop data.length ++ region.drop limit :=
    List.drop_append_of_le_length (by omega)
  have whole : (data ++ (slice bytes 0 limit).drop data.length).length = limit := by
    rw [List.length_append, List.length_drop, length]
    omega
  rw [splice_zero, splice_zero, splice_zero, length, middle, ← List.append_assoc, List.take_left' whole,
    List.append_assoc, slice, List.drop_zero, ← List.drop_append_of_le_length, List.take_append_drop]
  rw [List.length_take]
  omega

/-- Writing through the envelopes of a formatted zone replaces its first bytes
and keeps the other zones, unless a store fails. -/
theorem writeWithEnvelope_triple (lawful : Lawful hal view) {zone : UInt8} {bytes data : Bytes} {buffSize : Nat}
    (formatted : Formatted view start.world zone bytes) (sized : bytes.length = dataSegmentLength zone)
    (positive : 0 < buffSize) (within : buffSize ≤ bytes.length) (fits : buffSize ≤ data.length) :
    Triple (fun device => device = start) (writeWithEnvelope hal (some data) buffSize zone)
      (fun code device => code = 0 ∧ Since hal zone start device ∧
        Formatted view device.world zone (splice bytes 0 (data.take buffSize)) ∧
        forall other, other ≠ zone -> forall position kept, view start.world other position = some kept ->
          view device.world other position = some kept) (StoreFailed hal) := by
  have short := dataSegmentLength_le zone
  rcases aligned_readSize positive (sized ▸ within) with ⟨aligned, reaches⟩
  have below := aligned.le
  unfold writeWithEnvelope
  generalize min (dataSegmentLength zone)
    (((buffSize - 1) / maxEncryptDataSize + 1) * maxEncryptDataSize) = readSize at aligned reaches below ⊢
  refine malloc_triple lawful maxBufferSize fun region length => ?_
  change region.length = 1000 at length
  have allocated := Since.malloc lawful zone start maxBufferSize
  have still : view (hal.malloc maxBufferSize start.world).2 = view start.world := lawful.view_malloc _ _
  have unchanged : Formatted view (hal.malloc maxBufferSize start.world).2 zone bytes := by
    intro index more
    rw [still]
    exact formatted index more
  refine Triple.bind (Triple.call (readWithEnvelope_triple lawful unchanged sized (by omega) (by omega)))
    fun readResult => ?_
  apply Triple.fix
  rintro reached ⟨rfl, since, same⟩
  rw [still] at same
  refine Triple.guard (fun different => absurd rfl different) fun _ => ?_
  have front : (slice data 0 buffSize).length = buffSize := length_slice data 0 buffSize (by omega)
  have part : (slice bytes 0 readSize).length = readSize := length_slice bytes 0 readSize (by omega)
  have loaded : (splice region 0 (slice bytes 0 readSize)).length = 1000 := by
    rw [length_splice (by omega), length]
  refine Triple.defined (fetch_some (by omega)) (Triple.defined (store_some ?_) ?_)
  · rw [front, loaded]
    omega
  have room : readSize ≤ (splice (splice region 0 (slice bytes 0 readSize)) 0 (slice data 0 buffSize)).length := by
    rw [length_splice (by omega), loaded]
    omega
  refine Triple.bind (storeEnvelopes_triple lawful aligned room) fun _ => Triple.pure ?_
  intro device written
  have rewritten := written.formatted aligned room sized fun index _ more => by
    rw [same]
    exact formatted index more
  rw [take_splice_splice (by omega) (front.trans_le reaches)] at rewritten
  refine ⟨rfl, (allocated.trans since).trans written.since, rewritten, ?_⟩
  intro other different position kept found
  exact written.kept other position kept (by rw [same]; exact found) (Or.inl different)

end Loops

end Eeprom
end DevKit

import DevKit.Eeprom.Zones
import DevKit.Foundation.CString

namespace DevKit
namespace Eeprom

open Procedure

/-!
# Saved settings

The settings are strings.  Each kind has its zones: a network name, a password
and a connection string have one zone each, and a certificate is cut over
three zones that do not lie next to each other.  A value is saved together
with its terminator, and what lies behind the terminator is left over from
longer values.

The proofs need only that the interface behaves as byte arrays do, which is
the content of `ByteArrays`.  On arrays a value of a kind is a prefix of the
concatenated zones of that kind, and this is what a later read copies.
-/

variable {World : Type}

/-! ## The functions -/

section Functions

variable (hal : Hal World)

def wifiSsidMaxLen : Nat := 32

def wifiPwdMaxLen : Nat := 64

def deviceConnectionMaxLen : Nat := 512

/-- `STSAFE_ZONE_0_SIZE + STSAFE_ZONE_7_SIZE + STSAFE_ZONE_8_SIZE - 1`. -/
def x509MaxLen : Nat := dataSegmentLength 0 + dataSegmentLength 7 + dataSegmentLength 8 - 1

def wifiSsidZone : UInt8 := 3

def wifiPwdZone : UInt8 := 10

def deviceConnectionZone : UInt8 := 5

def writeWithVerify (dataBuff : Pointer) (dataSize : Nat) (zone : UInt8) :
    Procedure (Device World) (Leaving Int) Int := do
  let result <- call (write hal dataBuff dataSize zone)
  reject (result ≠ 0) (.returned (-1))
  let pBuff <- malloc hal dataSize
  let answer <- call (read hal pBuff dataSize 0 zone)
  if answer.1 ≠ dataSize then pure (-1)
  else do
    let expected <- defined (fetch dataBuff 0 dataSize)
    let actual <- defined (fetch answer.2 0 dataSize)
    if expected ≠ actual then pure (-1) else pure 0

def saveWiFiSetting (ssid pwd : Pointer) : Procedure (Device World) (Leaving Int) Int := do
  reject (ssid = none) (.returned (-1))
  let first <- defined (fetch ssid 0 1)
  reject (first.bytes = [0]) (.returned (-1))
  let ssidLength <- defined (strlen ssid)
  reject (ssidLength > wifiSsidMaxLen) (.returned (-1))
  if pwd ≠ none then do
    let pwdLength <- defined (strlen pwd)
    reject (pwdLength > wifiPwdMaxLen) (.returned (-1))
  let ret <- call (writeWithVerify hal ssid (ssidLength + 1) wifiSsidZone)
  reject (ret ≠ 0) (.returned (-1))
  if pwd = none then call (writeWithVerify hal (some [0]) 1 wifiPwdZone)
  else do
    let pwdLength <- defined (strlen pwd)
    call (writeWithVerify hal pwd (pwdLength + 1) wifiPwdZone)

def saveDeviceConnectionString (deviceString : Pointer) : Procedure (Device World) (Leaving Int) Int := do
  let len <- if deviceString = none then pure 1 else do
    let length <- defined (strlen deviceString)
    pure (length + 1)
  reject (len > deviceConnectionMaxLen) (.returned (-1))
  if deviceString = none then call (writeWithVerify hal (some [0]) 1 deviceConnectionZone)
  else call (writeWithVerify hal deviceString len deviceConnectionZone)

/-- Save the next piece of a certificate in a zone, if anything is left.  The
value is the number of bytes written so far. -/
def saveX509Piece (x509Cert : Pointer) (len written : Nat) (zone : UInt8) :
    Procedure (Device World) (Leaving Int) Nat :=
  if len - written > 0 then do
    let size := if len - written > dataSegmentLength zone then dataSegmentLength zone else len - written
    let result <- call (writeWithVerify hal (advance x509Cert written) size zone)
    reject (result ≠ 0) (.returned (-1))
    pure (written + size)
  else pure written

/-- The length before the first piece is positive, so that the source does not
test it there. -/
def saveX509Cert (x509Cert : Pointer) : Procedure (Device World) (Leaving Int) Int := do
  reject (x509Cert = none) (.returned (-1))
  let length <- defined (strlen x509Cert)
  reject (length > x509MaxLen) (.returned (-1))
  let written <- saveX509Piece hal x509Cert (length + 1) 0 0
  let written <- saveX509Piece hal x509Cert (length + 1) written 7
  let _ <- saveX509Piece hal x509Cert (length + 1) written 8
  pure 0

/-- The code, and both buffers afterwards. -/
def readWiFiSetting (ssid : Pointer) (ssidSize : Int) (pwd : Pointer) (pwdSize : Int) :
    Procedure (Device World) (Leaving (Int × Pointer × Pointer)) (Int × Pointer × Pointer) := do
  reject (ssid = none ∨ ssidSize ≤ 0) (.returned (-1, ssid, pwd))
  let answer <- call (read hal ssid ssidSize 0 wifiSsidZone)
  reject (answer.1 = -1) (.returned (-1, answer.2, pwd))
  let ssid <- defined (store answer.2 (ssidSize - 1).toNat [0])
  if pwd ≠ none ∧ pwdSize > 0 then do
    let answer <- call (read hal pwd pwdSize 0 wifiPwdZone)
    reject (answer.1 = -1) (.returned (-1, ssid, answer.2))
    let pwd <- defined (store answer.2 (pwdSize - 1).toNat [0])
    pure (0, ssid, pwd)
  else pure (0, ssid, pwd)

def readDeviceConnectionString (deviceConnString : Pointer) (buffSize : Int) :
    Procedure (Device World) (Leaving (Int × Pointer)) (Int × Pointer) := do
  reject (deviceConnString = none ∨ buffSize ≤ 0) (.returned (-1, deviceConnString))
  let answer <- call (read hal deviceConnString buffSize 0 deviceConnectionZone)
  reject (answer.1 = -1) (.returned (-1, answer.2))
  let deviceConnString <- defined (store answer.2 (buffSize - 1).toNat [0])
  pure (0, deviceConnString)

/-- Read the next piece of a certificate from a zone, if there is room left.
The value is the number of bytes of the buffer used so far, and the buffer. -/
def readX509Piece (buffSize : Int) (dataRead : Nat) (x509Cert : Pointer) (zone : UInt8) :
    Procedure (Device World) (Leaving (Int × Pointer)) (Nat × Pointer) :=
  if buffSize - dataRead > 0 then do
    let size := if buffSize - dataRead > dataSegmentLength zone then (dataSegmentLength zone : Int)
      else buffSize - dataRead
    let answer <- call (read hal (advance x509Cert dataRead) size 0 zone)
    reject (answer.1 = -1) (.returned (-1, resume x509Cert dataRead answer.2))
    pure (dataRead + size.toNat, resume x509Cert dataRead answer.2)
  else pure (dataRead, x509Cert)

def readX509Cert (x509Cert : Pointer) (buffSize : Int) :
    Procedure (Device World) (Leaving (Int × Pointer)) (Int × Pointer) := do
  reject (x509Cert = none ∨ buffSize ≤ 0) (.returned (-1, x509Cert))
  let first <- readX509Piece hal buffSize 0 x509Cert 0
  let second <- readX509Piece hal buffSize first.1 first.2 7
  let third <- readX509Piece hal buffSize second.1 second.2 8
  let x509Cert <- defined (store third.2 (buffSize - 1).toNat [0])
  pure (0, x509Cert)

end Functions

/-! ## Byte arrays -/

/-- The interface over this table behaves as byte arrays, and allocations
succeed. -/
structure ByteArrays (hal : Hal World) (holds : Arrays -> Device World -> Prop) : Prop where
  allocates : forall arrays device size, holds arrays device ->
    (exists buffer, (hal.malloc size device.world).1 = some buffer) ∧
      holds arrays ⟨(hal.malloc size device.world).2, device.log⟩
  writes : forall arrays start data (size : Int) zone, holds arrays start -> size ≤ List.length data ->
    Returns (fun device => device = start) (write hal (some data) size zone) fun code device =>
      code = (arrays.write data size zone).1 ∧ holds (arrays.write data size zone).2 device
  reads : forall arrays start buffer (size : Int) (offset : UInt16) zone, holds arrays start ->
    size ≤ List.length buffer -> size + offset.toNat < 2 ^ 31 ->
    Returns (fun device => device = start) (read hal (some buffer) size offset zone) fun answer device =>
      answer = arrays.read buffer size offset.toNat zone ∧ holds arrays device

/-- Zones in envelopes are byte arrays. -/
theorem Lawful.byteArrays {hal : Hal World} {view : World -> UInt8 -> Nat -> Option Bytes}
    (lawful : Lawful hal view) (reliable : Reliable hal) : ByteArrays hal (Represents hal view) where
  allocates _ device size represents :=
    ⟨lawful.allocates size device.world,
      represents.since (Since.malloc lawful 0 device size) (lawful.view_malloc size device.world)⟩
  writes _ _ _ _ zone represents fits := write_triple lawful reliable represents zone fits
  reads _ _ _ _ _ zone represents fits bounded := read_triple lawful represents zone fits bounded

/-- The arrays after bytes have been put at the front of a zone. -/
def Arrays.place (arrays : Arrays) (zone : UInt8) (data : Bytes) : Arrays :=
  Function.update arrays zone ((arrays zone).memcpy 0 data)

theorem Arrays.place_self (arrays : Arrays) {zone : UInt8} {data : Bytes}
    (fits : data.length ≤ dataSegmentLength zone) :
    (arrays.place zone data zone).bytes = splice (arrays zone).bytes 0 data := by
  rw [place, Function.update_self, Buffer.memcpy_bytes, splice]
  omega

theorem Arrays.place_of_ne (arrays : Arrays) {zone other : UInt8} (different : other ≠ zone) (data : Bytes) :
    arrays.place zone data other = arrays other := by
  rw [place, Function.update_of_ne different]

/-- A read from the start of a zone copies the front of it. -/
theorem Arrays.read_front (arrays : Arrays) {buffer : Bytes} {size : Int} {zone : UInt8} (positive : 0 < size)
    (nonempty : 0 < dataSegmentLength zone) :
    arrays.read buffer size 0 zone = (min size (dataSegmentLength zone : Nat),
      some (splice buffer 0 ((arrays zone).bytes.take size.toNat))) := by
  have whole : (arrays zone).bytes.take (dataSegmentLength zone) = (arrays zone).bytes :=
    List.take_of_length_le (Nat.le_of_eq (arrays zone).length_eq)
  rw [read, if_pos ⟨positive, nonempty⟩, Nat.sub_zero, slice, List.drop_zero, ← List.take_take, whole]

/-- A write that fits puts its bytes at the front of the zone. -/
theorem Arrays.write_front (arrays : Arrays) {data : Bytes} {size : Nat} {zone : UInt8} (positive : 0 < size)
    (within : size ≤ dataSegmentLength zone) :
    arrays.write data size zone = (0, arrays.place zone (data.take size)) := by
  rw [write, if_pos (by omega), Int.toNat_natCast]
  rfl

/-- What was put at the front of a zone is read back into a buffer of its size. -/
theorem Arrays.read_placed (arrays : Arrays) {data : Bytes} {zone : UInt8} (positive : 0 < data.length)
    (within : data.length ≤ dataSegmentLength zone) {buffer : Bytes} (sized : buffer.length = data.length) :
    (arrays.place zone data).read buffer data.length 0 zone = ((data.length : Int), some data) := by
  have front : (splice (arrays zone).bytes 0 data).take data.length = data := by rw [splice_zero, List.take_left]
  rw [read_front _ (by omega) (by omega), arrays.place_self within, Int.toNat_natCast, front, splice_zero,
    List.drop_eq_nil_of_le (by omega), List.append_nil]
  congr 1
  omega

section Saving

variable {hal : Hal World} {holds : Arrays -> Device World -> Prop} {arrays : Arrays} {start : Device World}

/-- What was written is read back, so the check succeeds. -/
theorem writeWithVerify_returns (eeprom : ByteArrays hal holds) (held : holds arrays start) {data : Bytes}
    {size : Nat} {zone : UInt8} (positive : 0 < size) (within : size ≤ dataSegmentLength zone)
    (fits : size ≤ data.length) :
    Returns (fun device => device = start) (writeWithVerify hal (some data) size zone) fun code device =>
      code = 0 ∧ holds (arrays.place zone (data.take size)) device := by
  have short := dataSegmentLength_le zone
  have written := eeprom.writes arrays start data size zone held (by omega)
  rw [arrays.write_front positive within] at written
  refine Triple.bind written.call fun result => Triple.fix ?_
  rintro middle ⟨rfl, placed⟩
  refine Triple.guard (fun different => absurd rfl different) fun _ => ?_
  rcases eeprom.allocates _ _ size placed with ⟨⟨buffer, allocated⟩, still⟩
  refine malloc_some allocated ?_
  have length := buffer.length_eq
  have piece : (data.take size).length = size := by
    rw [List.length_take]
    omega
  have copied : (arrays.place zone (data.take size)).read buffer.bytes (data.take size).length 0 zone =
      (((data.take size).length : Int), some (data.take size)) :=
    arrays.read_placed (by omega) (by omega) (by omega)
  rw [piece] at copied
  have readBack := eeprom.reads _ _ buffer.bytes size 0 zone still (by omega)
    (show (size : Int) + (0 : Nat) < 2 ^ 31 by omega)
  refine Triple.bind readBack.call fun answer => Triple.fix ?_
  rintro reached ⟨answered, unchanged⟩
  rw [show (0 : UInt16).toNat = 0 from rfl, copied] at answered
  subst answered
  refine Triple.ite (fun different => absurd rfl different) fun _ => ?_
  refine Triple.defined (fetch_some (by omega)) (Triple.defined (fetch_some (by omega)) ?_)
  refine Triple.ite (fun different => absurd ?_ different) fun _ => Triple.pure ?_
  · ext1
    exact (slice_zero_length _ _ piece).symm
  · rintro device rfl
    exact ⟨rfl, unchanged⟩

end Saving

/-! ## Kinds of settings -/

inductive Kind where
  | ssid
  | password
  | connection
  | certificate
deriving Repr, DecidableEq

/-- The zones of a kind, in the order in which its values are cut. -/
def Kind.zones : Kind -> List UInt8
  | .ssid => [wifiSsidZone]
  | .password => [wifiPwdZone]
  | .connection => [deviceConnectionZone]
  | .certificate => [0, 7, 8]

/-- No zone belongs to two kinds. -/
theorem Kind.zones_disjoint {kind other : Kind} (different : other ≠ kind) (zone : UInt8)
    (member : zone ∈ other.zones) : zone ∉ kind.zones := by
  have table : (other.zones.all fun zone => !kind.zones.contains zone) = true := by
    cases other <;> cases kind <;> first | rfl | exact absurd rfl different
  have outside := List.all_eq_true.mp table zone member
  intro inside
  rw [List.contains_iff_mem.mpr inside] at outside
  cases outside

namespace Arrays

/-- The bytes of some zones, one zone behind the other. -/
def joined (arrays : Arrays) (zones : List UInt8) : Bytes :=
  zones.flatMap fun zone => (arrays zone).bytes

/-- Put bytes at the front of some zones, each as far as it goes. -/
def placeAll : List UInt8 -> Bytes -> Arrays -> Arrays
  | [], _, arrays => arrays
  | zone :: zones, data, arrays =>
      placeAll zones (data.drop (dataSegmentLength zone)) (arrays.place zone (data.take (dataSegmentLength zone)))

theorem place_nil (arrays : Arrays) (zone : UInt8) : arrays.place zone [] = arrays := by
  rw [place]
  refine (congrArg (Function.update arrays zone) ?_).trans (Function.update_eq_self zone arrays)
  ext1
  rw [Buffer.memcpy_bytes _ _ _ (Nat.zero_le _), List.take_zero, List.nil_append, List.nil_append,
    List.length_nil, List.drop_zero]

theorem placeAll_single (arrays : Arrays) {zone : UInt8} {data : Bytes}
    (fits : data.length ≤ dataSegmentLength zone) : placeAll [zone] data arrays = arrays.place zone data := by
  rw [placeAll, placeAll, List.take_of_length_le fits]

theorem placeAll_of_not_mem {zones : List UInt8} {other : UInt8} (absent : other ∉ zones) (data : Bytes)
    (arrays : Arrays) : placeAll zones data arrays other = arrays other := by
  induction zones generalizing data arrays with
  | nil => rfl
  | cons zone zones inductionHypothesis =>
      rw [List.mem_cons, not_or] at absent
      rw [placeAll, inductionHypothesis absent.2, place_of_ne arrays absent.1]

theorem joined_placeAll_of_disjoint {zones others : List UInt8}
    (disjoint : forall other, other ∈ others -> other ∉ zones) (data : Bytes) (arrays : Arrays) :
    (placeAll zones data arrays).joined others = arrays.joined others := by
  unfold joined
  rw [List.flatMap_def, List.flatMap_def, List.map_congr_left]
  intro other member
  rw [placeAll_of_not_mem (disjoint other member)]

/-- Bytes that fit into some zones begin what these zones hold together. -/
theorem prefix_joined_placeAll {zones : List UInt8} (distinct : zones.Nodup) {data : Bytes} (arrays : Arrays)
    (fits : data.length ≤ (zones.map dataSegmentLength).sum) :
    data <+: (placeAll zones data arrays).joined zones := by
  induction zones generalizing data arrays with
  | nil =>
      rw [List.length_eq_zero_iff.mp (Nat.le_zero.mp fits)]
      exact List.nil_prefix
  | cons zone zones inductionHypothesis =>
      rcases List.nodup_cons.mp distinct with ⟨absent, others⟩
      rw [List.map_cons, List.sum_cons] at fits
      have length := (arrays zone).length_eq
      have left : (data.drop (dataSegmentLength zone)).length ≤ (zones.map dataSegmentLength).sum := by
        rw [List.length_drop]
        omega
      have rest := inductionHypothesis others (arrays.place zone (data.take (dataSegmentLength zone))) left
      have first : (placeAll (zone :: zones) data arrays zone).bytes =
          splice (arrays zone).bytes 0 (data.take (arrays zone).bytes.length) := by
        rw [placeAll, placeAll_of_not_mem absent, place_self, length]
        rw [List.length_take]
        exact Nat.min_le_left _ _
      rw [joined, List.flatMap_cons, first]
      apply prefix_splice_append
      rw [length]
      exact rest

end Arrays

/-- Every value that was saved begins the zones of its kind. -/
def Kept (settings : Kind -> Option Bytes) (arrays : Arrays) : Prop :=
  forall kind value, settings kind = some value ->
    0 ∉ value ∧ value ++ [0] <+: arrays.joined kind.zones

theorem Kept.save {settings : Kind -> Option Bytes} {arrays : Arrays} (kept : Kept settings arrays) (kind : Kind)
    {text : Text} (fits : text.stored.length ≤ (kind.zones.map dataSegmentLength).sum) :
    Kept (Function.update settings kind (some text.characters))
      (Arrays.placeAll kind.zones text.stored arrays) := by
  intro other value found
  by_cases same : other = kind
  · subst same
    rw [Function.update_self] at found
    cases found
    have distinct : other.zones.Nodup := by
      cases other <;> decide
    exact ⟨text.plain, Arrays.prefix_joined_placeAll distinct arrays fits⟩
  · rw [Function.update_of_ne same] at found
    rw [Arrays.joined_placeAll_of_disjoint (Kind.zones_disjoint same)]
    exact kept other value found

end Eeprom
end DevKit

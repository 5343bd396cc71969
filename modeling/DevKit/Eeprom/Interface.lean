import DevKit.Foundation.CheckedMemory

namespace DevKit
namespace Eeprom

open Procedure

/-!
# The EEPROM interface

`EEPROMInterface` stores settings in the zones of a secure chip.  Before the
secure channel is enabled a zone is read and written as it is; afterwards its
bytes are cut into chunks of 480 bytes, and each chunk is kept in an encrypted
envelope of its own.  Enabling the channel moves every zone from the first
form to the second.

The chip's library is not part of this repository.  `Hal` is the table of the
operations the interface uses, over a world that holds whatever the library,
the chip and the flash option bytes hold, and also the handle that `Init_HAL`
returns.  A device is such a world with a log: each use of an envelope is
recorded, and so is what each plain read left in its buffer.

Sizes are integers where a caller chooses them.  In the functions behind the
checks of `write` and `read` they are positive and at most the length of a
zone, and so they are natural numbers there.
-/

def maxBufferSize : Nat := 1000

def maxEncryptDataSize : Nat := 480

def maxEnvelopeSize : Nat := 488

/-- `DATA_SEGMENT_LENGTH`. -/
def dataSegmentLengths : List Nat :=
  [976, 0, 192, 120, 0, 584, 680, 784, 880, 0, 88]

/-- `DATA_SEGMENT_LENGTH[dataZoneIndex]`.  There is no zone behind the last
entry, which `checkZoneSize` finds out before it reads the table. -/
def dataSegmentLength (zone : UInt8) : Nat :=
  dataSegmentLengths.getD zone.toNat 0

/-- The zone indices that the migration loop runs through. -/
def zones : List UInt8 :=
  [0, 1, 2, 3, 4, 5, 6, 7, 8, 9, 10]

/-- The operations of the chip's library, of the allocator and of the flash
option bytes.  A read is given the bytes that lie at its destination and
answers with the bytes that lie there afterwards, also when it fails.  The
first component of each answer says whether the operation failed. -/
structure Hal (World : Type) where
  initHal : World -> Bool × World
  freeHal : World -> World
  initPerso : (persoType pcropEnable : Int) -> (key : Pointer) -> World -> World
  /-- `Sectors` as `HAL_FLASHEx_AdvOBGetConfig` reports it. -/
  sectors : World -> UInt16
  /-- The half word at `PCROP_ADDR`. -/
  pcropCode : World -> UInt16
  malloc : (size : Nat) -> World -> Option (Buffer size) × World
  storeDataZone : (zone : UInt8) -> (size : Nat) -> Buffer size -> (offset : Nat) -> World -> Bool × World
  getDataZone : (zone : UInt8) -> (size : Nat) -> Buffer size -> (offset : Nat) -> World ->
    (Bool × Buffer size) × World
  storeDataWithinEnvelop : (zone : UInt8) -> (size : Nat) -> Buffer size -> (offset : Nat) -> World ->
    Bool × World
  getDataWithinEnvelop : (zone : UInt8) -> (size : Nat) -> Buffer size -> (offset : Nat) -> World ->
    (Bool × Buffer size) × World

/-- What the log records: an envelope that was stored or read, and the end of
a plain read with the bytes that lie in its buffer then. -/
inductive Event where
  | envelope (zone : UInt8) (size offset : Nat)
  | plainRead (zone : UInt8) (failed : Bool) (bytes : Bytes)
deriving Repr, DecidableEq

structure Device (World : Type) where
  world : World
  log : List Event

variable {World Exit Value : Type}

/-- Ask the world for an answer and record events. -/
def ask (operation : World -> Value × World) (record : Value -> List Event) :
    Procedure (Device World) Exit Value :=
  fun device =>
    (.ok (operation device.world).1,
      ⟨(operation device.world).2, device.log ++ record (operation device.world).1⟩)

section Operations

variable (hal : Hal World)

/-- `Init_HAL(STSAFE_I2C_ADDRESS, &handle)`. -/
def initHal : Procedure (Device World) Exit Bool :=
  ask hal.initHal fun _ => []

/-- `Free_HAL(handle)`. -/
def freeHal : Procedure (Device World) Exit Unit :=
  ask (fun world => ((), hal.freeHal world)) fun _ => []

/-- `Init_Perso(handle, persoType, pcropEnable, key)`. -/
def initPerso (persoType pcropEnable : Int) (key : Pointer) : Procedure (Device World) Exit Unit :=
  ask (fun world => ((), hal.initPerso persoType pcropEnable key world)) fun _ => []

/-- `malloc(size)`. -/
def malloc (size : Nat) : Procedure (Device World) Exit Pointer := do
  let allocated <- ask (hal.malloc size) fun _ => []
  pure (allocated.map Buffer.bytes)

/-- `HAL_Store_Data_WithinEnvelop(handle, zone, size, source + position, offset)`. -/
def storeDataWithinEnvelop (zone : UInt8) (size : Nat) (source : Pointer) (position offset : Nat) :
    Procedure (Device World) (Leaving Value) Bool := do
  let data <- defined (fetch source position size)
  ask (hal.storeDataWithinEnvelop zone size data offset) fun _ => [.envelope zone size offset]

/-- `HAL_Get_Data_WithinEnvelop(handle, zone, size, target + position, offset)`,
with the target as it is left. -/
def getDataWithinEnvelop (zone : UInt8) (size : Nat) (target : Pointer) (position offset : Nat) :
    Procedure (Device World) (Leaving Value) (Bool × Pointer) := do
  let before <- defined (fetch target position size)
  let answer <- ask (hal.getDataWithinEnvelop zone size before offset) fun _ => [.envelope zone size offset]
  let target <- defined (store target position answer.2.bytes)
  pure (answer.1, target)

/-- `HAL_Store_Data_Zone(handle, zone, size, source, offset)`. -/
def storeDataZone (zone : UInt8) (size : Nat) (source : Pointer) (offset : Nat) :
    Procedure (Device World) (Leaving Value) Bool := do
  let data <- defined (fetch source 0 size)
  ask (hal.storeDataZone zone size data offset) fun _ => []

/-- `HAL_Get_Data_Zone(handle, zone, size, target, offset)`. -/
def getDataZone (zone : UInt8) (size : Nat) (target : Pointer) (offset : Nat) :
    Procedure (Device World) (Leaving Value) (Bool × Pointer) := do
  let before <- defined (fetch target 0 size)
  let answer <- ask (hal.getDataZone zone size before offset)
    fun answer => [.plainRead zone answer.1 answer.2.bytes]
  let target <- defined (store target 0 answer.2.bytes)
  pure (answer.1, target)

end Operations

/-! ## The private functions -/

/-- Read-out protection of a flash sector, from the option bytes. -/
def pcropCheck (sectors sector : UInt16) : Bool :=
  (sectors &&& 0x8000 == 0x8000) && (sectors &&& sector == sector)

section Functions

variable (hal : Hal World)

def isHostSecureChannelEnabled (world : World) : Bool :=
  !(!pcropCheck (hal.sectors world) 0x0004 && hal.pcropCode world != 0xb4f0)

/-- The answer of the check and the size as it leaves it. -/
def checkZoneSize (zone : UInt8) (size : Int) (write : Bool) : Bool × Int :=
  if zone > 10 ∨ dataSegmentLength zone = 0 then (true, size)
  else if size ≤ 0 then (true, size)
  else if write = true ∧ size > dataSegmentLength zone then (true, size)
  else if size > dataSegmentLength zone then (false, dataSegmentLength zone)
  else (false, size)

/-- The loop that stores the first `limit` bytes of a buffer chunk by chunk.
A failing store returns `-1` from the function the loop stands in. -/
def storeEnvelopes (buf : Pointer) (limit : Nat) (zone : UInt8) :
    Procedure (Device World) (Leaving Int) Unit :=
  (strides maxEncryptDataSize limit).foldlM (fun _ i => do
    let dataSize := min (limit - i * maxEncryptDataSize) maxEncryptDataSize
    let failed <- storeDataWithinEnvelop hal zone dataSize buf (i * maxEncryptDataSize) (i * maxEnvelopeSize)
    reject (failed = true) (.returned (-1))) ()

/-- The number of bytes read, or `-1`, and the caller's buffer afterwards.  An
envelope that cannot be read is replaced by zeros. -/
def readWithEnvelope (dataBuff : Pointer) (buffSize offset : Nat) (zone : UInt8) :
    Procedure (Device World) (Leaving (Int × Pointer)) (Int × Pointer) := do
  let buf <- malloc hal maxBufferSize
  let buf <- (strides maxEncryptDataSize (buffSize + offset)).foldlM (fun buf i => do
    let dataSize := min (dataSegmentLength zone - i * maxEncryptDataSize) maxEncryptDataSize
    let answer <- getDataWithinEnvelop hal zone dataSize buf (i * maxEncryptDataSize) (i * maxEnvelopeSize)
    if answer.1 = true then do
      let buf <- defined (store answer.2 0 (List.replicate dataSize 0))
      let _ <- storeDataWithinEnvelop hal zone dataSize buf 0 (i * maxEnvelopeSize)
      leave (-1, dataBuff)
    else pure answer.2) buf
  let data <- defined (fetch buf offset buffSize)
  let dataBuff <- defined (store dataBuff 0 data.bytes)
  pure ((buffSize : Int), dataBuff)

def readWithoutEnvelope (dataBuff : Pointer) (buffSize offset : Nat) (zone : UInt8) :
    Procedure (Device World) (Leaving (Int × Pointer)) (Int × Pointer) := do
  let answer <- getDataZone hal zone buffSize dataBuff offset
  if answer.1 = true then leave (-1, answer.2) else pure ((buffSize : Int), answer.2)

/-- The chunks that the data reaches are read first, so that the rest of the
last one is kept. -/
def writeWithEnvelope (dataBuff : Pointer) (buffSize : Nat) (zone : UInt8) :
    Procedure (Device World) (Leaving Int) Int := do
  let readSize := min (dataSegmentLength zone)
    (((buffSize - 1) / maxEncryptDataSize + 1) * maxEncryptDataSize)
  let buf <- malloc hal maxBufferSize
  let readResult <- call (readWithEnvelope hal buf readSize 0 zone)
  reject (readResult.1 ≠ readSize) (.returned (-1))
  let data <- defined (fetch dataBuff 0 buffSize)
  let buf <- defined (store readResult.2 0 data.bytes)
  storeEnvelopes hal buf readSize zone
  pure 0

def writeWithoutEnvelope (dataBuff : Pointer) (buffSize : Nat) (zone : UInt8) :
    Procedure (Device World) (Leaving Int) Int := do
  let failed <- storeDataZone hal zone buffSize dataBuff 0
  if failed = true then leave (-1) else pure 0

/-! ## The public functions -/

def write (dataBuff : Pointer) (buffSize : Int) (zone : UInt8) :
    Procedure (Device World) (Leaving Int) Int := do
  let _ <- initHal hal
  reject (dataBuff = none ∨ (checkZoneSize zone buffSize true).1 = true) (.returned (-1))
  let buffSize := (checkZoneSize zone buffSize true).2
  let device <- Procedure.read
  if isHostSecureChannelEnabled hal device.world = true then
    call (writeWithEnvelope hal dataBuff buffSize.toNat zone)
  else
    call (writeWithoutEnvelope hal dataBuff buffSize.toNat zone)

def read (dataBuff : Pointer) (buffSize : Int) (offset : UInt16) (zone : UInt8) :
    Procedure (Device World) (Leaving (Int × Pointer)) (Int × Pointer) := do
  let _ <- initHal hal
  reject (dataBuff = none ∨ buffSize ≤ 0) (.returned (-1, dataBuff))
  let size <- defined (checkedInt (buffSize + offset.toNat))
  let checked := checkZoneSize zone size false
  reject (checked.1 = true ∨ checked.2 ≤ offset.toNat) (.returned (-1, dataBuff))
  let device <- Procedure.read
  if isHostSecureChannelEnabled hal device.world = true then
    call (readWithEnvelope hal dataBuff (checked.2 - offset.toNat).toNat offset.toNat zone)
  else
    call (readWithoutEnvelope hal dataBuff (checked.2 - offset.toNat).toNat offset.toNat zone)

/-- One pass of the migration loop.  The answer of the plain read is dropped,
as the source drops it. -/
def migrateZone (buf : Pointer) (zone : UInt8) : Procedure (Device World) (Leaving Int) Pointer :=
  let segmentLength := dataSegmentLength zone
  if segmentLength = 0 then pure buf
  else do
    let answer <- call (readWithoutEnvelope hal buf segmentLength 0 zone)
    storeEnvelopes hal answer.2 segmentLength zone
    pure answer.2

/-- The first test leaves only level 1; the tests for the other levels stand
behind it in the source as well. -/
def enableHostSecureChannel (level : Int) (key : Pointer) : Procedure (Device World) (Leaving Int) Int := do
  reject (level ≠ 1) (.returned (-1))
  let device <- Procedure.read
  reject (isHostSecureChannelEnabled hal device.world = true) (.returned 1)
  let initFailed <- initHal hal
  reject (level = 3 ∧ initFailed = false) (.returned (-1))
  reject (level = 2 ∧ key = none) (.returned (-1))
  if level = 1 then initPerso hal 0 0 none
  else if level = 2 then initPerso hal 2 1 key
  else if level = 3 then initPerso hal 1 1 none
  freeHal hal
  let _ <- initHal hal
  let buf <- malloc hal maxBufferSize
  let _ <- zones.foldlM (migrateZone hal) buf
  pure 0

end Functions
end Eeprom
end DevKit

import DevKit.Foundation.Procedure
import DevKit.Foundation.History
import DevKit.Ota.Digest

namespace DevKit
namespace Ota

/-!
# The staging session and its environment

The records of `OTAStaging.h` and `OTAStagingPlatform.h`, the global session
of `OTAStaging.cpp`, and the platform it runs on.  The preprocessor constants
of the headers appear as their values.  A `size_t` is a natural number: the
engine never holds one above `UINT32_MAX`, whatever the width of the type.

The platform is a table of state transformers over an arbitrary world, so one
quantification over the table and the world covers every sequence of answers,
including answers that depend on everything asked before.  A callback may
re-enter the engine through `OTAStagingAbort`; its answer says whether it did.
Every call that crosses the boundary of the engine is recorded in a log.
-/

inductive OTAStagingState where
  | idle | receiving | verifying | ready | activating | failed | cancelled | activated
deriving DecidableEq

inductive OTAStagingError where
  | ok | invalidArgument | invalidState | busy | packageSize | packageFormat | unsupported | overflow
  | partition | imageBounds | keyFormat | keyMismatch | signature | signatureTimeout
  | admissionRejected | cancelled | erase | eraseTimeout | write | shortWrite | writeTimeout
  | incomplete | trailingData | hashMismatch | readBack | readBackTimeout | readBackHashMismatch
  | readBackCrcMismatch | descriptorMismatch | vectorTable | activation | activationUncertain
deriving DecidableEq

@[ext]
structure OTAStagingMetadata where
  productId : Buffer 32
  boardId : Buffer 32
  firmwareVersion : Buffer 32
  versionMajor : UInt16
  versionMinor : UInt16
  versionPatch : UInt16
  sourceCommit : Buffer 41
  applicationAddress : UInt32
  applicationCapacity : UInt32
  payloadSize : UInt32
  sha256 : Buffer 32
deriving DecidableEq

/-- `memset(&metadata, 0, sizeof(metadata))`. -/
def OTAStagingMetadata.zero : OTAStagingMetadata where
  productId := Buffer.zero 32
  boardId := Buffer.zero 32
  firmwareVersion := Buffer.zero 32
  versionMajor := 0
  versionMinor := 0
  versionPatch := 0
  sourceCommit := Buffer.zero 41
  applicationAddress := 0
  applicationCapacity := 0
  payloadSize := 0
  sha256 := Buffer.zero 32

@[ext]
structure OTAStagedImageInfo where
  sessionGeneration : UInt32
  payloadSize : UInt32
  crc16 : UInt16
  sha256 : Buffer 32
  metadata : OTAStagingMetadata
deriving DecidableEq

def OTAStagedImageInfo.zero : OTAStagedImageInfo where
  sessionGeneration := 0
  payloadSize := 0
  crc16 := 0
  sha256 := Buffer.zero 32
  metadata := .zero

structure OTAStagingStatus where
  state : OTAStagingState
  lastError : OTAStagingError
  packageSize : Nat
  packageReceived : Nat
  payloadWritten : Nat
  payloadVerified : Nat
deriving DecidableEq

structure OTAStagingPartition where
  start : UInt32
  length : UInt32
deriving DecidableEq

structure OTAStagingBootTable where
  startAddress : UInt32
  length : UInt32
  version : Buffer 8
  type : UInt8
  upgradeType : UInt8
  crc16 : UInt16
  reserved : Buffer 4
deriving DecidableEq

/-- What a callback does: whether it calls `OTAStagingAbort` before it
returns, and the value it returns. -/
structure CallbackAnswer where
  abort : Bool
  result : Int
deriving DecidableEq

/-- A function pointer together with the context it is called with. -/
abbrev OTAAdmissionCallback (World : Type) := OTAStagingMetadata -> World -> CallbackAnswer × World

abbrev OTACancellationCallback (World : Type) := World -> CallbackAnswer × World

/-- The global `session`. -/
structure Session (World : Type) where
  status : OTAStagingStatus
  expectedPackageSize : Nat
  payloadSize : UInt32
  writeOffset : UInt32
  header : Buffer 320
  signature : Buffer 64
  publicKey : Buffer 91
  vectors : Buffer 8
  vectorsSize : Nat
  authenticated : Bool
  erased : Bool
  payloadSha : Sha256Context
  payloadCrc : UInt16
  metadata : OTAStagingMetadata
  ready : OTAStagedImageInfo
  admission : Option (OTAAdmissionCallback World)
  cancellation : Option (OTACancellationCallback World)
  applicationPartition : OTAStagingPartition
  otaPartition : OTAStagingPartition

/-- The zeroed session before the first `OTAStagingBegin`. -/
def Session.zero (World : Type) : Session World where
  status := ⟨.idle, .ok, 0, 0, 0, 0⟩
  expectedPackageSize := 0
  payloadSize := 0
  writeOffset := 0
  header := Buffer.zero 320
  signature := Buffer.zero 64
  publicKey := Buffer.zero 91
  vectors := Buffer.zero 8
  vectorsSize := 0
  authenticated := false
  erased := false
  payloadSha := ⟨⟨0, 0, 0, 0, 0, 0, 0, 0⟩, 0, Buffer.zero 64, 0, sha256Init.blockSize_lt⟩
  payloadCrc := 0
  metadata := .zero
  ready := .zero
  admission := none
  cancellation := none
  applicationPartition := ⟨0, 0⟩
  otaPartition := ⟨0, 0⟩

structure WriteAnswer where
  result : Int
  offset : UInt32

/-- The buffer that `readOta` fills has the requested size. -/
structure ReadAnswer (size : Nat) where
  result : Int
  offset : UInt32
  data : Buffer size

structure BootAnswer where
  result : Int
  table : OTAStagingBootTable

/-- `OTAStagingPlatformOperations`.  `complete` says that the table and its
entries are not NULL; a failed partition query is `none`.  `sizeMax` is the
target's `SIZE_MAX`, and `uninitialised` is what the local descriptor array of
`OTAStagingFinish` happens to hold. -/
structure Platform (World : Type) where
  complete : Bool
  getApplicationPartition : World -> Option OTAStagingPartition × World
  getOtaPartition : World -> Option OTAStagingPartition × World
  eraseOta : UInt32 -> Nat -> World -> Int × World
  writeOta : UInt32 -> Bytes -> World -> WriteAnswer × World
  readOta : UInt32 -> (size : Nat) -> World -> ReadAnswer size × World
  timeMs : World -> UInt32 × World
  verifySignature : Bytes -> Bytes -> Bytes -> World -> Int × World
  readBootTable : World -> BootAnswer × World
  writeBootTable : OTAStagingBootTable -> World -> Int × World
  readPersistedBootTable : World -> BootAnswer × World
  sizeMax : Nat
  sizeMax_ge : 0xFFFFFFFF ≤ sizeMax
  uninitialised : Buffer 256

/-- The arguments of `OTAStagingBegin`; a NULL key is `none`. -/
structure BeginArguments (World : Type) where
  packageSize : Nat
  trustedPublicKeyDer : Option Bytes
  admissionCallback : Option (OTAAdmissionCallback World)
  cancellationCallback : Option (OTACancellationCallback World)

/-- The arguments of `OTAStagingWritePackage`: a NULL pointer with a size, or
the bytes that are passed. -/
inductive PackageChunk where
  | null (size : Nat)
  | data (bytes : Bytes)
deriving DecidableEq

namespace PackageChunk

def size : PackageChunk -> Nat
  | null size => size
  | data bytes => bytes.length

def bytes : PackageChunk -> Bytes
  | null _ => []
  | data bytes => bytes

end PackageChunk

/-- An entry point with the arguments that a log entry keeps. -/
inductive Call where
  | begin (packageSize : Nat) (trustedPublicKeyDer : Option Bytes)
  | writePackage (chunk : PackageChunk)
  | finish (given : Bool)
  | activate (sessionGeneration : UInt32) (expectedSha256 : Option (Buffer 32))
  | abort
deriving DecidableEq

/-- What a successful `OTAStagingBegin` fixes for the session. -/
structure SessionParameters where
  packageSize : Nat
  publicKey : Buffer 91
  application : OTAStagingPartition
  ota : OTAStagingPartition
  admits : Bool
deriving DecidableEq

def Session.parameters (session : Session World) : SessionParameters :=
  ⟨session.expectedPackageSize, session.publicKey, session.applicationPartition, session.otaPartition,
    session.admission.isSome⟩

/-- Everything that crosses the boundary of the engine, and the points at
which the session changes its state. -/
inductive Event where
  | enter (call : Call)
  | leave (result : Option OTAStagingError)
  | begun (parameters : SessionParameters)
  | state (state : OTAStagingState)
  | published (info : OTAStagedImageInfo)
  | aborted
  | cancellation (answer : CallbackAnswer)
  | admission (metadata : OTAStagingMetadata) (answer : CallbackAnswer)
  | timeMs (now : UInt32)
  | verifySignature (publicKey digest signature : Bytes) (result : Int)
  | eraseOta (offset : UInt32) (size : Nat) (result : Int)
  | writeOta (offset : UInt32) (data : Bytes) (result : Int) (reached : UInt32)
  | readOta (offset : UInt32) (data : Bytes) (result : Int) (reached : UInt32)
  | readBootTable (result : Int)
  | writeBootTable (table : OTAStagingBootTable) (result : Int)
  | readPersistedBootTable (result : Int)
deriving DecidableEq

/-- The globals of the engine, the world behind the platform, and the log. -/
structure System (World : Type) where
  session : Session World
  nextGeneration : UInt32
  world : World
  log : List Event

namespace System

variable {World : Type}

/-- The system before any call. -/
def initial (world : World) : System World :=
  ⟨Session.zero World, 1, world, []⟩

def record (system : System World) (event : Event) : System World :=
  { system with log := system.log ++ [event] }

/-- Record an entry and move to the world behind it. -/
def respond (system : System World) (world : World) (event : Event) : System World :=
  { system with world := world, log := system.log ++ [event] }

def withSession (system : System World) (session : Session World) : System World :=
  { system with session := session }

/-- Assign `session.status.state`. -/
def enterState (system : System World) (state : OTAStagingState) : System World :=
  (system.withSession { system.session with
    status := { system.session.status with state := state } }).record (.state state)

@[simp] theorem record_session (system : System World) (event : Event) :
    (system.record event).session = system.session := rfl

@[simp] theorem record_log (system : System World) (event : Event) :
    (system.record event).log = system.log ++ [event] := rfl

@[simp] theorem respond_log (system : System World) (world : World) (event : Event) :
    (system.respond world event).log = system.log ++ [event] := rfl

@[simp] theorem respond_nextGeneration (system : System World) (world : World) (event : Event) :
    (system.respond world event).nextGeneration = system.nextGeneration := rfl

@[simp] theorem withSession_session (system : System World) (session : Session World) :
    (system.withSession session).session = session := rfl

@[simp] theorem withSession_log (system : System World) (session : Session World) :
    (system.withSession session).log = system.log := rfl

@[simp] theorem enterState_session (system : System World) (state : OTAStagingState) :
    (system.enterState state).session = { system.session with
      status := { system.session.status with state := state } } := rfl

@[simp] theorem enterState_log (system : System World) (state : OTAStagingState) :
    (system.enterState state).log = system.log ++ [.state state] := rfl

end System

/-- A function of the engine: it may return an error code from its middle. -/
abbrev Staging (World : Type) := Procedure (System World) OTAStagingError

end Ota
end DevKit

import DevKit.Ota.Header

namespace DevKit
namespace Ota

/-!
# The staging engine

The functions of `OTAStaging.cpp` over the session, the platform and the two
callbacks.  Internal functions are procedures: returning an error code from
the middle is an early exit, and `OTA_OK` is a normal end.  The five entry
points turn an early exit of their body into `fail`, as the source does.

The three Flash loops visit their range block by block and are instances of
`Procedure.blockwise`.  The loop of `OTAStagingWritePackage` is different: an
iteration that accepts no byte would repeat forever, so it runs on as many
iterations as there are bytes and reports when they did not suffice.
-/

variable {World : Type}

/-! ## Crossing the boundary -/

/-- Call a platform operation and record its answer. -/
def invoke (operation : World -> Answer × World) (event : Answer -> Event) : Staging World Answer :=
  fun system =>
    (.ok (operation system.world).1,
      system.respond (operation system.world).2 (event (operation system.world).1))

def currentSession : Staging World (Session World) :=
  fun system => (.ok system.session, system)

def updateSession (change : Session World -> Session World) : Staging World Unit :=
  Procedure.update fun system => system.withSession (change system.session)

def enterState (state : OTAStagingState) : Staging World Unit :=
  Procedure.update fun system => system.enterState state

def timeMs (platform : Platform World) : Staging World UInt32 :=
  invoke platform.timeMs .timeMs

def eraseOta (platform : Platform World) (offset : UInt32) (size : Nat) : Staging World Int :=
  invoke (platform.eraseOta offset size) (.eraseOta offset size)

def writeOta (platform : Platform World) (offset : UInt32) (data : Bytes) : Staging World WriteAnswer :=
  invoke (platform.writeOta offset data) fun answer => .writeOta offset data answer.result answer.offset

def readOta (platform : Platform World) (offset : UInt32) (size : Nat) :
    Staging World (ReadAnswer size) :=
  invoke (platform.readOta offset size) fun answer =>
    .readOta offset answer.data.bytes answer.result answer.offset

def verifySignature (platform : Platform World) (publicKey digest signature : Bytes) :
    Staging World Int :=
  invoke (platform.verifySignature publicKey digest signature) (.verifySignature publicKey digest signature)

def readBootTable (platform : Platform World) : Staging World BootAnswer :=
  invoke platform.readBootTable fun answer => .readBootTable answer.result

def writeBootTable (platform : Platform World) (table : OTAStagingBootTable) : Staging World Int :=
  invoke (platform.writeBootTable table) (.writeBootTable table)

def readPersistedBootTable (platform : Platform World) : Staging World BootAnswer :=
  invoke platform.readPersistedBootTable fun answer => .readPersistedBootTable answer.result

def elapsedExceeded (platform : Platform World) (started limit : UInt32) : Staging World Bool := do
  let now <- timeMs platform
  pure (decide (now - started > limit))

/-- `fail`: remember the error and give up the session. -/
def fail (error : OTAStagingError) (system : System World) : OTAStagingError × System World :=
  let session := { system.session with
    status := { system.session.status with lastError := error }
    ready := { system.session.ready with sessionGeneration := 0 } }
  (error, (system.withSession session).enterState
    (if error = .cancelled then .cancelled else .failed))

def otaStagingAbort (system : System World) : OTAStagingError × System World :=
  if system.session.status.state ≠ .receiving ∧ system.session.status.state ≠ .verifying ∧
      system.session.status.state ≠ .ready then
    (.invalidState, system)
  else
    let session := { system.session with
      ready := { system.session.ready with sessionGeneration := 0 }
      status := { system.session.status with lastError := .cancelled } }
    (.ok, ((system.withSession session).enterState .cancelled).record .aborted)

/-- Call a callback, which may call `OTAStagingAbort` before it returns. -/
def consult (callback : World -> CallbackAnswer × World) (event : CallbackAnswer -> Event) :
    Staging World CallbackAnswer := do
  let answer <- invoke callback event
  Procedure.update fun system => if answer.abort then (otaStagingAbort system).2 else system
  pure answer

def cancelled : Staging World Bool := do
  let session <- currentSession
  match session.cancellation with
  | none => pure false
  | some callback => do
      let answer <- consult callback .cancellation
      pure (decide (answer.result ≠ 0))

/-- Whether the admission callback, if there is one, returned zero. -/
def refused (metadata : OTAStagingMetadata) : Staging World Bool := do
  let session <- currentSession
  match session.admission with
  | none => pure false
  | some callback => do
      let answer <- consult (callback metadata) (.admission metadata)
      pure (decide (answer.result = 0))

/-- Leave with `OTA_ERROR_CANCELLED` when the cancellation callback says so. -/
def pollCancellation : Staging World Unit := do
  let stop <- cancelled
  Procedure.reject (stop = true) .cancelled

/-- Leave with a timeout error when an operation took too long. -/
def enforceLimit (platform : Platform World) (started limit : UInt32) (timeout : OTAStagingError) :
    Staging World Unit := do
  let late <- elapsedExceeded platform started limit
  Procedure.reject (late = true) timeout

/-! ## Receiving a package -/

/-- The signature and admission checks at the end of `validateHeader`. -/
def authenticateHeader (platform : Platform World) : Staging World Unit := do
  let session <- currentSession
  let headerDigest := sha256 session.header.bytes
  pollCancellation
  let started <- timeMs platform
  let verification <- verifySignature platform session.publicKey.bytes headerDigest session.signature.bytes
  Procedure.reject (verification = -2) .keyFormat
  Procedure.reject (verification ≠ 0) .signature
  enforceLimit platform started 5000 .signatureTimeout
  pollCancellation
  let rejected <- refused session.metadata
  Procedure.reject (rejected = true) .admissionRejected
  updateSession fun session => { session with authenticated := true }

def validateHeader (platform : Platform World) : Staging World Unit := do
  let session <- currentSession
  let outcome := decodeHeader platform.sizeMax session.parameters session.header.bytes
  updateSession fun session => { session with
    payloadSize := outcome.payloadSize.getD session.payloadSize
    metadata := outcome.metadata.getD session.metadata }
  Procedure.check outcome.verdict
  authenticateHeader platform

/-- One pass of the loop of `erasePayloadRange`. -/
def eraseBlock (platform : Platform World) (offset size : Nat) : Staging World Unit := do
  pollCancellation
  let started <- timeMs platform
  let result <- eraseOta platform (UInt32.ofNat offset) size
  Procedure.reject (result ≠ 0) .erase
  enforceLimit platform started 2000 .eraseTimeout

def erasePayloadRange (platform : Platform World) : Staging World Unit := do
  let session <- currentSession
  Procedure.blockwise 4096 (by decide) session.payloadSize.toNat
    (fun offset size _ => eraseBlock platform offset size) 0 ()
  updateSession fun session => { session with erased := true }

/-- One pass of the loop of `writePayload`.  The platform moves the write
offset even when it reports a failure. -/
def writeBlock (platform : Platform World) (block : Bytes) : Staging World Unit := do
  pollCancellation
  let session <- currentSession
  let start := session.writeOffset
  let started <- timeMs platform
  let answer <- writeOta platform start block
  updateSession fun session => { session with writeOffset := answer.offset }
  Procedure.reject (answer.result ≠ 0) .write
  Procedure.reject (answer.offset < start ∨ (answer.offset - start).toNat ≠ block.length) .shortWrite
  enforceLimit platform started 2000 .writeTimeout
  updateSession fun session => { session with
    payloadSha := sha256Update session.payloadSha block
    payloadCrc := crc16Update session.payloadCrc block
    status := { session.status with
      payloadWritten := session.status.payloadWritten + block.length } }

def writePayload (platform : Platform World) (data : Bytes) : Staging World Unit :=
  Procedure.blockwise 512 (by decide) data.length
    (fun offset size _ => writeBlock platform (slice data offset size)) 0 ()

/-- The vector prefix is complete: check it, erase, and write it out. -/
def startPayload (platform : Platform World) : Staging World Unit := do
  let session <- currentSession
  Procedure.check
    (validateVectors session.vectors.bytes session.applicationPartition session.payloadSize)
  erasePayloadRange platform
  writePayload platform session.vectors.bytes

def acceptPayload (platform : Platform World) (data : Bytes) : Staging World Unit := do
  let session <- currentSession
  if session.erased then
    writePayload platform data
  else do
    let needed := 8 - session.vectorsSize
    let copied := if data.length < needed then data.length else needed
    updateSession fun session => { session with
      vectors := session.vectors.memcpy session.vectorsSize (data.take copied)
      vectorsSize := session.vectorsSize + copied }
    if session.vectorsSize + copied < 8 then
      pure ()
    else do
      startPayload platform
      writePayload platform (data.drop copied)

/-- One pass of the loop of `OTAStagingWritePackage`; the result is what is
left of the chunk. -/
def writeIteration (platform : Platform World) (data : Bytes) : Staging World Bytes := do
  let session <- currentSession
  let offset := session.status.packageReceived
  if offset < 320 then do
    let copied := if 320 - offset > data.length then data.length else 320 - offset
    updateSession fun session => { session with
      header := session.header.memcpy offset (data.take copied)
      status := { session.status with packageReceived := offset + copied } }
    pure (data.drop copied)
  else if offset < 384 then do
    let signatureOffset := offset - 320
    let copied := if 64 - signatureOffset > data.length then data.length else 64 - signatureOffset
    updateSession fun session => { session with
      signature := session.signature.memcpy signatureOffset (data.take copied)
      status := { session.status with packageReceived := offset + copied } }
    if offset + copied = 384 then do
      validateHeader platform
      pure (data.drop copied)
    else
      pure (data.drop copied)
  else do
    let payloadRemaining := session.payloadSize.toNat - session.status.payloadWritten
    let accepted := if data.length < payloadRemaining then data.length else payloadRemaining
    acceptPayload platform (data.take accepted)
    updateSession fun session => { session with
      status := { session.status with
        packageReceived := session.status.packageReceived + accepted } }
    pure (data.drop accepted)

/-- The loop of `OTAStagingWritePackage`; `false` when the iterations ran out
before the chunk did. -/
def writeLoop (platform : Platform World) : Nat -> Bytes -> Staging World Bool
  | 0, data => pure data.isEmpty
  | iterations + 1, data =>
      if data.isEmpty then
        pure true
      else do
        let rest <- writeIteration platform data
        writeLoop platform iterations rest

/-! ## Entry points -/

def publicKeyPrefix : Bytes :=
  [0x30, 0x59, 0x30, 0x13, 0x06, 0x07, 0x2A, 0x86, 0x48, 0xCE, 0x3D, 0x02, 0x01, 0x06, 0x08, 0x2A, 0x86,
    0x48, 0xCE, 0x3D, 0x03, 0x01, 0x07, 0x03, 0x42, 0x00, 0x04]

def validPublicKey : Option Bytes -> Bool
  | none => false
  | some key => decide (key.length = 91 ∧ key.take 27 = publicKeyPrefix)

/-- The assignments of a successful `OTAStagingBegin`. -/
def openSession (arguments : BeginArguments World) (key : Bytes)
    (application ota : OTAStagingPartition) : Session World :=
  { Session.zero World with
    expectedPackageSize := arguments.packageSize
    applicationPartition := application
    otaPartition := ota
    admission := arguments.admissionCallback
    cancellation := arguments.cancellationCallback
    publicKey := Buffer.fill 91 key
    payloadSha := sha256Init
    status := ⟨.receiving, .ok, arguments.packageSize, 0, 0, 0⟩ }

def otaStagingBegin (platform : Platform World) (arguments : BeginArguments World)
    (system : System World) : OTAStagingError × System World :=
  if system.session.status.state = .receiving ∨ system.session.status.state = .verifying ∨
      system.session.status.state = .activating then
    (.busy, system)
  else if validPublicKey arguments.trustedPublicKeyDer = false then
    (.keyFormat, system)
  else if arguments.packageSize < 384 + 1 ∨ arguments.packageSize > 0xFFFFFFFF then
    (.packageSize, system)
  else if platform.complete = false then
    (.partition, system)
  else
    let application := platform.getApplicationPartition system.world
    match application.1 with
    | none => (.partition, { system with world := application.2 })
    | some applicationPartition =>
        let ota := platform.getOtaPartition application.2
        match ota.1 with
        | none => (.partition, { system with world := ota.2 })
        | some otaPartition =>
            if applicationPartition.length = 0 ∨ otaPartition.length = 0 then
              (.partition, { system with world := ota.2 })
            else
              let key := arguments.trustedPublicKeyDer.getD []
              let session := openSession arguments key applicationPartition otaPartition
              (.ok, (({ system with world := ota.2 }.withSession session).record (.begun
                ⟨arguments.packageSize, session.publicKey, applicationPartition, otaPartition,
                  arguments.admissionCallback.isSome⟩)).record (.state .receiving))

/-- The part of `OTAStagingWritePackage` whose errors go through `fail`. -/
def receiveChunk (platform : Platform World) (chunk : PackageChunk) : Staging World Bool := do
  let session <- currentSession
  Procedure.reject (chunk.size > 0 ∧ chunk = .null chunk.size) .invalidArgument
  Procedure.reject
    (chunk.size > session.expectedPackageSize - session.status.packageReceived) .trailingData
  pollCancellation
  writeLoop platform chunk.bytes.length chunk.bytes

/-- `none` stands for a call that does not return. -/
def otaStagingWritePackage (platform : Platform World) (chunk : PackageChunk) (system : System World) :
    Option OTAStagingError × System World :=
  if system.session.status.state ≠ .receiving then
    (some .invalidState, system)
  else
    match receiveChunk platform chunk system with
    | (.ok true, reached) => (some .ok, reached)
    | (.ok false, reached) => (none, reached)
    | (.error error, reached) =>
        let failed := fail error reached
        (some failed.1, failed.2)

/-- The locals that `OTAStagingFinish` accumulates while it reads back. -/
structure ReadBack where
  sha : Sha256Context
  crc : UInt16
  descriptor : Buffer 256

/-- The copy of the embedded descriptor out of a block that was read back. -/
def collectDescriptor (descriptor : Buffer 256) (offset : Nat) (block : Bytes) : Buffer 256 :=
  if offset ≤ 0x200 ∧ offset + block.length > 0x200 then
    let start := 0x200 - offset
    let copied := if block.length - start > 256 then 256 else block.length - start
    descriptor.memcpy 0 (slice block start copied)
  else if offset > 0x200 ∧ offset < 0x200 + 256 then
    let destination := offset - 0x200
    let copied := if block.length > 256 - destination then 256 - destination else block.length
    descriptor.memcpy destination (block.take copied)
  else
    descriptor

/-- One pass of the read-back loop. -/
def readBackBlock (platform : Platform World) (offset size : Nat) (accumulated : ReadBack) :
    Staging World ReadBack := do
  pollCancellation
  let started <- timeMs platform
  let answer <- readOta platform (UInt32.ofNat offset) size
  Procedure.reject (answer.result ≠ 0 ∨ answer.offset.toNat < offset ∨
    answer.offset.toNat - offset ≠ size) .readBack
  enforceLimit platform started 2000 .readBackTimeout
  updateSession fun session => { session with
    status := { session.status with payloadVerified := offset + size } }
  pure ⟨sha256Update accumulated.sha answer.data.bytes, crc16Update accumulated.crc answer.data.bytes,
    collectDescriptor accumulated.descriptor offset answer.data.bytes⟩

def readBackPayload (platform : Platform World) : Staging World ReadBack := do
  let session <- currentSession
  Procedure.blockwise 512 (by decide) session.payloadSize.toNat (readBackBlock platform) 0
    ⟨sha256Init, 0, platform.uninitialised⟩

/-- Publish the session's result and advance the generation counter past 0. -/
def publish (readBack : ReadBack) (system : System World) : System World :=
  let info : OTAStagedImageInfo := {
    sessionGeneration := system.nextGeneration
    payloadSize := system.session.payloadSize
    crc16 := readBack.crc
    sha256 := Buffer.fill 32 (sha256Finish readBack.sha)
    metadata := system.session.metadata }
  let session := { system.session with
    ready := info
    status := { system.session.status with lastError := .ok } }
  let next := if system.nextGeneration + 1 = 0 then 1 else system.nextGeneration + 1
  (({ system with nextGeneration := next }.withSession session).record (.published info)).enterState .ready

/-- The part of `OTAStagingFinish` whose errors go through `fail`. -/
def verifyStaged (platform : Platform World) (given : Bool) : Staging World Unit := do
  Procedure.reject (given = false) .invalidArgument
  let session <- currentSession
  Procedure.reject (session.status.packageReceived ≠ session.expectedPackageSize ∨
    session.authenticated = false ∨ session.status.payloadWritten ≠ session.payloadSize.toNat) .incomplete
  pollCancellation
  enterState .verifying
  let session <- currentSession
  Procedure.reject (sha256Finish session.payloadSha ≠ session.metadata.sha256.bytes) .hashMismatch
  let readBack <- readBackPayload platform
  let session <- currentSession
  Procedure.reject (sha256Finish readBack.sha ≠ session.metadata.sha256.bytes) .readBackHashMismatch
  Procedure.reject (readBack.crc ≠ session.payloadCrc) .readBackCrcMismatch
  Procedure.reject (readBack.descriptor.bytes ≠ slice session.header.bytes 64 256) .descriptorMismatch
  Procedure.update (publish readBack)

/-- `given` says that the result pointer is not NULL; the result itself is
`session.ready` and the published log entry. -/
def otaStagingFinish (platform : Platform World) (given : Bool) (system : System World) :
    OTAStagingError × System World :=
  if system.session.status.state ≠ .receiving then
    (.invalidState, system)
  else
    match verifyStaged platform given system with
    | (.ok (), reached) => (.ok, reached)
    | (.error error, reached) => fail error reached

/-- The boot entry that activation asks for. -/
def candidateTable (session : Session World) : OTAStagingBootTable where
  startAddress := session.otaPartition.start
  length := session.payloadSize
  version := Buffer.zero 8
  type := 0x41
  upgradeType := 0x55
  crc16 := session.ready.crc16
  reserved := Buffer.zero 4

/-- Write a boot entry and read the persisted one back; the result of the
write itself is ignored. -/
def storeBootTable (platform : Platform World) (table : OTAStagingBootTable) : Staging World Bool := do
  let started <- timeMs platform
  let _ <- writeBootTable platform table
  let writeLate <- elapsedExceeded platform started 15000
  let started <- timeMs platform
  let persisted <- readPersistedBootTable platform
  let readLate <- elapsedExceeded platform started 15000
  pure (!writeLate && decide (persisted.result = 0) && !readLate && decide (persisted.table = table))

/-- The part of `OTAStagingActivate` behind its argument checks. -/
def exchangeBootTable (platform : Platform World) : Staging World Unit := do
  enterState .activating
  updateSession fun session => { session with
    ready := { session.ready with sessionGeneration := 0 } }
  let started <- timeMs platform
  let previous <- readBootTable platform
  Procedure.reject (previous.result ≠ 0) .activation
  enforceLimit platform started 15000 .activation
  let session <- currentSession
  let candidateVerified <- storeBootTable platform (candidateTable session)
  if candidateVerified then do
    enterState .activated
    updateSession fun session => { session with
      status := { session.status with lastError := .ok } }
  else do
    let restored <- storeBootTable platform previous.table
    Procedure.exit (if restored then .activation else .activationUncertain)

def otaStagingActivate (platform : Platform World) (sessionGeneration : UInt32)
    (expectedSha256 : Option (Buffer 32)) (system : System World) : OTAStagingError × System World :=
  if system.session.status.state ≠ .ready then
    (.invalidState, system)
  else if expectedSha256 = none ∨ sessionGeneration = 0 ∨
      sessionGeneration ≠ system.session.ready.sessionGeneration ∨
      expectedSha256 ≠ some system.session.ready.sha256 then
    (.invalidArgument, system)
  else
    match exchangeBootTable platform system with
    | (.ok (), reached) => (.ok, reached)
    | (.error error, reached) => fail error reached

/-! ## Runs -/

/-- A call of one of the five entry points. -/
inductive Request (World : Type) where
  | begin (arguments : BeginArguments World)
  | writePackage (chunk : PackageChunk)
  | finish (given : Bool)
  | activate (sessionGeneration : UInt32) (expectedSha256 : Option (Buffer 32))
  | abort

def Request.call : Request World -> Call
  | begin arguments => .begin arguments.packageSize arguments.trustedPublicKeyDer
  | writePackage chunk => .writePackage chunk
  | finish given => .finish given
  | activate sessionGeneration expectedSha256 => .activate sessionGeneration expectedSha256
  | abort => .abort

def dispatch (platform : Platform World) (request : Request World) (system : System World) :
    Option OTAStagingError × System World :=
  match request with
  | .begin arguments => Prod.map some id (otaStagingBegin platform arguments system)
  | .writePackage chunk => otaStagingWritePackage platform chunk system
  | .finish given => Prod.map some id (otaStagingFinish platform given system)
  | .activate sessionGeneration expectedSha256 =>
      Prod.map some id (otaStagingActivate platform sessionGeneration expectedSha256 system)
  | .abort => Prod.map some id (otaStagingAbort system)

/-- A call from outside, between its log entries. -/
def perform (platform : Platform World) (request : Request World) (system : System World) :
    Option OTAStagingError × System World :=
  let outcome := dispatch platform request (system.record (.enter request.call))
  (outcome.1, outcome.2.record (.leave outcome.1))

/-- The system after a sequence of calls. -/
def run (platform : Platform World) (requests : List (Request World)) (system : System World) :
    System World :=
  requests.foldl (fun system request => (perform platform request system).2) system

end Ota
end DevKit

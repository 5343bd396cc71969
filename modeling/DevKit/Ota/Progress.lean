import DevKit.Ota.Ledger

namespace DevKit
namespace Ota

/-!
# The session as a function of the received bytes

While a package is received and verified, every field of the session is
determined by what `OTAStagingBegin` fixed (`Terms`) and by how far the engine
has come (`Stage`): `sessionAt` computes it.  The invariant `Streaming` says
that the session has this form, that the log agrees with the stage, and that
every entry of the log obeyed its rule.

What a particular platform guarantees beyond the interface enters as one
predicate on the world and the log, `Kept`; a `Law` says that every operation
of the platform keeps it.  The weakest law is the constant true predicate.
-/

variable {World : Type}

/-- What a successful `OTAStagingBegin` fixes, and the generation that the
session will be published under. -/
structure Terms (World : Type) where
  generation : UInt32
  packageSize : Nat
  publicKey : Buffer 91
  application : OTAStagingPartition
  ota : OTAStagingPartition
  admission : Option (OTAAdmissionCallback World)
  cancellation : Option (OTACancellationCallback World)

def Terms.parameters (terms : Terms World) : SessionParameters :=
  ⟨terms.packageSize, terms.publicKey, terms.application, terms.ota, terms.admission.isSome⟩

/-- How far the engine has come with a package: the bytes copied out of the
chunks and the number counted as received, which checks are done, how much is
erased, the bytes handed to Flash, the bytes accounted for, the bytes read back
by the current call and the number counted as verified. -/
structure Stage where
  stream : Bytes
  received : Nat
  decoded : Bool
  verified : Bool
  authenticated : Bool
  checked : Bool
  cleared : Nat
  erased : Bool
  stored : Bytes
  done : Bytes
  image : Bytes
  confirmed : Nat

def Stage.header (stage : Stage) : Buffer 320 :=
  Buffer.window 320 0 stage.stream

/-- The payload size that the header of a stage declares. -/
def Stage.limit (stage : Stage) : Nat :=
  (headerPayloadSize stage.header.bytes).toNat

/-- The session at a stage. -/
def sessionAt (terms : Terms World) (stage : Stage) (state : OTAStagingState) (error : OTAStagingError) :
    Session World where
  status := ⟨state, error, terms.packageSize, stage.received, stage.done.length, stage.confirmed⟩
  expectedPackageSize := terms.packageSize
  payloadSize := if stage.decoded then headerPayloadSize stage.header.bytes else 0
  writeOffset := UInt32.ofNat stage.stored.length
  header := stage.header
  signature := Buffer.window 64 320 stage.stream
  publicKey := terms.publicKey
  vectors := Buffer.window 8 384 stage.stream
  vectorsSize := min 8 (stage.stream.length - 384)
  authenticated := stage.authenticated
  erased := stage.erased
  payloadSha := sha256Update sha256Init stage.done
  payloadCrc := crc16Update 0 stage.done
  metadata := if stage.decoded then headerMetadata stage.header.bytes else .zero
  ready := .zero
  admission := terms.admission
  cancellation := terms.cancellation
  applicationPartition := terms.application
  otaPartition := terms.ota

/-- The stage between two passes of the receiving loop. -/
def Stage.after (got : Bytes) : Stage where
  stream := got
  received := got.length
  decoded := decide (384 ≤ got.length)
  verified := decide (384 ≤ got.length)
  authenticated := decide (384 ≤ got.length)
  checked := decide (392 ≤ got.length)
  cleared := if 392 ≤ got.length then (headerPayloadSize (Buffer.window 320 0 got).bytes).toNat else 0
  erased := decide (392 ≤ got.length)
  stored := if 392 ≤ got.length then got.drop 384 else []
  done := if 392 ≤ got.length then got.drop 384 else []
  image := []
  confirmed := 0

/-! ## Laws of a platform -/

/-- An operation that is recorded as an entry keeps a predicate. -/
def Keeps (Kept : World -> List Event -> Prop) (operation : World -> Answer × World)
    (event : Answer -> Event) : Prop :=
  forall world log, Kept world log -> Kept (operation world).2 (log ++ [event (operation world).1])

/-- The same for an operation that is only called when its entry obeys the
rule. -/
def KeepsRuled (sizeMax : Nat) (Kept : World -> List Event -> Prop) (operation : World -> Answer × World)
    (event : Answer -> Event) : Prop :=
  forall world log, Kept world log -> Rule sizeMax log (event (operation world).1) ->
    Kept (operation world).2 (log ++ [event (operation world).1])

/-- Entries that the engine records by itself inside a call. -/
def Event.internal : Event -> Bool
  | leave _ | state _ | published _ | aborted => true
  | _ => false

/-- Everything that happens while a package is received or verified keeps the
predicate. -/
structure Law (platform : Platform World) (Kept : World -> List Event -> Prop) : Prop where
  internal : forall world log event, event.internal = true -> Kept world log -> Kept world (log ++ [event])
  eraseOta : forall offset size,
    KeepsRuled platform.sizeMax Kept (platform.eraseOta offset size) (.eraseOta offset size)
  writeOta : forall offset data,
    KeepsRuled platform.sizeMax Kept (platform.writeOta offset data) fun answer =>
      .writeOta offset data answer.result answer.offset
  readOta : forall offset size,
    KeepsRuled platform.sizeMax Kept (platform.readOta offset size) fun answer =>
      .readOta offset answer.data.bytes answer.result answer.offset
  timeMs : Keeps Kept platform.timeMs .timeMs
  verifySignature : forall key digest signature, Keeps Kept (platform.verifySignature key digest signature)
    (.verifySignature key digest signature)

/-- Both callbacks keep a predicate. -/
structure CallbacksKeep (Kept : World -> List Event -> Prop)
    (admission : Option (OTAAdmissionCallback World)) (cancellation : Option (OTACancellationCallback World)) :
    Prop where
  admission : forall callback, admission = some callback -> forall metadata,
    Keeps Kept (callback metadata) (.admission metadata)
  cancellation : forall callback, cancellation = some callback -> Keeps Kept callback .cancellation

/-- A law about the log alone that every entry inside a call obeys holds on
every platform. -/
theorem Law.of_log (platform : Platform World) {Holds : List Event -> Prop}
    (concat : forall log event, event.entered = none -> event.opening = none -> Holds log ->
      Holds (log ++ [event])) : Law platform (fun _ => Holds) where
  internal := by
    intro world log event own holds
    cases event with
    | enter call => exact absurd own Bool.false_ne_true
    | begun parameters => exact absurd own Bool.false_ne_true
    | _ => exact concat log _ rfl rfl holds
  eraseOta := fun _ _ _ log holds _ => concat log _ rfl rfl holds
  writeOta := fun _ _ _ log holds _ => concat log _ rfl rfl holds
  readOta := fun _ _ _ log holds _ => concat log _ rfl rfl holds
  timeMs := fun _ log holds => concat log _ rfl rfl holds
  verifySignature := fun _ _ _ _ log holds => concat log _ rfl rfl holds

theorem CallbacksKeep.of_log {Holds : List Event -> Prop} (admission : Option (OTAAdmissionCallback World))
    (cancellation : Option (OTACancellationCallback World))
    (concat : forall log event, event.entered = none -> event.opening = none -> Holds log ->
      Holds (log ++ [event])) : CallbacksKeep (fun _ => Holds) admission cancellation where
  admission := fun _ _ _ _ log holds => concat log _ rfl rfl holds
  cancellation := fun _ _ _ log holds => concat log _ rfl rfl holds

/-- The predicate that every platform and every callback keeps. -/
def Anything (World : Type) : World -> List Event -> Prop :=
  fun _ _ => True

theorem Law.anything (platform : Platform World) : Law platform (Anything World) :=
  Law.of_log platform (fun _ _ _ _ _ => True.intro)

theorem CallbacksKeep.anything (admission : Option (OTAAdmissionCallback World))
    (cancellation : Option (OTACancellationCallback World)) :
    CallbacksKeep (Anything World) admission cancellation :=
  CallbacksKeep.of_log admission cancellation (fun _ _ _ _ _ => True.intro)

theorem Law.and {platform : Platform World} {Kept Also : World -> List Event -> Prop}
    (law : Law platform Kept) (also : Law platform Also) :
    Law platform (fun world log => Kept world log ∧ Also world log) where
  internal := fun world log event own kept =>
    ⟨law.internal world log event own kept.1, also.internal world log event own kept.2⟩
  eraseOta := fun offset size world log kept rule =>
    ⟨law.eraseOta offset size world log kept.1 rule, also.eraseOta offset size world log kept.2 rule⟩
  writeOta := fun offset data world log kept rule =>
    ⟨law.writeOta offset data world log kept.1 rule, also.writeOta offset data world log kept.2 rule⟩
  readOta := fun offset size world log kept rule =>
    ⟨law.readOta offset size world log kept.1 rule, also.readOta offset size world log kept.2 rule⟩
  timeMs := fun world log kept => ⟨law.timeMs world log kept.1, also.timeMs world log kept.2⟩
  verifySignature := fun key digest signature world log kept =>
    ⟨law.verifySignature key digest signature world log kept.1,
      also.verifySignature key digest signature world log kept.2⟩

theorem CallbacksKeep.and {Kept Also : World -> List Event -> Prop}
    {admission : Option (OTAAdmissionCallback World)} {cancellation : Option (OTACancellationCallback World)}
    (callbacks : CallbacksKeep Kept admission cancellation)
    (also : CallbacksKeep Also admission cancellation) :
    CallbacksKeep (fun world log => Kept world log ∧ Also world log) admission cancellation where
  admission := fun callback installed metadata world log kept =>
    ⟨callbacks.admission callback installed metadata world log kept.1,
      also.admission callback installed metadata world log kept.2⟩
  cancellation := fun callback installed world log kept =>
    ⟨callbacks.cancellation callback installed world log kept.1,
      also.cancellation callback installed world log kept.2⟩

/-- The log has grown by entries inside a call only. -/
def Grown (base log : List Event) : Prop :=
  exists tail, log = base ++ tail ∧ forall event, event ∈ tail -> event.entered = none ∧ event.opening = none

theorem Grown.concat {base : List Event} (log : List Event) (event : Event) (within : event.entered = none)
    (inside : event.opening = none) (grown : Grown base log) : Grown base (log ++ [event]) := by
  rcases grown with ⟨tail, rfl, inner⟩
  refine ⟨tail ++ [event], List.append_assoc _ _ _, fun other member => ?_⟩
  rcases List.mem_append.mp member with earlier | last
  · exact inner other earlier
  · rw [List.mem_singleton.mp last]
    exact ⟨within, inside⟩

theorem Grown.refl (base : List Event) : Grown base base :=
  ⟨[], (List.append_nil base).symm, fun _ member => absurd member List.not_mem_nil⟩

/-! ## Invariants -/

/-- What holds of the system at every point of every call. -/
structure Sound (platform : Platform World) (Kept : World -> List Event -> Prop) (system : System World) :
    Prop where
  lawful : Always (Rule platform.sizeMax) system.log
  counter : system.nextGeneration.toNat = (publications system.log).length % (2 ^ 32 - 1) + 1
  kept : Kept system.world system.log

/-- The same on an arbitrary platform. -/
abbrev Lawful (platform : Platform World) (system : System World) : Prop :=
  Sound platform (Anything World) system

/-- Apply the successful erases of a session to a memory. -/
def eraseAll (effect : FlashEffect Cell) (initial : Nat -> Cell) (ranges : List (Nat × Nat)) : Nat -> Cell :=
  ranges.foldl (fun memory range => effect.erase range.1 range.2 memory) initial

theorem eraseAll_concat (effect : FlashEffect Cell) (initial : Nat -> Cell) (ranges : List (Nat × Nat))
    (offset size : Nat) :
    eraseAll effect initial (ranges ++ [(offset, size)]) =
      effect.erase offset size (eraseAll effect initial ranges) := by
  rw [eraseAll, List.foldl_append]
  rfl

/-- The log agrees with a stage about the bytes and the checks; `rest` is the
part of the current chunk that is still to be consumed. -/
structure StreamRecorded (sizeMax : Nat) (parameters : SessionParameters) (stage : Stage) (rest : Bytes)
    (log : List Event) : Prop where
  opened : parametersOf log = some parameters
  stream : streamed (sessionLog log) = stage.stream ++ rest
  signed : stage.verified = true -> Signed sizeMax parameters (sessionLog log)
  authenticated : stage.authenticated = true -> Authenticated sizeMax parameters (sessionLog log)
  authorised : stage.checked = true -> Authorised sizeMax parameters (sessionLog log)

/-- The log agrees with a stage about Flash. -/
structure FlashRecorded (stage : Stage) (log : List Event) : Prop where
  untouched : stage.checked = false -> erases (sessionLog log) = []
  cleared : Tiles 0 (erases (sessionLog log)) stage.cleared
  planned : stage.checked = true -> erases (sessionLog log) ++
    blocksFrom 4096 (by decide) stage.limit stage.cleared = blocksFrom 4096 (by decide) stage.limit 0
  written : Tiles 0 (writes (sessionLog log)) stage.stored.length
  contents : forall (Cell : Type) (effect : FlashEffect Cell) (initial : Nat -> Cell),
    replay effect initial (sessionLog log) =
      overlay (eraseAll effect initial (erases (sessionLog log))) 0 (stage.stored.map effect.write)

/-- The log agrees with a stage about what the current call has read back. -/
structure ImageRecorded (stage : Stage) (log : List Event) : Prop where
  covered : Tiles 0 (readRanges (callLog log)) stage.image.length
  image : imageOf (callLog log) = stage.image
  clean : forall offset data result reached, Event.readOta offset data result reached ∈ callLog log -> result = 0

structure Recorded (sizeMax : Nat) (parameters : SessionParameters) (stage : Stage) (rest : Bytes)
    (log : List Event) : Prop where
  stream : StreamRecorded sizeMax parameters stage rest log
  flash : FlashRecorded stage log
  readBack : ImageRecorded stage log

/-- The engine works on a package under fixed terms.  `finishing` tells
`OTAStagingFinish` from `OTAStagingWritePackage`, which never assigns the
state again after an abort by a callback. -/
structure Streaming (platform : Platform World) (Kept : World -> List Event -> Prop) (terms : Terms World)
    (finishing : Bool) (stage : Stage) (rest : Bytes) (system : System World) : Prop where
  sound : Sound platform Kept system
  held : exists state error, system.session = sessionAt terms stage state error ∧
    (finishing = false -> state = .receiving ∧ error = .ok ∨
      state = .cancelled ∧ error = .cancelled ∧ Interrupted (sessionLog system.log))
  recorded : Recorded platform.sizeMax terms.parameters stage rest system.log
  heeded : finishing = false ∧ system.session.status.state = .cancelled ∨ AbortsIgnored (sessionLog system.log)
  calling : finishing = true -> Finishing system.log
  numbered : system.nextGeneration = terms.generation

/-- An early exit of a receiving or finishing call has a cause. -/
structure Excused (platform : Platform World) (Kept : World -> List Event -> Prop) (terms : Terms World)
    (reason : OTAStagingError) (system : System World) : Prop where
  sound : Sound platform Kept system
  cause : Cause platform.sizeMax terms.parameters system.log reason

section Relaw

variable {platform : Platform World} {Kept Also : World -> List Event -> Prop} {terms : Terms World}
  {finishing : Bool} {stage : Stage} {rest : Bytes} {system : System World}

theorem Sound.relaw (sound : Sound platform Kept system) (kept : Also system.world system.log) :
    Sound platform Also system :=
  ⟨sound.lawful, sound.counter, kept⟩

/-- The invariant does not depend on the law that its world obeys. -/
theorem Streaming.relaw (streaming : Streaming platform Kept terms finishing stage rest system)
    (kept : Also system.world system.log) : Streaming platform Also terms finishing stage rest system :=
  { streaming with sound := streaming.sound.relaw kept }

end Relaw

/-! ## One more entry -/

section Entry

variable {sizeMax : Nat} {parameters : SessionParameters} {stage : Stage} {rest : Bytes}
  {log : List Event} {event : Event}

theorem StreamRecorded.step (recorded : StreamRecorded sizeMax parameters stage rest log)
    (inside : event.opening = none) (empty : event.chunk = []) :
    StreamRecorded sizeMax parameters stage rest (log ++ [event]) where
  opened := (latest_concat_none inside).trans recorded.opened
  stream := by
    rw [sessionLog_concat inside, streamed_concat, empty, List.append_nil]
    exact recorded.stream
  signed := by
    intro verified
    rw [sessionLog_concat inside]
    exact (recorded.signed verified).append [event]
  authenticated := by
    intro authenticated
    rw [sessionLog_concat inside]
    exact (recorded.authenticated authenticated).append [event]
  authorised := by
    intro checked
    rw [sessionLog_concat inside]
    exact (recorded.authorised checked).append [event]

theorem FlashRecorded.step (recorded : FlashRecorded stage log) (inside : event.opening = none)
    (still : event.flash = false) : FlashRecorded stage (log ++ [event]) := by
  have erased : erases (sessionLog (log ++ [event])) = erases (sessionLog log) := by
    rw [sessionLog_concat inside]
    exact filterMap_concat_none (erasure_of_still still)
  refine ⟨?_, ?_, ?_, ?_, ?_⟩
  · rw [erased]
    exact recorded.untouched
  · rw [erased]
    exact recorded.cleared
  · rw [erased]
    exact recorded.planned
  · rw [sessionLog_concat inside, writes, filterMap_concat_none (writing_of_still still)]
    exact recorded.written
  · intro Cell effect initial
    rw [erased, sessionLog_concat inside, replay_concat, apply_of_still still]
    exact recorded.contents Cell effect initial

theorem ImageRecorded.step (recorded : ImageRecorded stage log) (inside : event.entered = none)
    (unread : event.reading = none) : ImageRecorded stage (log ++ [event]) := by
  have same : reads (callLog (log ++ [event])) = reads (callLog log) := by
    rw [callLog_concat inside]
    exact filterMap_concat_none unread
  refine ⟨?_, ?_, fun offset data result reached member => ?_⟩
  · rw [readRanges, same]
    exact recorded.covered
  · rw [imageOf, same]
    exact recorded.image
  · rw [callLog_concat inside, List.mem_append, List.mem_singleton] at member
    rcases member with earlier | rfl
    · exact recorded.clean offset data result reached earlier
    · exact absurd unread (Option.some_ne_none _)

theorem Finishing.step (finishing : Finishing log) (inside : event.entered = none)
    (still : event.flash = false) : Finishing (log ++ [event]) where
  call := by
    rcases finishing.call with ⟨given, last⟩
    exact ⟨given, (latest_concat_none inside).trans last⟩
  undisturbed := by
    intro other member
    rw [callLog_concat inside, List.mem_append, List.mem_singleton] at member
    rcases member with earlier | rfl
    · exact finishing.undisturbed other earlier
    · exact still

theorem Recorded.quiet (recorded : Recorded sizeMax parameters stage rest log)
    (silent : event.quiet = true) : Recorded sizeMax parameters stage rest (log ++ [event]) where
  stream := recorded.stream.step (opening_of_quiet silent) (chunk_of_quiet silent)
  flash := recorded.flash.step (opening_of_quiet silent) (flash_of_quiet silent)
  readBack := recorded.readBack.step (entered_of_quiet silent) (reading_of_quiet silent)

end Entry

/-! ## What a stage knows about the stream -/

section Stream

variable {sizeMax : Nat} {parameters : SessionParameters} {stage : Stage} {rest : Bytes}
  {log : List Event}

theorem StreamRecorded.header (recorded : StreamRecorded sizeMax parameters stage rest log)
    (full : 320 ≤ stage.stream.length) : stage.header.bytes = headerOf (sessionLog log) := by
  rw [Stage.header, Buffer.window_bytes_of_full 0 stage.stream (by omega), headerOf, recorded.stream,
    List.take_append_of_le_length full]
  rfl

theorem StreamRecorded.signature (recorded : StreamRecorded sizeMax parameters stage rest log)
    (full : 384 ≤ stage.stream.length) :
    (Buffer.window 64 320 stage.stream).bytes = signatureOf (sessionLog log) := by
  rw [Buffer.window_bytes_of_full 320 stage.stream (by omega), signatureOf, recorded.stream,
    slice_append_left _ _ _ _ (by omega)]

theorem StreamRecorded.vectors (recorded : StreamRecorded sizeMax parameters stage rest log)
    (full : 392 ≤ stage.stream.length) :
    (Buffer.window 8 384 stage.stream).bytes = vectorsOf (sessionLog log) := by
  rw [Buffer.window_bytes_of_full 384 stage.stream (by omega), vectorsOf, recorded.stream,
    slice_append_left _ _ _ _ (by omega)]

theorem StreamRecorded.limit (recorded : StreamRecorded sizeMax parameters stage rest log)
    (full : 320 ≤ stage.stream.length) : stage.limit = declared (sessionLog log) := by
  rw [Stage.limit, recorded.header full, declared]

theorem StreamRecorded.length_le (recorded : StreamRecorded sizeMax parameters stage rest log) :
    stage.stream.length ≤ (streamed (sessionLog log)).length := by
  rw [recorded.stream, List.length_append]
  exact Nat.le_add_right _ _

end Stream

end Ota
end DevKit

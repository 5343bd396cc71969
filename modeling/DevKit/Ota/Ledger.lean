import DevKit.Foundation.Memory
import DevKit.Ota.Staging

namespace DevKit
namespace Ota

/-!
# Reading the log

What a log says about the current session and the current call: the bytes
passed in, the Flash ranges erased, written and read, and the published
results.  Each reading is a projection of the single entries, so what one more
entry changes is visible from its constructor; the entries that change none of
the readings are `quiet`.

The second half states the evidence that must be in the log before the engine
may touch Flash, publish a result or replace the boot table.  `Rule` collects
these obligations by kind of entry.  `Cause` says, for every error code of the
receiving and finishing calls, what in the log accounts for it.
-/

namespace Event

/-- The bytes that an entry passes to `OTAStagingWritePackage`. -/
def chunk : Event -> Bytes
  | enter (.writePackage chunk) => chunk.bytes
  | _ => []

def opening : Event -> Option SessionParameters
  | begun parameters => some parameters
  | _ => none

def entered : Event -> Option Call
  | enter call => some call
  | _ => none

def publication : Event -> Option OTAStagedImageInfo
  | published info => some info
  | _ => none

/-- The range of a successful erase. -/
def erasure : Event -> Option (Nat × Nat)
  | eraseOta offset size result => if result = 0 then some (offset.toNat, size) else none
  | _ => none

/-- The range of a write, whatever its result. -/
def writing : Event -> Option (Nat × Nat)
  | writeOta offset data _ _ => some (offset.toNat, data.length)
  | _ => none

def reading : Event -> Option (Nat × Bytes)
  | readOta offset data _ _ => some (offset.toNat, data)
  | _ => none

/-- Operations that may change Flash. -/
def flash : Event -> Bool
  | eraseOta _ _ _ | writeOta _ _ _ _ => true
  | _ => false

/-- Entries that no reading below depends on. -/
def quiet : Event -> Bool
  | leave _ | state _ | aborted | cancellation _ | admission _ _ | timeMs _ | verifySignature _ _ _ _
  | readBootTable _ | writeBootTable _ _ | readPersistedBootTable _ => true
  | _ => false

end Event

/-- What Flash operations do to a memory: a successful erase, a stored byte,
and an operation whose effect is not known. -/
structure FlashEffect (Cell : Type) where
  erase : Nat -> Nat -> (Nat -> Cell) -> Nat -> Cell
  write : UInt8 -> Cell
  lost : Nat -> Nat -> (Nat -> Cell) -> Nat -> Cell

/-- The memory after one entry. -/
def FlashEffect.apply (effect : FlashEffect Cell) (memory : Nat -> Cell) : Event -> Nat -> Cell
  | .eraseOta offset size result =>
      if result = 0 then effect.erase offset.toNat size memory else effect.lost offset.toNat size memory
  | .writeOta offset data result reached =>
      if result = 0 ∧ reached.toNat = offset.toNat + data.length then
        overlay memory offset.toNat (data.map effect.write)
      else effect.lost offset.toNat data.length memory
  | _ => memory

/-! ## Readings -/

def sessionLog (log : List Event) : List Event :=
  since (fun event => event.opening.isSome) log

def callLog (log : List Event) : List Event :=
  since (fun event => event.entered.isSome) log

def parametersOf (log : List Event) : Option SessionParameters :=
  latest Event.opening log

def lastCall (log : List Event) : Option Call :=
  latest Event.entered log

def streamed (events : List Event) : Bytes :=
  events.flatMap Event.chunk

def erases (events : List Event) : List (Nat × Nat) :=
  events.filterMap Event.erasure

def writes (events : List Event) : List (Nat × Nat) :=
  events.filterMap Event.writing

def reads (events : List Event) : List (Nat × Bytes) :=
  events.filterMap Event.reading

def readRanges (events : List Event) : List (Nat × Nat) :=
  (reads events).map fun block => (block.1, block.2.length)

/-- Everything that was read, in order. -/
def imageOf (events : List Event) : Bytes :=
  (reads events).flatMap Prod.snd

def publications (log : List Event) : List OTAStagedImageInfo :=
  log.filterMap Event.publication

/-- The Flash contents that a list of entries leaves behind. -/
def replay (effect : FlashEffect Cell) (initial : Nat -> Cell) (events : List Event) : Nat -> Cell :=
  events.foldl effect.apply initial

/-- What the log tells about the cells: an erase leaves its range blank, and what
was blank before it stays so. -/
def remembered : FlashEffect (Option UInt8) where
  erase := fun offset size memory address =>
    if memory address = some 0xFF ∨ offset ≤ address ∧ address < offset + size then some 0xFF else none
  write := some
  lost := fun _ _ _ _ => none

/-- The cells of a range are known to be blank. -/
def Blank (events : List Event) (offset size : Nat) : Prop :=
  forall address, offset ≤ address -> address < offset + size ->
    replay remembered (fun _ => none) events address = some 0xFF

theorem streamed_concat (events : List Event) (event : Event) :
    streamed (events ++ [event]) = streamed events ++ event.chunk := by
  rw [streamed, List.flatMap_append, List.flatMap_singleton, streamed]

theorem replay_concat (effect : FlashEffect Cell) (initial : Nat -> Cell) (events : List Event)
    (event : Event) :
    replay effect initial (events ++ [event]) = effect.apply (replay effect initial events) event := by
  rw [replay, List.foldl_append]
  rfl

theorem sessionLog_concat {log : List Event} {event : Event} (inside : event.opening = none) :
    sessionLog (log ++ [event]) = sessionLog log ++ [event] :=
  since_concat_unmarked (by rw [inside]; rfl)

theorem opening_of_mem_sessionLog {log : List Event} {event : Event} (member : event ∈ sessionLog log) :
    event.opening = none := by
  rw [sessionLog] at member
  have unmarked := unmarked_of_mem_since member
  exact Option.not_isSome_iff_eq_none.mp (Bool.eq_false_iff.mp unmarked)

theorem callLog_concat {log : List Event} {event : Event} (inside : event.entered = none) :
    callLog (log ++ [event]) = callLog log ++ [event] :=
  since_concat_unmarked (by rw [inside]; rfl)

theorem lastCall_enter (log : List Event) (call : Call) : lastCall (log ++ [.enter call]) = some call :=
  latest_concat_some rfl

theorem callLog_enter (log : List Event) (call : Call) : callLog (log ++ [.enter call]) = [] :=
  since_concat_marked rfl

/-! ## Entries that leave a reading alone -/

section Reading

variable {event : Event} (still : event.flash = false)
include still

theorem erasure_of_still : event.erasure = none := by
  cases event with
  | eraseOta offset size result => exact absurd still.symm Bool.false_ne_true
  | _ => rfl

theorem writing_of_still : event.writing = none := by
  cases event with
  | writeOta offset data result reached => exact absurd still.symm Bool.false_ne_true
  | _ => rfl

theorem apply_of_still (effect : FlashEffect Cell) (memory : Nat -> Cell) :
    effect.apply memory event = memory := by
  cases event with
  | eraseOta offset size result => exact absurd still.symm Bool.false_ne_true
  | writeOta offset data result reached => exact absurd still.symm Bool.false_ne_true
  | _ => rfl

end Reading

section Quiet

variable {event : Event} (silent : event.quiet = true)
include silent

theorem chunk_of_quiet : event.chunk = [] := by
  cases event with
  | enter call => exact absurd silent Bool.false_ne_true
  | _ => rfl

theorem opening_of_quiet : event.opening = none := by
  cases event with
  | begun parameters => exact absurd silent Bool.false_ne_true
  | _ => rfl

theorem entered_of_quiet : event.entered = none := by
  cases event with
  | enter call => exact absurd silent Bool.false_ne_true
  | _ => rfl

theorem publication_of_quiet : event.publication = none := by
  cases event with
  | published info => exact absurd silent Bool.false_ne_true
  | _ => rfl

theorem flash_of_quiet : event.flash = false := by
  cases event with
  | eraseOta offset size result => exact absurd silent Bool.false_ne_true
  | writeOta offset data result reached => exact absurd silent Bool.false_ne_true
  | _ => rfl

theorem reading_of_quiet : event.reading = none := by
  cases event with
  | readOta offset data result reached => exact absurd silent Bool.false_ne_true
  | _ => rfl

end Quiet

/-! ## Evidence -/

/-- The 320 header bytes received first. -/
def headerOf (events : List Event) : Bytes :=
  (streamed events).take 320

/-- The 64 signature bytes received next. -/
def signatureOf (events : List Event) : Bytes :=
  slice (streamed events) 320 64

/-- The first 8 payload bytes. -/
def vectorsOf (events : List Event) : Bytes :=
  slice (streamed events) 384 8

def payloadOf (events : List Event) : Bytes :=
  (streamed events).drop 384

/-- The payload size declared by the header. -/
def declared (events : List Event) : Nat :=
  (headerPayloadSize (headerOf events)).toNat

/-- The signature check of the session's header, with its two clock readings. -/
def signatureCheck (parameters : SessionParameters) (events : List Event) (started : UInt32)
    (result : Int) (finished : UInt32) : List Event :=
  [.timeMs started, .verifySignature parameters.publicKey.bytes (Sha256.hash (headerOf events))
    (signatureOf events) result, .timeMs finished]

/-- The header was received completely and decoded without error. -/
structure Decoded (sizeMax : Nat) (parameters : SessionParameters) (events : List Event) : Prop where
  complete : 384 ≤ (streamed events).length
  accepted : (decodeHeader sizeMax parameters (headerOf events)).verdict = .ok ()

/-- The header's signature was verified in time under the trusted key. -/
structure Signed (sizeMax : Nat) (parameters : SessionParameters) (events : List Event) : Prop
    extends Decoded sizeMax parameters events where
  verified : exists started finished, signatureCheck parameters events started 0 finished <:+: events ∧
    finished - started ≤ 5000

/-- The header is signed and the admission callback, if any, let it pass. -/
structure Authenticated (sizeMax : Nat) (parameters : SessionParameters) (events : List Event) : Prop
    extends Signed sizeMax parameters events where
  admitted : parameters.admits = true -> exists answer,
    Event.admission (headerMetadata (headerOf events)) answer ∈ events ∧ answer.result ≠ 0

/-- The header is authenticated and the vector table was checked. -/
structure Authorised (sizeMax : Nat) (parameters : SessionParameters) (events : List Event) : Prop
    extends Authenticated sizeMax parameters events where
  started : 392 ≤ (streamed events).length
  vectors : validateVectors (vectorsOf events) parameters.application
    (headerPayloadSize (headerOf events)) = .ok ()

/-- The last entry is a poll of the cancellation callback by `OTAStagingFinish` in
which the callback called `OTAStagingAbort` and then returned zero. -/
def Ignored (events : List Event) : Prop :=
  exists before answer given, events = before ++ [.cancellation answer] ∧ answer.abort = true ∧
    answer.result = 0 ∧ lastCall before = some (.finish given)

/-- Every abort came out of such a poll. -/
def AbortsIgnored (events : List Event) : Prop :=
  Always (fun before event => event = .aborted ->
    exists poll, before = poll ++ [.state .cancelled] ∧ Ignored poll) events

/-- A callback of the session called `OTAStagingAbort`. -/
def Interrupted (events : List Event) : Prop :=
  exists answer : CallbackAnswer, answer.abort = true ∧
    (Event.cancellation answer ∈ events ∨ exists metadata, Event.admission metadata answer ∈ events)

/-- The current call is `OTAStagingFinish`, which only reads from Flash. -/
structure Finishing (log : List Event) : Prop where
  call : exists given, lastCall log = some (.finish given)
  undisturbed : forall event, event ∈ callLog log -> event.flash = false

/-- What `OTAStagingFinish` has established when it publishes its result. -/
structure Verified (sizeMax : Nat) (log : List Event) (info : OTAStagedImageInfo) : Prop where
  authorised : exists parameters, parametersOf log = some parameters ∧
    Authorised sizeMax parameters (sessionLog log) ∧
    (streamed (sessionLog log)).length = parameters.packageSize
  covered : Tiles 0 (readRanges (callLog log)) (declared (sessionLog log))
  imageHash : Sha256.hash (imageOf (callLog log)) = slice (headerOf (sessionLog log)) 20 32
  payloadHash : Sha256.hash (payloadOf (sessionLog log)) = slice (headerOf (sessionLog log)) 20 32
  payloadCrc : crc16Update 0 (payloadOf (sessionLog log)) = info.crc16
  imageCrc : crc16Update 0 (imageOf (callLog log)) = info.crc16
  descriptor : slice (imageOf (callLog log)) 0x200 256 = slice (headerOf (sessionLog log)) 64 256
  payloadSize : info.payloadSize = headerPayloadSize (headerOf (sessionLog log))
  sha256 : info.sha256.bytes = slice (headerOf (sessionLog log)) 20 32
  metadata : info.metadata = headerMetadata (headerOf (sessionLog log))
  finishing : Finishing log
  clean : forall offset data result reached, Event.readOta offset data result reached ∈ callLog log -> result = 0

/-- The call that uses up a published result. -/
def activation (info : OTAStagedImageInfo) : Event :=
  .enter (.activate info.sessionGeneration (some info.sha256))

/-- An entry after which a published result is no longer good. -/
def Revokes (info : OTAStagedImageInfo) (event : Event) : Prop :=
  event = .aborted ∨ event.opening ≠ none ∨ event.publication ≠ none ∨ event = activation info

/-- The result is the one published last, and nothing has revoked it. -/
def Standing (info : OTAStagedImageInfo) (log : List Event) : Prop :=
  exists earlier later, log = earlier ++ .published info :: later ∧
    forall event, event ∈ later -> ¬ Revokes info event

/-- The current call has just presented a standing result. -/
def Presented (info : OTAStagedImageInfo) (log : List Event) : Prop :=
  info.sessionGeneration ≠ 0 ∧ exists before, log = before ++ [activation info] ∧ Standing info before

/-- Entries of an activation attempt. -/
def Event.bootStep : Event -> Bool
  | timeMs _ | readBootTable _ | writeBootTable _ _ | readPersistedBootTable _ => true
  | _ => false

/-- The current call is an activation attempt with a standing result. -/
def Activating (info : OTAStagedImageInfo) (log : List Event) : Prop :=
  exists start steps, log = start ++ .state .activating :: steps ∧ Presented info start ∧
    forall event, event ∈ steps -> event.bootStep = true

/-- What the log must hold before an entry is recorded. -/
def Rule (sizeMax : Nat) (before : List Event) : Event -> Prop
  | .begun parameters => validPublicKey (some parameters.publicKey.bytes) = true ∧ exists earlier,
      before = earlier ++ [.enter (.begin parameters.packageSize (some parameters.publicKey.bytes))]
  | .eraseOta offset size _ => 0 < size ∧ offset.toNat + size ≤ declared (sessionLog before) ∧
      Tiles 0 (erases (sessionLog before)) offset.toNat ∧
      exists parameters, parametersOf before = some parameters ∧
        Authorised sizeMax parameters (sessionLog before)
  | .writeOta offset data _ _ => 1 ≤ data.length ∧ data.length ≤ 512 ∧
      offset.toNat + data.length ≤ declared (sessionLog before) ∧
      Tiles 0 (erases (sessionLog before)) (declared (sessionLog before)) ∧
      Tiles 0 (writes (sessionLog before)) offset.toNat ∧ Blank (sessionLog before) offset.toNat data.length ∧
      exists parameters, parametersOf before = some parameters ∧
        Authorised sizeMax parameters (sessionLog before)
  | .readOta offset data _ _ => 1 ≤ data.length ∧ data.length ≤ 512 ∧
      offset.toNat + data.length ≤ declared (sessionLog before) ∧
      exists parameters, parametersOf before = some parameters ∧
        Authorised sizeMax parameters (sessionLog before)
  | .published info => info.sessionGeneration.toNat = (publications before).length % (2 ^ 32 - 1) + 1 ∧
      Verified sizeMax before info ∧ AbortsIgnored (sessionLog before)
  | .state .ready => exists earlier info, before = earlier ++ [.published info]
  | .state .activating => exists info, Presented info before
  | .writeBootTable _ _ => exists info, Activating info before
  | _ => True

/-- `OTAStagingFinish` has found the right digest over the payload and has read
the whole image back. -/
structure ReadBackWhole (parameters : SessionParameters) (log : List Event) : Prop where
  finishing : Finishing log
  whole : (streamed (sessionLog log)).length = parameters.packageSize
  matched : Sha256.hash (payloadOf (sessionLog log)) = slice (headerOf (sessionLog log)) 20 32
  covered : Tiles 0 (readRanges (callLog log)) (declared (sessionLog log))
  clean : forall offset data result reached, Event.readOta offset data result reached ∈ callLog log -> result = 0

/-- What in the log accounts for an error that only `OTAStagingFinish` reports. -/
inductive FinishCause (parameters : SessionParameters) (log : List Event) : OTAStagingError -> Prop where
  | incomplete (finishing : Finishing log) (wrong : (streamed (sessionLog log)).length ≠ parameters.packageSize) :
      FinishCause parameters log .incomplete
  | hashMismatch (finishing : Finishing log)
      (whole : (streamed (sessionLog log)).length = parameters.packageSize)
      (differs : Sha256.hash (payloadOf (sessionLog log)) ≠ slice (headerOf (sessionLog log)) 20 32) :
      FinishCause parameters log .hashMismatch
  | readBackHash (readBack : ReadBackWhole parameters log)
      (differs : Sha256.hash (imageOf (callLog log)) ≠ slice (headerOf (sessionLog log)) 20 32) :
      FinishCause parameters log .readBackHashMismatch
  | readBackCrc (readBack : ReadBackWhole parameters log)
      (differs : crc16Update 0 (imageOf (callLog log)) ≠ crc16Update 0 (payloadOf (sessionLog log))) :
      FinishCause parameters log .readBackCrcMismatch
  | descriptor (readBack : ReadBackWhole parameters log)
      (differs : slice (imageOf (callLog log)) 0x200 256 ≠ slice (headerOf (sessionLog log)) 64 256) :
      FinishCause parameters log .descriptorMismatch

/-- What in the log accounts for an error of the receiving and finishing
calls. -/
inductive Cause (sizeMax : Nat) (parameters : SessionParameters) (log : List Event) :
    OTAStagingError -> Prop where
  | nullChunk (size : Nat) (positive : 0 < size)
      (last : lastCall log = some (.writePackage (.null size))) : Cause sizeMax parameters log .invalidArgument
  | nullResult (last : lastCall log = some (.finish false)) : Cause sizeMax parameters log .invalidArgument
  | trailing (long : parameters.packageSize < (streamed (sessionLog log)).length) :
      Cause sizeMax parameters log .trailingData
  | cancelled (answer : CallbackAnswer) (asked : Event.cancellation answer ∈ sessionLog log)
      (stop : answer.result ≠ 0) : Cause sizeMax parameters log .cancelled
  | header (reason : OTAStagingError) (complete : 384 ≤ (streamed (sessionLog log)).length)
      (rejected : (decodeHeader sizeMax parameters (headerOf (sessionLog log))).verdict = .error reason) :
      Cause sizeMax parameters log reason
  | verification (result : Int) (decoded : Decoded sizeMax parameters (sessionLog log))
      (asked : Event.verifySignature parameters.publicKey.bytes (Sha256.hash (headerOf (sessionLog log)))
        (signatureOf (sessionLog log)) result ∈ sessionLog log)
      (bad : result ≠ 0) :
      Cause sizeMax parameters log (if result = -2 then .keyFormat else .signature)
  | signatureTimeout (started finished : UInt32) (decoded : Decoded sizeMax parameters (sessionLog log))
      (timed : signatureCheck parameters (sessionLog log) started 0 finished <:+: sessionLog log)
      (late : finished - started > 5000) : Cause sizeMax parameters log .signatureTimeout
  | admission (answer : CallbackAnswer) (signed : Signed sizeMax parameters (sessionLog log))
      (admits : parameters.admits = true)
      (asked : Event.admission (headerMetadata (headerOf (sessionLog log))) answer ∈ sessionLog log)
      (refused : answer.result = 0) : Cause sizeMax parameters log .admissionRejected
  | vectors (reason : OTAStagingError)
      (authenticated : Authenticated sizeMax parameters (sessionLog log))
      (started : 392 ≤ (streamed (sessionLog log)).length)
      (rejected : validateVectors (vectorsOf (sessionLog log)) parameters.application
        (headerPayloadSize (headerOf (sessionLog log))) = .error reason) :
      Cause sizeMax parameters log reason
  | erase (offset : UInt32) (size : Nat) (result : Int)
      (asked : Event.eraseOta offset size result ∈ sessionLog log) (bad : result ≠ 0) :
      Cause sizeMax parameters log .erase
  | eraseTimeout (started : UInt32) (offset : UInt32) (size : Nat) (result : Int) (finished : UInt32)
      (timed : [.timeMs started, .eraseOta offset size result, .timeMs finished] <:+: sessionLog log)
      (late : finished - started > 2000) : Cause sizeMax parameters log .eraseTimeout
  | write (offset : UInt32) (data : Bytes) (result : Int) (reached : UInt32)
      (asked : Event.writeOta offset data result reached ∈ sessionLog log) (bad : result ≠ 0) :
      Cause sizeMax parameters log .write
  | shortWrite (offset : UInt32) (data : Bytes) (result : Int) (reached : UInt32)
      (asked : Event.writeOta offset data result reached ∈ sessionLog log)
      (short : reached.toNat ≠ offset.toNat + data.length) : Cause sizeMax parameters log .shortWrite
  | writeTimeout (started : UInt32) (offset : UInt32) (data : Bytes) (result : Int)
      (reached finished : UInt32)
      (timed : [.timeMs started, .writeOta offset data result reached, .timeMs finished] <:+: sessionLog log)
      (late : finished - started > 2000) : Cause sizeMax parameters log .writeTimeout
  | readBack (offset : UInt32) (data : Bytes) (result : Int) (reached : UInt32)
      (asked : Event.readOta offset data result reached ∈ sessionLog log)
      (bad : result ≠ 0 ∨ reached.toNat ≠ offset.toNat + data.length) : Cause sizeMax parameters log .readBack
  | readBackTimeout (started : UInt32) (offset : UInt32) (data : Bytes) (result : Int)
      (reached finished : UInt32)
      (timed : [.timeMs started, .readOta offset data result reached, .timeMs finished] <:+: sessionLog log)
      (late : finished - started > 2000) : Cause sizeMax parameters log .readBackTimeout
  | finish {reason : OTAStagingError} (late : FinishCause parameters log reason) :
      Cause sizeMax parameters log reason

/-! ## Evidence is kept by later entries -/

theorem streamed_append (events more : List Event) :
    streamed (events ++ more) = streamed events ++ streamed more :=
  List.flatMap_append

theorem headerOf_append (events more : List Event) (complete : 384 ≤ (streamed events).length) :
    headerOf (events ++ more) = headerOf events := by
  rw [headerOf, streamed_append, List.take_append_of_le_length (by omega), headerOf]

theorem signatureOf_append (events more : List Event) (complete : 384 ≤ (streamed events).length) :
    signatureOf (events ++ more) = signatureOf events := by
  rw [signatureOf, streamed_append, slice_append_left _ _ _ _ complete, signatureOf]

theorem vectorsOf_append (events more : List Event) (started : 392 ≤ (streamed events).length) :
    vectorsOf (events ++ more) = vectorsOf events := by
  rw [vectorsOf, streamed_append, slice_append_left _ _ _ _ started, vectorsOf]

theorem length_streamed_append (events more : List Event) :
    (streamed events).length ≤ (streamed (events ++ more)).length := by
  rw [streamed_append, List.length_append]
  exact Nat.le_add_right _ _

section Later

variable {sizeMax : Nat} {parameters : SessionParameters} {events : List Event}

theorem Decoded.append (decoded : Decoded sizeMax parameters events) (more : List Event) :
    Decoded sizeMax parameters (events ++ more) where
  complete := Nat.le_trans decoded.complete (length_streamed_append events more)
  accepted := by rw [headerOf_append events more decoded.complete, decoded.accepted]

theorem Signed.append (signed : Signed sizeMax parameters events) (more : List Event) :
    Signed sizeMax parameters (events ++ more) where
  toDecoded := signed.toDecoded.append more
  verified := by
    rcases signed.verified with ⟨started, finished, recorded, inTime⟩
    refine ⟨started, finished, ?_, inTime⟩
    rw [signatureCheck, headerOf_append events more signed.complete,
      signatureOf_append events more signed.complete]
    exact recorded.trans (List.prefix_append events more).isInfix

theorem Authenticated.append (authenticated : Authenticated sizeMax parameters events)
    (more : List Event) : Authenticated sizeMax parameters (events ++ more) where
  toSigned := authenticated.toSigned.append more
  admitted := by
    intro admits
    rcases authenticated.admitted admits with ⟨answer, asked, positive⟩
    refine ⟨answer, ?_, positive⟩
    rw [headerOf_append events more authenticated.complete]
    exact List.mem_append_left more asked

theorem Authorised.append (authorised : Authorised sizeMax parameters events) (more : List Event) :
    Authorised sizeMax parameters (events ++ more) where
  toAuthenticated := authorised.toAuthenticated.append more
  started := Nat.le_trans authorised.started (length_streamed_append events more)
  vectors := by
    rw [vectorsOf_append events more authorised.started, headerOf_append events more authorised.complete]
    exact authorised.vectors

end Later

theorem AbortsIgnored.append {events more : List Event} (ignored : AbortsIgnored events)
    (others : forall event, event ∈ more -> event ≠ .aborted) : AbortsIgnored (events ++ more) := by
  induction more using List.reverseRecOn with
  | nil =>
      rw [List.append_nil]
      exact ignored
  | append_singleton more event inductionHypothesis =>
      rw [← List.append_assoc]
      refine always_concat.mpr ⟨inductionHypothesis fun other member => ?_, fun aborted => ?_⟩
      · exact others other (List.mem_append_left _ member)
      · exact absurd aborted (others event (List.mem_append_right _ (List.mem_singleton_self event)))

theorem AbortsIgnored.concat {events : List Event} {event : Event} (ignored : AbortsIgnored events)
    (other : event ≠ .aborted) : AbortsIgnored (events ++ [event]) :=
  always_concat.mpr ⟨ignored, fun aborted => absurd aborted other⟩

/-- A session is opened by a call of its own, so the call of `OTAStagingFinish`
under way is one of the current session. -/
theorem lastCall_sessionLog {sizeMax : Nat} {log : List Event} {given : Bool} (lawful : Always (Rule sizeMax) log)
    (last : lastCall log = some (.finish given)) : lastCall (sessionLog log) = some (.finish given) := by
  induction log using List.reverseRecOn with
  | nil => exact last
  | append_singleton log event inductionHypothesis =>
      rcases always_concat.mp lawful with ⟨past, rule⟩
      cases event with
      | enter call =>
          rw [lastCall_enter] at last
          rw [sessionLog_concat rfl, lastCall_enter, last]
      | begun parameters =>
          rcases rule with ⟨_, earlier, rfl⟩
          have opening : lastCall (earlier ++ [.enter (.begin parameters.packageSize
              (some parameters.publicKey.bytes))]) = some (.finish given) := (latest_concat_none rfl).symm.trans last
          rw [lastCall_enter] at opening
          cases opening
      | _ =>
          rw [sessionLog_concat rfl]
          exact (latest_concat_none rfl).trans (inductionHypothesis past ((latest_concat_none rfl).symm.trans last))

theorem Interrupted.append {events : List Event} (interrupted : Interrupted events)
    (more : List Event) : Interrupted (events ++ more) := by
  rcases interrupted with ⟨answer, abort, polled | ⟨metadata, asked⟩⟩
  · exact ⟨answer, abort, .inl (List.mem_append_left more polled)⟩
  · exact ⟨answer, abort, .inr ⟨metadata, List.mem_append_left more asked⟩⟩

end Ota
end DevKit

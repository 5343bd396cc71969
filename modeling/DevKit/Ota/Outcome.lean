import DevKit.Ota.Steady

namespace DevKit
namespace Ota

/-!
# Outcomes as functions of the bytes

`verdict` is the result of receiving a stream on a steady platform and
`completion` the result of finishing it.  Both are stated without the engine;
this module shows that the engine computes them, whatever the boundaries of the
chunks in which the stream arrives.
-/

variable {World : Type}

/-! ## Error codes of the receiving and finishing calls -/

/-- Codes that a cause can have: neither success nor a refused call. -/
def OTAStagingError.reported : OTAStagingError -> Bool
  | .ok | .invalidState => false
  | _ => true

theorem decodeHeader_reported {sizeMax : Nat} {parameters : SessionParameters} {header : Bytes}
    {reason : OTAStagingError}
    (rejected : (decodeHeader sizeMax parameters header).verdict = .error reason) : reason.reported = true := by
  unfold decodeHeader at rejected
  simp only at rejected
  repeat' split at rejected
  all_goals
    first
      | cases rejected; rfl
      | cases rejected

theorem validateVectors_reported {vectors : Bytes} {application : OTAStagingPartition} {payloadSize : UInt32}
    {reason : OTAStagingError} (rejected : validateVectors vectors application payloadSize = .error reason) :
    reason.reported = true := by
  unfold validateVectors at rejected
  simp only at rejected
  repeat' split at rejected
  all_goals
    first
      | cases rejected; rfl
      | cases rejected

theorem FinishCause.reported {parameters : SessionParameters} {log : List Event} {reason : OTAStagingError}
    (cause : FinishCause parameters log reason) : reason.reported = true := by
  cases cause with
  | _ => rfl

theorem FinishCause.finishing {parameters : SessionParameters} {log : List Event} {reason : OTAStagingError}
    (cause : FinishCause parameters log reason) : Finishing log := by
  cases cause with
  | incomplete finishing wrong => exact finishing
  | hashMismatch finishing whole differs => exact finishing
  | readBackHash readBack differs => exact readBack.finishing
  | readBackCrc readBack differs => exact readBack.finishing
  | descriptor readBack differs => exact readBack.finishing

/-- A call never fails with a code that means something else. -/
theorem Cause.reported {sizeMax : Nat} {parameters : SessionParameters} {log : List Event}
    {reason : OTAStagingError} (cause : Cause sizeMax parameters log reason) : reason.reported = true := by
  cases cause with
  | header reason complete rejected => exact decodeHeader_reported rejected
  | vectors reason authenticated started rejected => exact validateVectors_reported rejected
  | verification result decoded asked bad =>
      split
      · rfl
      · rfl
  | finish late => exact late.reported
  | _ => rfl

/-! ## The two functions -/

/-- The outcome of the header and signature checks. -/
def headerVerdict (sizeMax : Nat) (conduct : Conduct World) (decides : OTAStagingMetadata -> Int)
    (parameters : SessionParameters) (header signature : Bytes) : Except OTAStagingError Unit :=
  match (decodeHeader sizeMax parameters header).verdict with
  | .error reason => .error reason
  | .ok () =>
      let result := conduct.verifies parameters.publicKey.bytes (Sha256.hash header) signature
      if result ≠ 0 then
        .error (if result = -2 then .keyFormat else .signature)
      else if conduct.slow parameters.publicKey.bytes (Sha256.hash header) signature = true then
        .error .signatureTimeout
      else if parameters.admits = true ∧ decides (headerMetadata header) = 0 then
        .error .admissionRejected
      else
        .ok ()

/-- The outcome of receiving a stream: the header is judged when the first 384
bytes are there and the vector table when the first 392 are. -/
def verdict (sizeMax : Nat) (conduct : Conduct World) (decides : OTAStagingMetadata -> Int)
    (parameters : SessionParameters) (stream : Bytes) : Except OTAStagingError Unit :=
  if stream.length < 384 then .ok ()
  else
    match headerVerdict sizeMax conduct decides parameters (stream.take 320) (slice stream 320 64) with
    | .error reason => .error reason
    | .ok () =>
        if stream.length < 392 then .ok ()
        else validateVectors (slice stream 384 8) parameters.application (headerPayloadSize (stream.take 320))

/-- The outcome of finishing a stream that was received without error. -/
def completion (parameters : SessionParameters) (stream : Bytes) : Except OTAStagingError Unit :=
  if stream.length ≠ parameters.packageSize then .error .incomplete
  else if Sha256.hash (stream.drop 384) ≠ slice (stream.take 320) 20 32 then .error .hashMismatch
  else if slice (stream.drop 384) 0x200 256 ≠ slice (stream.take 320) 64 256 then .error .descriptorMismatch
  else .ok ()

theorem sector_pos : 0 < 4096 := by decide

/-- What receiving a stream makes of Flash. -/
def staged (conduct : Conduct World) (initial : Nat -> UInt8) (stream : Bytes) : Nat -> UInt8 :=
  if stream.length < 392 then initial
  else overlay (eraseAll conduct.effect initial
    (blocksFrom 4096 sector_pos (headerPayloadSize (stream.take 320)).toNat 0)) 0 (stream.drop 384)

section Verdict

variable {sizeMax : Nat} {conduct : Conduct World} {decides : OTAStagingMetadata -> Int}
  {parameters : SessionParameters} {stream : Bytes} {reason : OTAStagingError}

/-- An error does not go away when more bytes arrive. -/
theorem verdict_append (more : Bytes)
    (rejected : verdict sizeMax conduct decides parameters stream = .error reason) :
    verdict sizeMax conduct decides parameters (stream ++ more) = .error reason := by
  have grows : (stream ++ more).length = stream.length + more.length := List.length_append
  unfold verdict at rejected ⊢
  split at rejected
  · cases rejected
  rename_i long
  have header : (stream ++ more).take 320 = stream.take 320 := List.take_append_of_le_length (by omega)
  rw [if_neg (by omega), header, slice_append_left _ _ _ _ (by omega)]
  cases judged : headerVerdict sizeMax conduct decides parameters (stream.take 320) (slice stream 320 64) with
  | error other =>
      rw [judged] at rejected
      exact rejected
  | ok accepted =>
      rw [judged] at rejected
      simp only at rejected ⊢
      split at rejected
      · cases rejected
      rename_i longer
      rw [if_neg (by omega), slice_append_left _ _ _ _ (by omega)]
      exact rejected

theorem verdict_of_header {events : List Event} (complete : 384 ≤ (streamed events).length)
    (rejected : headerVerdict sizeMax conduct decides parameters (headerOf events) (signatureOf events) =
      .error reason) : verdict sizeMax conduct decides parameters (streamed events) = .error reason := by
  rw [headerOf, signatureOf] at rejected
  rw [verdict, if_neg (by omega), rejected]

end Verdict

/-! ## Evidence in an orderly log -/

section Evidence

variable {platform : Platform World} {conduct : Conduct World} {decides : OTAStagingMetadata -> Int}
  {initial : Nat -> UInt8} {parameters : SessionParameters} {world : World} {log : List Event}
  {reason : OTAStagingError} {sizeMax : Nat}

theorem Orderly.verified (orderly : Orderly platform conduct decides initial parameters world log)
    {started finished : UInt32} {result : Int}
    (found : signatureCheck parameters (sessionLog log) started result finished <:+: sessionLog log) :
    result = conduct.verifies parameters.publicKey.bytes (Sha256.hash (headerOf (sessionLog log)))
        (signatureOf (sessionLog log)) ∧
      decide (finished - started > 5000) = conduct.slow parameters.publicKey.bytes
        (Sha256.hash (headerOf (sessionLog log))) (signatureOf (sessionLog log)) := by
  have member : Event.verifySignature parameters.publicKey.bytes (Sha256.hash (headerOf (sessionLog log)))
      (signatureOf (sessionLog log)) result ∈ sessionLog log :=
    found.subset (List.mem_cons_of_mem _ List.mem_cons_self)
  rcases orderly.mem member with ⟨_, expected⟩
  exact ⟨expected, orderly.timed found⟩

theorem Orderly.headerVerdict_of_signed (orderly : Orderly platform conduct decides initial parameters world log)
    (signed : Signed sizeMax parameters (sessionLog log)) :
    headerVerdict sizeMax conduct decides parameters (headerOf (sessionLog log)) (signatureOf (sessionLog log)) =
      if parameters.admits = true ∧ decides (headerMetadata (headerOf (sessionLog log))) = 0 then
        .error .admissionRejected
      else .ok () := by
  rcases signed.verified with ⟨started, finished, found, inTime⟩
  rcases orderly.verified found with ⟨accepted, timely⟩
  have prompt : ¬ conduct.slow parameters.publicKey.bytes (Sha256.hash (headerOf (sessionLog log)))
      (signatureOf (sessionLog log)) = true := by
    rw [← timely, decide_eq_true_eq]
    exact UInt32.not_lt.mpr inTime
  rw [headerVerdict, signed.accepted]
  simp only
  rw [if_neg (not_not.mpr accepted.symm), if_neg prompt]

theorem Orderly.headerVerdict_ok (orderly : Orderly platform conduct decides initial parameters world log)
    (authenticated : Authenticated sizeMax parameters (sessionLog log)) :
    headerVerdict sizeMax conduct decides parameters (headerOf (sessionLog log)) (signatureOf (sessionLog log)) =
      .ok () := by
  rw [orderly.headerVerdict_of_signed authenticated.toSigned, if_neg]
  rintro ⟨admits, refused⟩
  rcases authenticated.admitted admits with ⟨answer, asked, positive⟩
  rcases orderly.mem asked with ⟨_, expected⟩
  rw [(expected : answer = _)] at positive
  exact positive refused

/-- Nothing is erased or written unless the verdict is good. -/
theorem Orderly.verdict_of_authorised (orderly : Orderly platform conduct decides initial parameters world log)
    (authorised : Authorised sizeMax parameters (sessionLog log)) :
    verdict sizeMax conduct decides parameters (streamed (sessionLog log)) = .ok () := by
  have header := orderly.headerVerdict_ok authorised.toAuthenticated
  have complete := authorised.complete
  have started := authorised.started
  rw [headerOf, signatureOf] at header
  rw [verdict, if_neg (by omega), header]
  simp only
  rw [if_neg (by omega)]
  exact authorised.vectors

/-- The cause of an error in an orderly log: the verdict on the bytes, a misuse
of the call, or one of the errors of finishing. -/
theorem Cause.settle (orderly : Orderly platform conduct decides initial parameters world log)
    (cause : Cause sizeMax parameters log reason) :
    verdict sizeMax conduct decides parameters (streamed (sessionLog log)) = .error reason ∨
      (exists size, 0 < size ∧ lastCall log = some (.writePackage (.null size))) ∨
      lastCall log = some (.finish false) ∨
      parameters.packageSize < (streamed (sessionLog log)).length ∨
      FinishCause parameters log reason := by
  cases cause with
  | nullChunk size positive last => exact .inr (.inl ⟨size, positive, last⟩)
  | nullResult last => exact .inr (.inr (.inl last))
  | trailing long => exact .inr (.inr (.inr (.inl long)))
  | finish late => exact .inr (.inr (.inr (.inr late)))
  | cancelled answer asked stop =>
      rcases orderly.mem asked with ⟨_, expected⟩
      rw [(expected : answer = ⟨false, 0⟩)] at stop
      exact absurd rfl stop
  | header reason complete rejected =>
      refine .inl (verdict_of_header complete ?_)
      rw [headerVerdict, rejected]
  | verification result decoded asked bad =>
      rcases orderly.mem asked with ⟨_, expected⟩
      have answer : result = conduct.verifies parameters.publicKey.bytes
          (Sha256.hash (headerOf (sessionLog log))) (signatureOf (sessionLog log)) := expected
      refine .inl (verdict_of_header decoded.complete ?_)
      rw [headerVerdict, decoded.accepted]
      simp only
      rw [← answer, if_pos bad]
  | signatureTimeout started finished decoded timed late =>
      rcases orderly.verified timed with ⟨accepted, timely⟩
      rw [decide_eq_true late] at timely
      refine .inl (verdict_of_header decoded.complete ?_)
      rw [headerVerdict, decoded.accepted]
      simp only
      rw [if_neg (not_not.mpr accepted.symm)]
      exact if_pos timely.symm
  | admission answer signed admits asked refused =>
      rcases orderly.mem asked with ⟨_, expected⟩
      rw [(expected : answer = _)] at refused
      refine .inl (verdict_of_header signed.complete ?_)
      have header := orderly.headerVerdict_of_signed signed
      rw [if_pos ⟨admits, refused⟩] at header
      exact header
  | vectors reason authenticated started rejected =>
      have header := orderly.headerVerdict_ok authenticated
      rw [headerOf, signatureOf] at header
      refine .inl ?_
      rw [verdict, if_neg (by omega), header]
      simp only
      rw [if_neg (by omega)]
      exact rejected
  | erase offset size result asked bad =>
      rcases orderly.mem asked with ⟨_, expected⟩
      exact absurd expected bad
  | eraseTimeout started offset size result finished timed late =>
      exact absurd late (UInt32.not_lt.mpr (orderly.timed timed))
  | write offset data result reached asked bad =>
      rcases orderly.mem asked with ⟨_, expected⟩
      exact absurd expected.1 bad
  | shortWrite offset data result reached asked short =>
      rcases orderly.mem asked with ⟨_, expected⟩
      exact absurd expected.2 short
  | writeTimeout started offset data result reached finished timed late =>
      exact absurd late (UInt32.not_lt.mpr (orderly.timed timed))
  | readBack offset data result reached asked bad =>
      rcases orderly.mem asked with ⟨_, expected⟩
      rcases bad with failed | wrong
      · exact absurd expected.1 failed
      · exact absurd expected.2 wrong
  | readBackTimeout started offset data result reached finished timed late =>
      exact absurd late (UInt32.not_lt.mpr (orderly.timed timed))

/-- A session whose verdict is bad has left Flash alone. -/
theorem Orderly.untouched (orderly : Orderly platform conduct decides initial parameters world log)
    (lawful : Always (Rule platform.sizeMax) log)
    (rejected : verdict platform.sizeMax conduct decides parameters (streamed (sessionLog log)) = .error reason) :
    conduct.contents world = initial := by
  have still : forall event, event ∈ sessionLog log -> event.flash = false := by
    intro event member
    rcases List.append_of_mem member with ⟨before, after, split⟩
    rcases since_split split with ⟨earlier, whole, session⟩
    have rule := lawful earlier event after whole
    have impossible : (exists current, parametersOf earlier = some current ∧
        Authorised platform.sizeMax current (sessionLog earlier)) -> False := by
      rintro ⟨current, opened, authorised⟩
      have inner : forall other, other ∈ event :: after -> other.opening = none := by
        intro other place
        apply opening_of_mem_sessionLog
        rw [split]
        exact List.mem_append_right before place
      have same : parametersOf log = parametersOf earlier := by
        rw [whole]
        exact latest_append_none inner
      have current_eq := Option.some_inj.mp ((opened.symm.trans same.symm).trans orderly.opened)
      subst current_eq
      have final := authorised.append (event :: after)
      rw [sessionLog, session, ← split] at final
      have good := orderly.verdict_of_authorised final
      rw [rejected] at good
      cases good
    cases event with
    | eraseOta offset size result => exact absurd rule.2.2.2 impossible
    | writeOta offset data result reached => exact absurd rule.2.2.2.2.2.2 impossible
    | _ => rfl
  rw [orderly.contents]
  exact replay_of_still conduct.effect initial [] still

end Evidence

/-! ## A published result in the log -/

section Published

variable {platform : Platform World} {Kept : World -> List Event -> Prop} {terms : Terms World}
  {sizeMax : Nat} {log : List Event} {event : Event} {info : OTAStagedImageInfo} {system : System World}

/-- The evidence for a result outlives the entries behind it. -/
theorem Verified.step (verified : Verified sizeMax log info) (inside : event.opening = none)
    (within : event.entered = none) (still : event.flash = false) (unread : event.reading = none) :
    Verified sizeMax (log ++ [event]) info := by
  have session : sessionLog (log ++ [event]) = sessionLog log ++ [event] := sessionLog_concat inside
  have stream : streamed (sessionLog (log ++ [event])) = streamed (sessionLog log) := by
    rw [session, streamed_concat, chunk_of_unentered within, List.append_nil]
  have header : headerOf (sessionLog (log ++ [event])) = headerOf (sessionLog log) := by
    rw [headerOf, stream, headerOf]
  have payload : payloadOf (sessionLog (log ++ [event])) = payloadOf (sessionLog log) := by
    rw [payloadOf, stream, payloadOf]
  have read : reads (callLog (log ++ [event])) = reads (callLog log) := by
    rw [callLog_concat within]
    exact filterMap_concat_none unread
  have image : imageOf (callLog (log ++ [event])) = imageOf (callLog log) := by
    rw [imageOf, read, imageOf]
  refine ⟨?_, ?_, ?_, ?_, ?_, ?_, ?_, ?_, ?_, ?_, verified.finishing.step within still, ?_⟩
  · rcases verified.authorised with ⟨parameters, opened, authorised, whole⟩
    refine ⟨parameters, (latest_concat_none inside).trans opened, ?_, ?_⟩
    · rw [session]
      exact authorised.append [event]
    · rw [stream]
      exact whole
  · rw [readRanges, read, declared, header]
    exact verified.covered
  · rw [image, header]
    exact verified.imageHash
  · rw [payload, header]
    exact verified.payloadHash
  · rw [payload]
    exact verified.payloadCrc
  · rw [image]
    exact verified.imageCrc
  · rw [image, header]
    exact verified.descriptor
  · rw [header]
    exact verified.payloadSize
  · rw [header]
    exact verified.sha256
  · rw [header]
    exact verified.metadata
  · intro offset data result reached member
    rw [callLog_concat within, List.mem_append, List.mem_singleton] at member
    rcases member with earlier | rfl
    · exact verified.clean offset data result reached earlier
    · exact absurd unread (Option.some_ne_none _)

theorem Published.verified (published : Published platform Kept terms system) :
    Verified platform.sizeMax system.log system.session.ready := by
  rcases published.logged with ⟨earlier, split, verified⟩
  rw [split]
  exact (verified.step rfl rfl rfl rfl).step rfl rfl rfl rfl

end Published

/-! ## Calls on a steady platform -/

/-- The law of a steady platform within a session. -/
def Conducted (platform : Platform World) (conduct : Conduct World) (decides : OTAStagingMetadata -> Int)
    (initial : Nat -> UInt8) (parameters : SessionParameters) (world : World) (log : List Event) : Prop :=
  ReadsMatch conduct.contents world log ∧ Orderly platform conduct decides initial parameters world log

/-- A session on a steady platform that has received `got` and can go on. -/
structure Serving (platform : Platform World) (conduct : Conduct World) (decides : OTAStagingMetadata -> Int)
    (initial : Nat -> UInt8) (terms : Terms World) (got : Bytes) (system : System World) : Prop where
  steady : Steady platform conduct
  compliant : Compliant conduct decides terms.admission terms.cancellation
  roomy : terms.ota.length.toNat ≤ conduct.capacity
  receivable : Receivable platform (Conducted platform conduct decides initial terms.parameters) terms got system
  state : system.session.status.state = .receiving

/-- The result that a complete stream is published under. -/
def stagedFor (terms : Terms World) (stream : Bytes) : OTAStagedImageInfo where
  sessionGeneration := terms.generation
  payloadSize := headerPayloadSize (stream.take 320)
  crc16 := crc16Update 0 (stream.drop 384)
  sha256 := Buffer.fill 32 (slice (stream.take 320) 20 32)
  metadata := headerMetadata (stream.take 320)

section Serving

variable {platform : Platform World} {conduct : Conduct World} {decides : OTAStagingMetadata -> Int}
  {initial : Nat -> UInt8} {terms : Terms World} {got : Bytes} {system : System World}

theorem Serving.law (serving : Serving platform conduct decides initial terms got system) :
    Law platform (Conducted platform conduct decides initial terms.parameters) :=
  (readsMatch_law serving.steady.toFaithfulReads).and
    (orderly_law serving.steady (mirrors_law serving.steady.toFaithfulFlash) serving.roomy)

theorem Serving.kept (serving : Serving platform conduct decides initial terms got system) :
    Conducted platform conduct decides initial terms.parameters system.world system.log :=
  serving.receivable.streaming.sound.kept

theorem Serving.entered (serving : Serving platform conduct decides initial terms got system) (call : Call) :
    Conducted platform conduct decides initial terms.parameters system.world (system.log ++ [.enter call]) :=
  ⟨readsMatch_enter _ _ call, serving.kept.2.enter call⟩

theorem Serving.stream (serving : Serving platform conduct decides initial terms got system) :
    streamed (sessionLog system.log) = got :=
  serving.receivable.streaming.stream_eq

/-- What has been received so far was found good. -/
theorem Serving.verdict_ok (serving : Serving platform conduct decides initial terms got system) :
    verdict platform.sizeMax conduct decides terms.parameters got = .ok () := by
  have recorded := serving.receivable.streaming.recorded.stream
  have stream := serving.stream
  by_cases short : got.length < 384
  · rw [verdict, if_pos short]
  by_cases started : got.length < 392
  · have authenticated := recorded.authenticated (decide_eq_true (by omega))
    have header := serving.kept.2.headerVerdict_ok authenticated
    rw [headerOf, signatureOf, stream] at header
    rw [verdict, if_neg short, header]
    exact if_pos started
  · have authorised := recorded.authorised (decide_eq_true (by omega))
    have good := serving.kept.2.verdict_of_authorised authorised
    rw [stream] at good
    exact good

/-- Flash holds what the stream has made of it. -/
theorem Serving.contents (serving : Serving platform conduct decides initial terms got system) :
    conduct.contents system.world = staged conduct initial got := by
  have recorded := serving.receivable.streaming.recorded
  rw [serving.kept.2.contents, recorded.flash.contents, staged]
  by_cases short : got.length < 392
  · have untouched := recorded.flash.untouched (decide_eq_false (by omega))
    have nothing : (Stage.after got).stored = [] := if_neg (by omega)
    rw [if_pos short, untouched, nothing, List.map_nil, overlay_nil]
    rfl
  · have planned := recorded.flash.planned (decide_eq_true (by omega))
    have cleared : (Stage.after got).cleared = (Stage.after got).limit := if_pos (by omega)
    have stored : (Stage.after got).stored = got.drop 384 := if_pos (by omega)
    have limit : (Stage.after got).limit = (headerPayloadSize (got.take 320)).toNat := by
      rw [recorded.stream.limit (by change 320 ≤ got.length; omega), declared, headerOf, serving.stream]
    rw [cleared, blocksFrom_limit, List.append_nil] at planned
    rw [if_neg short, planned, stored, limit]
    exact congrArg (overlay _ 0) (List.map_id _)

/-- `OTAStagingWritePackage` reports the verdict on everything received. -/
theorem Serving.write (serving : Serving platform conduct decides initial terms got system) (data : Bytes)
    (bounded : (got ++ data).length ≤ terms.packageSize) :
    (exists reached, perform platform (.writePackage (.data data)) system = (some .ok, reached) ∧
        Serving platform conduct decides initial terms (got ++ data) reached) ∨
      (exists reason reached, perform platform (.writePackage (.data data)) system = (some reason, reached) ∧
        verdict platform.sizeMax conduct decides terms.parameters (got ++ data) = .error reason ∧
        reason.reported = true ∧ reached.session.status.state ≠ .receiving ∧
        conduct.contents reached.world = initial) := by
  rcases writePackage_cases (.data data) serving.law serving.receivable.callbacks serving.receivable serving.state
      (serving.entered _) with ⟨reached, ended, _, streaming, _⟩ | ⟨reason, reached, ended, excused, grown⟩
  · refine .inl ⟨reached.record (.leave (some .ok)), ?_, serving.steady, serving.compliant, serving.roomy,
      ⟨serving.receivable.callbacks, serving.receivable.sized, bounded, streaming.leave serving.law _⟩, ?_⟩
    · simp only [perform, dispatch, Request.call, ended]
    · rcases streaming.held with ⟨state, error, same, alive⟩
      rw [System.record_session, same]
      rcases alive rfl with ⟨receiving, _⟩ | ⟨_, _, interrupted⟩
      · exact receiving
      · exact absurd interrupted streaming.sound.kept.2.not_interrupted
  · rcases grown.extends with ⟨tail, extended⟩
    have stream : streamed (sessionLog reached.log) = got ++ data := by
      rw [extended.stream, serving.stream]
      rfl
    have last := extended.last
    have rejected : verdict platform.sizeMax conduct decides terms.parameters
        (streamed (sessionLog reached.log)) = .error reason := by
      rcases excused.cause.settle excused.sound.kept.2 with
        rejected | ⟨size, _, null⟩ | missing | long | late
      · exact rejected
      · rw [last] at null
        cases null
      · rw [last] at missing
        cases missing
      · rw [stream] at long
        exact absurd bounded (Nat.not_le.mpr long)
      · rcases late.finishing.call with ⟨given, finish⟩
        rw [last] at finish
        cases finish
    refine .inr ⟨reason, (fail reason reached).2.record (.leave (some reason)), ?_, ?_, excused.cause.reported,
      ?_, excused.sound.kept.2.untouched excused.sound.lawful rejected⟩
    · simp only [perform, dispatch, Request.call, ended]
    · rw [← stream]
      exact rejected
    · intro impossible
      have inert := fail_inert reason reached
      rw [System.record_session] at impossible
      rw [impossible] at inert
      exact absurd inert Bool.false_ne_true

theorem Serving.finished (serving : Serving platform conduct decides initial terms got system)
    {log tail : List Event} (extended : Extends system.log (.finish true) log tail) :
    streamed (sessionLog log) = got ∧ parametersOf log = some terms.parameters := by
  constructor
  · rw [extended.stream, serving.stream]
    exact List.append_nil got
  · exact extended.opened.trans serving.receivable.streaming.recorded.stream.opened

/-- The image that is read back is the payload. -/
theorem Serving.readBack (serving : Serving platform conduct decides initial terms got system)
    {world : World} {log tail : List Event} (extended : Extends system.log (.finish true) log tail)
    (kept : Conducted platform conduct decides initial terms.parameters world log) (finishing : Finishing log)
    (clean : forall offset data result reached, Event.readOta offset data result reached ∈ callLog log ->
      result = 0)
    (covered : Tiles 0 (readRanges (callLog log)) (declared (sessionLog log)))
    (whole : got.length = terms.packageSize) : imageOf (callLog log) = got.drop 384 := by
  have streaming := serving.receivable.streaming
  have complete := streaming.complete serving.receivable.sized whole
  refine imageOf_eq_payload streaming.recorded.flash complete.1 extended kept.2.mirrors kept.1 finishing clean
    ?_
  have limit := streaming.recorded.stream.limit (by change 320 ≤ got.length; omega)
  have same : declared (sessionLog log) = (Stage.after got).limit := by
    rw [limit, declared, headerOf, (serving.finished extended).1, declared, headerOf, serving.stream]
  have length : (got.drop 384).length = (Stage.after got).limit := by
    rw [List.length_drop]
    omega
  rw [length, ← same]
  exact covered

/-- The published result is determined by the stream. -/
theorem Published.ready_eq {Kept : World -> List Event -> Prop} (published : Published platform Kept terms system)
    (stream : streamed (sessionLog system.log) = got) : system.session.ready = stagedFor terms got := by
  have verified := published.verified
  have payloadSize := verified.payloadSize
  have crc := verified.payloadCrc
  have digest := verified.sha256
  have metadata := verified.metadata
  rw [headerOf, stream] at payloadSize digest metadata
  rw [payloadOf, stream] at crc
  refine OTAStagedImageInfo.ext published.generation payloadSize crc.symm ?_ metadata
  rw [← Buffer.fill_self system.session.ready.sha256, digest]
  rfl

theorem FinishCause.completion_eq {parameters : SessionParameters} {log : List Event} {reason : OTAStagingError}
    (cause : FinishCause parameters log reason)
    (readBack : ReadBackWhole parameters log -> imageOf (callLog log) = payloadOf (sessionLog log)) :
    completion parameters (streamed (sessionLog log)) = .error reason := by
  cases cause with
  | incomplete finishing wrong => rw [completion, if_pos wrong]
  | hashMismatch finishing whole differs =>
      rw [completion, if_neg (not_not.mpr whole)]
      exact if_pos differs
  | readBackHash whole differs =>
      rw [readBack whole] at differs
      exact absurd whole.matched differs
  | readBackCrc whole differs =>
      rw [readBack whole] at differs
      exact absurd rfl differs
  | descriptor whole differs =>
      rw [readBack whole] at differs
      rw [completion, if_neg (not_not.mpr whole.whole)]
      refine (if_neg (not_not.mpr whole.matched)).trans ?_
      exact if_pos differs

/-- `OTAStagingFinish` reports the completion of everything received. -/
theorem Serving.finish (serving : Serving platform conduct decides initial terms got system) :
    (exists reached, perform platform (.finish true) system = (some .ok, reached) ∧
        completion terms.parameters got = .ok () ∧ reached.session.status.state = .ready ∧
        reached.session.ready = stagedFor terms got) ∨
      (exists reason reached, perform platform (.finish true) system = (some reason, reached) ∧
        completion terms.parameters got = .error reason ∧ reason.reported = true) := by
  rcases finish_cases true serving.law serving.receivable.callbacks serving.receivable serving.state
      (serving.entered _) with ⟨reached, ended, published, grown⟩ | ⟨reason, reached, ended, excused, grown⟩
  · rcases grown.extends with ⟨tail, extended⟩
    rcases serving.finished extended with ⟨stream, current⟩
    have verified := published.verified
    rcases verified.authorised with ⟨parameters, opened, authorised, whole⟩
    rw [Option.some_inj.mp (opened.symm.trans current), stream] at whole
    have image := serving.readBack extended published.sound.kept verified.finishing verified.clean
      verified.covered whole
    have payloadHash := verified.payloadHash
    have descriptor := verified.descriptor
    rw [payloadOf, headerOf, stream] at payloadHash
    rw [image, headerOf, stream] at descriptor
    refine .inl ⟨reached.record (.leave (some .ok)), ?_, ?_, published.state, published.ready_eq stream⟩
    · simp only [perform, dispatch, Request.call, ended]
      rfl
    · rw [completion, if_neg (not_not.mpr whole), if_neg (not_not.mpr payloadHash),
        if_neg (not_not.mpr descriptor)]
  · rcases grown.extends with ⟨tail, extended⟩
    rcases serving.finished extended with ⟨stream, _⟩
    refine .inr ⟨reason, (fail reason reached).2.record (.leave (some reason)), ?_, ?_, excused.cause.reported⟩
    · simp only [perform, dispatch, Request.call, ended]
      rfl
    rcases excused.cause.settle excused.sound.kept.2 with rejected | ⟨size, _, null⟩ | missing | long | late
    · rw [stream, serving.verdict_ok] at rejected
      cases rejected
    · rw [extended.last] at null
      cases null
    · rw [extended.last] at missing
      cases missing
    · rw [stream] at long
      exact absurd serving.receivable.bounded (Nat.not_le.mpr long)
    · rw [← stream]
      refine late.completion_eq (fun whole => ?_)
      have length := whole.whole
      rw [stream] at length
      rw [payloadOf, stream]
      exact serving.readBack extended excused.sound.kept whole.finishing whole.clean whole.covered length

/-! ## A whole session -/

/-- Everything recorded since the session was opened. -/
theorem sessionLog_opened (system : System World) (arguments : BeginArguments World) (world : World)
    (application ota : OTAStagingPartition) (result : Option OTAStagingError) :
    sessionLog ((system.opened arguments world application ota).record (.leave result)).log =
      [.state .receiving, .leave result] := by
  have log : ((system.opened arguments world application ota).record (.leave result)).log = system.log ++
      [.begun (arguments.fixes system.nextGeneration application ota).parameters] ++ [.state .receiving] ++
        [.leave result] := rfl
  rw [log, sessionLog_concat rfl, sessionLog_concat rfl]
  exact congrArg (· ++ [Event.state .receiving] ++ [Event.leave result]) (since_concat_marked rfl)

theorem callLog_opened (system : System World) (arguments : BeginArguments World) (world : World)
    (application ota : OTAStagingPartition) (result : Option OTAStagingError) (call : Call) :
    callLog (((system.record (.enter call)).opened arguments world application ota).record (.leave result)).log =
      [.begun (arguments.fixes system.nextGeneration application ota).parameters, .state .receiving,
        .leave result] := by
  have log : (((system.record (.enter call)).opened arguments world application ota).record
      (.leave result)).log = system.log ++ [.enter call] ++
        [.begun (arguments.fixes system.nextGeneration application ota).parameters] ++ [.state .receiving] ++
        [.leave result] := rfl
  rw [log, callLog_concat rfl, callLog_concat rfl, callLog_concat rfl, callLog_enter]
  rfl

/-- A session that has just been opened is orderly. -/
theorem conducted_opened (arguments : BeginArguments World) (world : World)
    (application ota : OTAStagingPartition) (result : Option OTAStagingError) (call : Call) :
    Conducted platform conduct decides (conduct.contents world)
      (arguments.fixes system.nextGeneration application ota).parameters world
      (((system.record (.enter call)).opened arguments world application ota).record (.leave result)).log := by
  have session := sessionLog_opened (system.record (.enter call)) arguments world application ota result
  have calls := callLog_opened system arguments world application ota result call
  refine ⟨?_, ?_, ?_, ?_, ?_, ?_, ?_⟩
  · intro _ offset data reached member
    rw [calls] at member
    simp only [List.mem_cons, List.not_mem_nil, or_false] at member
    rcases member with impossible | impossible | impossible <;> cases impossible
  · intro address byte found
    rw [session] at found
    exact absurd found.symm (Option.some_ne_none byte)
  · exact (latest_concat_none rfl).trans ((latest_concat_none rfl).trans (latest_concat_some rfl))
  · rw [session]
    exact always_concat.mpr ⟨always_concat.mpr ⟨always_nil _, True.intro⟩, True.intro⟩
  · rw [session]
    rfl
  · intro earlier started last
    rw [session] at last
    change [Event.state .receiving] ++ [Event.leave result] = _ at last
    have same := (List.append_inj' last rfl).2
    cases same
  · intro earlier started event last
    rw [session] at last
    change [] ++ [Event.state .receiving, Event.leave result] = _ at last
    have same := (List.append_inj' last rfl).2
    cases same

/-- A successful `OTAStagingBegin` on a steady platform. -/
theorem Serving.opened {arguments : BeginArguments World} {reached : System World}
    (steady : Steady platform conduct)
    (compliant : Compliant conduct decides arguments.admissionCallback arguments.cancellationCallback)
    (inv : Inv platform system)
    (begun : perform platform (.begin arguments) system = (some .ok, reached)) :
    exists application ota, Serving platform conduct decides (conduct.contents reached.world)
      (arguments.fixes system.nextGeneration application ota) [] reached := by
  rcases otaStagingBegin_cases platform arguments
      (system.record (.enter (.begin arguments.packageSize arguments.trustedPublicKeyDer))) with
    ⟨application, ota, world, ended, valid, sized, _, _, second⟩ | ⟨reason, world, ended, bad, _⟩
  · simp only [perform, dispatch, Request.call, ended] at begun
    cases begun
    refine ⟨application, ota, steady, compliant, steady.partition _ ota second, ?_, rfl⟩
    exact ⟨(readsMatch_callbacks compliant.toSparesFlash).and (orderly_callbacks compliant), sized, Nat.zero_le _,
      (inv.begun valid sized).streaming.relaw (conducted_opened arguments world application ota _ _)⟩
  · simp only [perform, dispatch, Request.call, ended] at begun
    cases begun
    rcases bad with impossible | impossible | impossible | impossible <;> cases impossible

/-- The system after a call that did nothing. -/
def System.refusing (system : System World) (call : Call) (reason : OTAStagingError) (world : World) :
    System World :=
  { system with world := world, log := system.log ++ [.enter call, .leave (some reason)] }

theorem perform_of_refused {request : Request World} {reason : OTAStagingError} {world : World}
    (ended : dispatch platform request (system.record (.enter request.call)) =
      (some reason, { system.record (.enter request.call) with world := world })) :
    perform platform request system = (some reason, system.refusing request.call reason world) := by
  simp only [perform, ended]
  simp only [System.refusing, System.record, List.append_assoc, List.cons_append, List.nil_append]

/-- Pass chunks to `OTAStagingWritePackage` one after the other. -/
def feed (platform : Platform World) : List Bytes -> System World -> List (Option OTAStagingError) × System World
  | [], system => ([], system)
  | chunk :: chunks, system =>
      let outcome := perform platform (.writePackage (.data chunk)) system
      let later := feed platform chunks outcome.2
      (outcome.1 :: later.1, later.2)

/-- The first result other than `OTA_OK`. -/
def firstFailure (results : List (Option OTAStagingError)) : Option (Option OTAStagingError) :=
  results.find? fun result => decide (result ≠ some .ok)

/-- A session that is over ignores further chunks. -/
theorem feed_of_not_receiving (chunks : List Bytes) (closed : system.session.status.state ≠ .receiving) :
    (feed platform chunks system).2.world = system.world := by
  induction chunks generalizing system with
  | nil => rfl
  | cons chunk chunks inductionHypothesis =>
      have refused : dispatch platform (.writePackage (.data chunk))
          (system.record (.enter (.writePackage (.data chunk)))) =
            (some .invalidState, system.record (.enter (.writePackage (.data chunk)))) := if_pos closed
      simp only [feed, perform_of_refused refused]
      exact inductionHypothesis closed

/-- Any sequence of chunks leads to the verdict on their concatenation. -/
theorem Serving.feed (serving : Serving platform conduct decides initial terms got system) (chunks : List Bytes)
    (bounded : (got ++ chunks.flatten).length ≤ terms.packageSize) :
    (firstFailure (feed platform chunks system).1 = none ∧
        Serving platform conduct decides initial terms (got ++ chunks.flatten) (feed platform chunks system).2) ∨
      (exists reason, firstFailure (feed platform chunks system).1 = some (some reason) ∧
        verdict platform.sizeMax conduct decides terms.parameters (got ++ chunks.flatten) = .error reason ∧
        conduct.contents (feed platform chunks system).2.world = initial) := by
  induction chunks generalizing system got with
  | nil =>
      refine .inl ⟨rfl, ?_⟩
      rw [List.flatten_nil, List.append_nil]
      exact serving
  | cons chunk chunks inductionHypothesis =>
      rw [List.flatten_cons, ← List.append_assoc] at bounded ⊢
      have prior : (got ++ chunk).length ≤ terms.packageSize := by
        rw [List.length_append] at bounded
        omega
      rcases serving.write chunk prior with
        ⟨reached, performed, served⟩ | ⟨reason, reached, performed, rejected, reported, closed, untouched⟩
      · simp only [Ota.feed, performed]
        rcases inductionHypothesis served bounded with ⟨fine, final⟩ | ⟨reason, failed, rejected, untouched⟩
        · exact .inl ⟨fine, final⟩
        · exact .inr ⟨reason, failed, rejected, untouched⟩
      · simp only [Ota.feed, performed]
        refine .inr ⟨reason, ?_, verdict_append _ rejected, ?_⟩
        · refine List.find?_cons_of_pos ?_
          rw [decide_eq_true_eq]
          rintro ⟨⟩
          exact absurd reported Bool.false_ne_true
        · rw [feed_of_not_receiving chunks closed]
          exact untouched

end Serving

end Ota
end DevKit

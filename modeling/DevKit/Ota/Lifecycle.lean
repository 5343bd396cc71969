import DevKit.Ota.Finishing

namespace DevKit
namespace Ota

/-!
# Runs of the staging engine

`Inv` holds between any two calls: a receiving session is at the stage after
the bytes it has received, a ready session presents a standing result, and the
two transient states are never seen.  Every call keeps it, so it holds after
every run, and with it the rule of every entry of the log.
-/

open Procedure

variable {World : Type} {platform : Platform World} {Kept : World -> List Event -> Prop}
  {terms : Terms World} {got : Bytes}

/-! ## The activation attempt -/

/-- An activation attempt with a standing result is under way. -/
def Exchanging (platform : Platform World) (info : OTAStagedImageInfo) (system : System World) : Prop :=
  Lawful platform system ∧ Activating info system.log

theorem Activating.append {info : OTAStagedImageInfo} {log : List Event} {event : Event}
    (activating : Activating info log) (step : event.bootStep = true) : Activating info (log ++ [event]) := by
  rcases activating with ⟨start, steps, split, presented, only⟩
  refine ⟨start, steps ++ [event], ?_, presented, fun other member => ?_⟩
  · rw [split, List.append_assoc, List.cons_append]
  · rcases List.mem_append.mp member with earlier | last
    · exact only other earlier
    · rw [List.mem_singleton.mp last]
      exact step

/-- How an activation attempt may be left early. -/
def Abandoned (platform : Platform World) (reason : OTAStagingError) (system : System World) : Prop :=
  Lawful platform system ∧ (reason = .activation ∨ reason = .activationUncertain)

theorem bootStep_triple {operation : World -> Answer × World} {event : Answer -> Event}
    {info : OTAStagedImageInfo} {exited : OTAStagingError -> System World -> Prop}
    (step : forall answer, (event answer).bootStep = true)
    (unpublished : forall answer, (event answer).publication = none)
    (rule : forall log answer, Activating info log -> Rule platform.sizeMax log (event answer)) :
    Triple (Exchanging platform info) (invoke operation event)
      (fun _ => Exchanging platform info) exited := by
  apply invoke_triple
  rintro system ⟨sound, activating⟩
  exact ⟨sound.record (rule _ _ activating) (unpublished _) True.intro, activating.append (step _)⟩

theorem bootTime_triple {info : OTAStagedImageInfo} {exited : OTAStagingError -> System World -> Prop} :
    Triple (Exchanging platform info) (timeMs platform) (fun _ => Exchanging platform info) exited :=
  bootStep_triple (fun _ => rfl) (fun _ => rfl) (fun _ _ _ => True.intro)

theorem bootElapsed_triple {info : OTAStagedImageInfo} {started limit : UInt32}
    {exited : OTAStagingError -> System World -> Prop} :
    Triple (Exchanging platform info) (elapsedExceeded platform started limit)
      (fun _ => Exchanging platform info) exited :=
  Triple.bind bootTime_triple (fun _ => Triple.pure (fun _ holds => holds))

theorem storeBootTable_triple {info : OTAStagedImageInfo} {table : OTAStagingBootTable}
    {exited : OTAStagingError -> System World -> Prop} :
    Triple (Exchanging platform info) (storeBootTable platform table)
      (fun _ => Exchanging platform info) exited := by
  refine Triple.bind bootTime_triple (fun started => ?_)
  refine Triple.bind (bootStep_triple (fun _ => rfl) (fun _ => rfl)
    (fun _ _ activating => ⟨info, activating⟩)) (fun _ => ?_)
  refine Triple.bind bootElapsed_triple (fun _ => ?_)
  refine Triple.bind bootTime_triple (fun _ => ?_)
  refine Triple.bind (bootStep_triple (fun _ => rfl) (fun _ => rfl)
    (fun _ _ _ => True.intro)) (fun _ => ?_)
  exact Triple.bind bootElapsed_triple (fun _ => Triple.pure (fun _ holds => holds))

theorem exchangeBootTable_triple (platform : Platform World) (info : OTAStagedImageInfo) :
    Triple (fun system => Lawful platform system ∧ Presented info system.log)
      (exchangeBootTable platform)
      (fun _ system => Lawful platform system ∧ system.session.status.state = .activated)
      (Abandoned platform) := by
  have entered : Triple (fun system => Lawful platform system ∧ Presented info system.log)
      (enterState .activating) (fun _ => Exchanging platform info) (Abandoned platform) := by
    apply Triple.update
    rintro system ⟨sound, presented⟩
    refine ⟨sound.enterState (Law.anything platform) ⟨info, presented⟩, system.log, [], rfl, presented, ?_⟩
    intro event impossible
    exact absurd impossible List.not_mem_nil
  have consumed : Triple (Exchanging platform info)
      (updateSession fun session => { session with
        ready := { session.ready with sessionGeneration := 0 } })
      (fun _ => Exchanging platform info) (Abandoned platform) := by
    apply updateSession_triple
    rintro system ⟨sound, activating⟩
    exact ⟨sound.withSession _, activating⟩
  refine entered.bind (fun _ => consumed.bind (fun _ => ?_))
  refine Triple.bind bootTime_triple (fun started => ?_)
  refine Triple.bind (bootStep_triple (fun _ => rfl) (fun _ => rfl)
    (fun _ _ _ => True.intro)) (fun previous => ?_)
  apply Triple.guard
  · rintro _ system ⟨sound, _⟩
    exact ⟨sound, .inl rfl⟩
  intro _
  have inTime : Triple (Exchanging platform info) (enforceLimit platform started 15000 .activation)
      (fun _ => Exchanging platform info) (Abandoned platform) := by
    refine Triple.bind bootElapsed_triple (fun late => Triple.reject ?_ ?_)
    · rintro _ system ⟨sound, _⟩
      exact ⟨sound, .inl rfl⟩
    · exact fun _ _ holds => holds
  refine inTime.bind (fun _ => ?_)
  apply currentSession_triple
  intro current exchanging
  refine Triple.bind (storeBootTable_triple.start exchanging) (fun verified => ?_)
  apply Triple.ite
  · intro _
    have activated : Triple (Exchanging platform info) (enterState .activated)
        (fun _ system => Lawful platform system ∧ system.session.status.state = .activated)
        (Abandoned platform) := by
      apply Triple.update
      rintro system ⟨sound, _⟩
      exact ⟨sound.enterState (Law.anything platform) True.intro, rfl⟩
    refine activated.bind (fun _ => updateSession_triple ?_)
    rintro system ⟨sound, state⟩
    exact ⟨sound.withSession _, state⟩
  · intro _
    refine Triple.bind storeBootTable_triple (fun restored => Triple.exit ?_)
    rintro system ⟨sound, _⟩
    refine ⟨sound, ?_⟩
    cases restored with
    | true => exact .inl rfl
    | false => exact .inr rfl

/-! ## Between calls -/

/-- A session that is receiving under some terms. -/
structure Receivable (platform : Platform World) (Kept : World -> List Event -> Prop) (terms : Terms World)
    (got : Bytes) (system : System World) : Prop where
  callbacks : CallbacksKeep Kept terms.admission terms.cancellation
  sized : 384 < terms.packageSize
  bounded : got.length ≤ terms.packageSize
  streaming : Streaming platform Kept terms false (Stage.after got) [] system

/-- What holds between any two calls. -/
structure Inv (platform : Platform World) (system : System World) : Prop where
  sound : Lawful platform system
  receiving : system.session.status.state = .receiving ->
    exists terms got, Receivable platform (Anything World) terms got system
  ready : system.session.status.state = .ready -> Standing system.session.ready system.log ∧
    system.session.ready.sessionGeneration ≠ 0 ∧
    system.session.payloadSize = system.session.ready.payloadSize
  settled : system.session.status.state ≠ .verifying ∧ system.session.status.state ≠ .activating

/-- States in which a session is over or has not begun. -/
def OTAStagingState.inert : OTAStagingState -> Bool
  | .idle | .failed | .cancelled | .activated => true
  | _ => false

theorem Inv.of_inert {system : System World} (sound : Lawful platform system)
    (inert : system.session.status.state.inert = true) : Inv platform system where
  sound := sound
  receiving := by
    intro impossible
    rw [impossible] at inert
    exact absurd inert Bool.false_ne_true
  ready := by
    intro impossible
    rw [impossible] at inert
    exact absurd inert Bool.false_ne_true
  settled := by
    constructor
    · intro impossible
      rw [impossible] at inert
      exact absurd inert Bool.false_ne_true
    · intro impossible
      rw [impossible] at inert
      exact absurd inert Bool.false_ne_true

theorem Standing.append {info : OTAStagedImageInfo} {log : List Event} {event : Event}
    (standing : Standing info log) (harmless : ¬ Revokes info event) : Standing info (log ++ [event]) := by
  rcases standing with ⟨earlier, later, split, unrevoked⟩
  refine ⟨earlier, later ++ [event], ?_, fun other member => ?_⟩
  · rw [split, List.append_assoc, List.cons_append]
  · rcases List.mem_append.mp member with old | last
    · exact unrevoked other old
    · rw [List.mem_singleton.mp last]
      exact harmless

theorem leave_harmless (info : OTAStagedImageInfo) (result : Option OTAStagingError) :
    ¬ Revokes info (.leave result) := by
  rintro (impossible | impossible | impossible | impossible)
  · cases impossible
  · exact impossible rfl
  · exact impossible rfl
  · cases impossible

theorem enter_harmless {info : OTAStagedImageInfo} {call : Call} (other : .enter call ≠ activation info) :
    ¬ Revokes info (.enter call) := by
  rintro (impossible | impossible | impossible | impossible)
  · cases impossible
  · exact impossible rfl
  · exact impossible rfl
  · exact other impossible

/-- The entry of a call.  Only `OTAStagingFinish` may start verifying, and only
on a session that has not been aborted. -/
theorem Streaming.enter {system : System World} {finishing : Bool}
    (streaming : Streaming platform Kept terms false (Stage.after got) [] system) (call : Call)
    (kept : Kept system.world (system.log ++ [.enter call]))
    (finish : finishing = true -> system.session.status.state = .receiving ∧
      exists given, call = .finish given) :
    Streaming platform Kept terms finishing (Stage.after got) (Event.enter call).chunk
      (system.record (.enter call)) := by
  have session : sessionLog (system.log ++ [.enter call]) = sessionLog system.log ++ [.enter call] :=
    sessionLog_concat rfl
  have recorded := streaming.recorded
  rcases streaming.held with ⟨state, error, same, alive⟩
  refine ⟨streaming.sound.record True.intro rfl kept, ⟨state, error, same, fun _ => ?_⟩,
    ⟨⟨?_, ?_, ?_, ?_, ?_⟩, recorded.flash.step rfl rfl, ⟨?_, ?_, fun _ _ _ _ member => ?_⟩⟩, ?_,
    fun running => ?_, streaming.numbered⟩
  · rcases alive rfl with receiving | ⟨stopped, reported, interrupted⟩
    · exact .inl receiving
    · refine .inr ⟨stopped, reported, ?_⟩
      rw [System.record_log, session]
      exact interrupted.append _
  · exact (latest_concat_none rfl).trans recorded.stream.opened
  · rw [System.record_log, session, streamed_concat, recorded.stream.stream, List.append_nil]
  · intro verified
    rw [System.record_log, session]
    exact (recorded.stream.signed verified).append _
  · intro authenticated
    rw [System.record_log, session]
    exact (recorded.stream.authenticated authenticated).append _
  · intro checked
    rw [System.record_log, session]
    exact (recorded.stream.authorised checked).append _
  · rw [System.record_log, callLog_enter]
    rfl
  · rw [System.record_log, callLog_enter]
    rfl
  · rw [System.record_log, callLog_enter] at member
    exact absurd member List.not_mem_nil
  · rcases streaming.heeded with ⟨_, stopped⟩ | ignored
    · cases mode : finishing with
      | false => exact .inl ⟨rfl, stopped⟩
      | true => exact absurd ((finish mode).1.symm.trans stopped) OTAStagingState.noConfusion
    · right
      rw [System.record_log, session]
      exact ignored.concat Event.noConfusion
  · rcases (finish running).2 with ⟨given, rfl⟩
    refine ⟨⟨given, latest_concat_some rfl⟩, fun event member => ?_⟩
    rw [System.record_log, callLog_enter] at member
    exact absurd member List.not_mem_nil

/-! ## Beginning -/

/-- The terms that a successful `OTAStagingBegin` fixes. -/
def BeginArguments.fixes (arguments : BeginArguments World) (generation : UInt32)
    (application ota : OTAStagingPartition) : Terms World where
  generation := generation
  packageSize := arguments.packageSize
  publicKey := Buffer.fill 91 (arguments.trustedPublicKeyDer.getD [])
  application := application
  ota := ota
  admission := arguments.admissionCallback
  cancellation := arguments.cancellationCallback

theorem openSession_eq (arguments : BeginArguments World) (generation : UInt32)
    (application ota : OTAStagingPartition) :
    openSession arguments (arguments.trustedPublicKeyDer.getD []) application ota =
      sessionAt (arguments.fixes generation application ota) (Stage.after []) .receiving .ok := by
  rw [Stage.after_of_short (by decide)]
  simp only [openSession, Session.zero, sessionAt, Stage.header, List.length_nil]
  rw [Buffer.window_of_length_le 0 [] (Nat.le_refl 0), Buffer.window_of_length_le 320 [] (Nat.zero_le _),
    Buffer.window_of_length_le 384 [] (Nat.zero_le _), sha256Update_nil]
  rfl

/-- The system after the last assignments of a successful `OTAStagingBegin`. -/
def System.opened (system : System World) (arguments : BeginArguments World) (world : World)
    (application ota : OTAStagingPartition) : System World :=
  (({ system with world := world }.withSession
    (openSession arguments (arguments.trustedPublicKeyDer.getD []) application ota)).record
      (.begun (arguments.fixes system.nextGeneration application ota).parameters)).record (.state .receiving)

/-- `OTAStagingBegin` either opens a session or leaves the session alone. -/
theorem otaStagingBegin_cases (platform : Platform World) (arguments : BeginArguments World)
    (system : System World) :
    (exists application ota world, otaStagingBegin platform arguments system =
        (.ok, system.opened arguments world application ota) ∧
        validPublicKey arguments.trustedPublicKeyDer = true ∧ 384 < arguments.packageSize ∧
        system.session.status.state ≠ .receiving ∧
        (platform.getApplicationPartition system.world).1 = some application ∧
        (platform.getOtaPartition (platform.getApplicationPartition system.world).2).1 = some ota) ∨
      (exists reason world, otaStagingBegin platform arguments system =
        (reason, { system with world := world }) ∧
        (reason = .busy ∨ reason = .keyFormat ∨ reason = .packageSize ∨ reason = .partition) ∧
        (world = system.world ∨ system.session.status.state ≠ .receiving)) := by
  rw [otaStagingBegin]
  split
  · exact .inr ⟨.busy, system.world, rfl, .inl rfl, .inl rfl⟩
  rename_i idle
  rw [not_or] at idle
  split
  · exact .inr ⟨.keyFormat, system.world, rfl, .inr (.inl rfl), .inl rfl⟩
  rename_i valid
  split
  · exact .inr ⟨.packageSize, system.world, rfl, .inr (.inr (.inl rfl)), .inl rfl⟩
  rename_i sized
  split
  · exact .inr ⟨.partition, system.world, rfl, .inr (.inr (.inr rfl)), .inl rfl⟩
  cases first : (platform.getApplicationPartition system.world).1 with
  | none =>
      refine .inr ⟨.partition, (platform.getApplicationPartition system.world).2, ?_, .inr (.inr (.inr rfl)),
        .inr idle.1⟩
      simp only [first]
  | some application =>
      simp only [first]
      cases second : (platform.getOtaPartition (platform.getApplicationPartition system.world).2).1 with
      | none =>
          refine .inr ⟨.partition, (platform.getOtaPartition (platform.getApplicationPartition system.world).2).2,
            ?_, .inr (.inr (.inr rfl)), .inr idle.1⟩
          rfl
      | some ota =>
          simp only
          split
          · exact .inr ⟨.partition, (platform.getOtaPartition (platform.getApplicationPartition system.world).2).2,
              rfl, .inr (.inr (.inr rfl)), .inr idle.1⟩
          · exact .inl ⟨application, ota, _, rfl, Bool.of_not_eq_false valid, by omega, idle.1, rfl, rfl⟩

/-- An accepted key fills its buffer. -/
theorem validPublicKey_bytes {key : Option Bytes} (valid : validPublicKey key = true) :
    key = some (Buffer.fill 91 (key.getD [])).bytes := by
  cases key with
  | none => cases valid
  | some bytes =>
      have exact := (of_decide_eq_true valid).1
      rw [Option.getD_some, Buffer.fill_bytes_of_length bytes exact]

theorem Receivable.opened {system : System World} {arguments : BeginArguments World} {world : World}
    {application ota : OTAStagingPartition} (sound : Lawful platform system)
    (valid : validPublicKey arguments.trustedPublicKeyDer = true) (sized : 384 < arguments.packageSize)
    {earlier : List Event}
    (entered : system.log =
      earlier ++ [.enter (.begin arguments.packageSize arguments.trustedPublicKeyDer)]) :
    Receivable platform (Anything World) (arguments.fixes system.nextGeneration application ota) []
      (system.opened arguments world application ota) := by
  have moved : Lawful platform { system with world := world } := ⟨sound.lawful, sound.counter, True.intro⟩
  have rule : validPublicKey (some (arguments.fixes system.nextGeneration application ota).publicKey.bytes) =
        true ∧ system.log = earlier ++ [.enter (.begin arguments.packageSize
          (some (arguments.fixes system.nextGeneration application ota).publicKey.bytes))] := by
    have key : arguments.trustedPublicKeyDer =
        some (arguments.fixes system.nextGeneration application ota).publicKey.bytes := validPublicKey_bytes valid
    rw [← key]
    exact ⟨valid, entered⟩
  have begun : Lawful platform (({ system with world := world }.withSession
      (openSession arguments (arguments.trustedPublicKeyDer.getD []) application ota)).record
        (.begun (arguments.fixes system.nextGeneration application ota).parameters)) :=
    (moved.withSession _).record ⟨rule.1, earlier, rule.2⟩ rfl True.intro
  have fresh : callLog system.log = [] := by
    rw [entered]
    exact callLog_enter _ _
  have log : (system.opened arguments world application ota).log = system.log ++
      [.begun (arguments.fixes system.nextGeneration application ota).parameters] ++ [.state .receiving] := rfl
  have session : sessionLog (system.opened arguments world application ota).log = [.state .receiving] := by
    rw [log, sessionLog_concat rfl]
    exact congrArg (· ++ [Event.state .receiving]) (since_concat_marked rfl)
  have call : callLog (system.opened arguments world application ota).log =
      [.begun (arguments.fixes system.nextGeneration application ota).parameters, .state .receiving] := by
    rw [log, callLog_concat rfl, callLog_concat rfl, fresh]
    rfl
  have short : Stage.after [] = ⟨[], 0, false, false, false, false, 0, false, [], [], [], 0⟩ :=
    Stage.after_of_short (by decide)
  refine ⟨.anything _ _, sized, Nat.zero_le _, begun.internal (Law.anything platform) rfl True.intro rfl,
    ⟨.receiving, .ok, openSession_eq arguments system.nextGeneration application ota, fun _ => .inl ⟨rfl, rfl⟩⟩,
    ?_, .inr ?_, fun impossible => ?_, rfl⟩
  · rw [short]
    refine ⟨⟨?_, ?_, ?_, ?_, ?_⟩, ⟨?_, ?_, ?_, ?_, ?_⟩, ⟨?_, ?_, fun _ _ _ _ member => ?_⟩⟩
    · rw [log]
      exact (latest_concat_none rfl).trans (latest_concat_some rfl)
    · rw [session]
      rfl
    · exact fun impossible => absurd impossible Bool.false_ne_true
    · exact fun impossible => absurd impossible Bool.false_ne_true
    · exact fun impossible => absurd impossible Bool.false_ne_true
    · rw [session]
      exact fun _ => rfl
    · rw [session]
      rfl
    · exact fun impossible => absurd impossible Bool.false_ne_true
    · rw [session]
      rfl
    · intro Cell effect initial
      rw [session, List.map_nil, overlay_nil]
      rfl
    · rw [call]
      rfl
    · rw [call]
      rfl
    · rw [call, List.mem_cons, List.mem_singleton] at member
      rcases member with impossible | impossible
      · cases impossible
      · cases impossible
  · rw [session]
    exact always_concat.mpr ⟨always_nil _, Event.noConfusion⟩
  · exact absurd impossible Bool.false_ne_true

/-! ## Outcomes of the other calls -/

theorem Sound.fail {reason : OTAStagingError} {system : System World} (sound : Sound platform Kept system)
    (law : Law platform Kept) : Sound platform Kept (fail reason system).2 := by
  refine (sound.withSession _).enterState law ?_
  split
  · exact True.intro
  · exact True.intro

theorem fail_inert (reason : OTAStagingError) (system : System World) :
    (fail reason system).2.session.status.state.inert = true := by
  change (if reason = .cancelled then OTAStagingState.cancelled else OTAStagingState.failed).inert = true
  split
  · rfl
  · rfl

/-- The predicate of a law, and that the log has grown inside a call. -/
def Within (Kept : World -> List Event -> Prop) (base : List Event) (world : World) (log : List Event) : Prop :=
  Kept world log ∧ Grown base log

theorem Law.within (law : Law platform Kept) (base : List Event) : Law platform (Within Kept base) :=
  law.and (Law.of_log platform Grown.concat)

theorem CallbacksKeep.within {admission : Option (OTAAdmissionCallback World)}
    {cancellation : Option (OTACancellationCallback World)}
    (callbacks : CallbacksKeep Kept admission cancellation) (base : List Event) :
    CallbacksKeep (Within Kept base) admission cancellation :=
  callbacks.and (CallbacksKeep.of_log admission cancellation Grown.concat)

/-- `OTAStagingWritePackage` takes the whole chunk or fails with a cause; it
always returns. -/
theorem writePackage_cases {Any : World -> List Event -> Prop} {system : System World} (chunk : PackageChunk)
    (law : Law platform Kept) (callbacks : CallbacksKeep Kept terms.admission terms.cancellation)
    (receivable : Receivable platform Any terms got system)
    (state : system.session.status.state = .receiving)
    (kept : Kept system.world (system.log ++ [.enter (.writePackage chunk)])) :
    (exists reached, otaStagingWritePackage platform chunk (system.record (.enter (.writePackage chunk))) =
        (some .ok, reached) ∧ (got ++ chunk.bytes).length ≤ terms.packageSize ∧
        Streaming platform Kept terms false (Stage.after (got ++ chunk.bytes)) [] reached ∧
        Grown (system.log ++ [.enter (.writePackage chunk)]) reached.log) ∨
      (exists reason reached, otaStagingWritePackage platform chunk
        (system.record (.enter (.writePackage chunk))) = (some reason, (fail reason reached).2) ∧
        Excused platform Kept terms reason reached ∧
        Grown (system.log ++ [.enter (.writePackage chunk)]) reached.log) := by
  have streaming : Streaming platform (fun _ _ => True) terms false (Stage.after got) chunk.bytes
      (system.record (.enter (.writePackage chunk))) :=
    (receivable.streaming.relaw True.intro).enter (.writePackage chunk) True.intro
      (fun impossible => absurd impossible Bool.false_ne_true)
  have entered : Streaming platform (Within Kept (system.log ++ [.enter (.writePackage chunk)])) terms false
        (Stage.after got) chunk.bytes (system.record (.enter (.writePackage chunk))) ∧
      lastCall (system.record (.enter (.writePackage chunk))).log = some (.writePackage chunk) :=
    ⟨streaming.relaw ⟨kept, Grown.refl _⟩, latest_concat_some rfl⟩
  have triple := receiveChunk_triple chunk (law.within (system.log ++ [.enter (.writePackage chunk)]))
    (callbacks.within _) receivable.bounded
  have live : ¬ (system.record (.enter (.writePackage chunk))).session.status.state ≠ .receiving :=
    not_not.mpr state
  rw [otaStagingWritePackage, if_neg live]
  cases ended : receiveChunk platform chunk (system.record (.enter (.writePackage chunk))) with
  | mk outcome reached =>
      cases outcome with
      | ok finished =>
          have received := triple.value entered ended
          rcases received with ⟨rfl, bounded, streaming⟩
          exact .inl ⟨reached, rfl, bounded, streaming.relaw streaming.sound.kept.1, streaming.sound.kept.2⟩
      | error reason =>
          have excused := triple.early entered ended
          exact .inr ⟨reason, reached, rfl, ⟨excused.sound.relaw excused.sound.kept.1, excused.cause⟩,
            excused.sound.kept.2⟩

/-- `OTAStagingFinish` publishes a result or fails with a cause. -/
theorem finish_cases {Any : World -> List Event -> Prop} {system : System World} (given : Bool)
    (law : Law platform Kept) (callbacks : CallbacksKeep Kept terms.admission terms.cancellation)
    (receivable : Receivable platform Any terms got system)
    (state : system.session.status.state = .receiving)
    (kept : Kept system.world (system.log ++ [.enter (.finish given)])) :
    (exists reached, otaStagingFinish platform given (system.record (.enter (.finish given))) =
        (.ok, reached) ∧ Published platform Kept terms reached ∧
        Grown (system.log ++ [.enter (.finish given)]) reached.log) ∨
      (exists reason reached, otaStagingFinish platform given (system.record (.enter (.finish given))) =
        (reason, (fail reason reached).2) ∧ Excused platform Kept terms reason reached ∧
        Grown (system.log ++ [.enter (.finish given)]) reached.log) := by
  have streaming : Streaming platform (fun _ _ => True) terms true (Stage.after got) []
      (system.record (.enter (.finish given))) :=
    (receivable.streaming.relaw True.intro).enter (.finish given) True.intro (fun _ => ⟨state, given, rfl⟩)
  have entered : Streaming platform (Within Kept (system.log ++ [.enter (.finish given)])) terms true
        (Stage.after got) [] (system.record (.enter (.finish given))) ∧
      lastCall (system.record (.enter (.finish given))).log = some (.finish given) :=
    ⟨streaming.relaw ⟨kept, Grown.refl _⟩, latest_concat_some rfl⟩
  have triple := verifyStaged_triple given got (law.within (system.log ++ [.enter (.finish given)]))
    (callbacks.within _) receivable.sized
  have live : ¬ (system.record (.enter (.finish given))).session.status.state ≠ .receiving :=
    not_not.mpr state
  rw [otaStagingFinish, if_neg live]
  cases ended : verifyStaged platform given (system.record (.enter (.finish given))) with
  | mk outcome reached =>
      cases outcome with
      | ok finished =>
          have published := triple.value entered ended
          exact .inl ⟨reached, rfl, { published with sound := published.sound.relaw published.sound.kept.1 },
            published.sound.kept.2⟩
      | error reason =>
          have excused := triple.early entered ended
          exact .inr ⟨reason, reached, rfl, ⟨excused.sound.relaw excused.sound.kept.1, excused.cause⟩,
            excused.sound.kept.2⟩

/-- The argument check of `OTAStagingActivate`. -/
def Matches (session : Session World) (sessionGeneration : UInt32) (expectedSha256 : Option (Buffer 32)) :
    Prop :=
  sessionGeneration ≠ 0 ∧ sessionGeneration = session.ready.sessionGeneration ∧
    expectedSha256 = some session.ready.sha256

theorem matches_iff (session : Session World) (sessionGeneration : UInt32)
    (expectedSha256 : Option (Buffer 32)) :
    ¬ (expectedSha256 = none ∨ sessionGeneration = 0 ∨ sessionGeneration ≠ session.ready.sessionGeneration ∨
      expectedSha256 ≠ some session.ready.sha256) <-> Matches session sessionGeneration expectedSha256 := by
  rw [not_or, not_or, not_or, not_not, not_not, Matches]
  constructor
  · rintro ⟨_, nonzero, generation, digest⟩
    exact ⟨nonzero, generation, digest⟩
  · rintro ⟨nonzero, generation, digest⟩
    refine ⟨?_, nonzero, generation, digest⟩
    rw [digest]
    exact Option.some_ne_none _

/-- `OTAStagingActivate` refuses, or it is an attempt that ends the session. -/
theorem activate_cases {system : System World} (sessionGeneration : UInt32)
    (expectedSha256 : Option (Buffer 32)) (inv : Inv platform system) :
    (exists reason, otaStagingActivate platform sessionGeneration expectedSha256
        (system.record (.enter (.activate sessionGeneration expectedSha256))) =
          (reason, system.record (.enter (.activate sessionGeneration expectedSha256))) ∧
        (system.session.status.state ≠ .ready ∧ reason = .invalidState ∨
          ¬ Matches system.session sessionGeneration expectedSha256 ∧ reason = .invalidArgument)) ∨
      (exists reason reached, otaStagingActivate platform sessionGeneration expectedSha256
        (system.record (.enter (.activate sessionGeneration expectedSha256))) = (reason, reached) ∧
        (reason = .ok ∨ reason = .activation ∨ reason = .activationUncertain) ∧
        Lawful platform reached ∧ reached.session.status.state.inert = true) := by
  rw [otaStagingActivate]
  split
  · rename_i inactive
    exact .inl ⟨_, rfl, .inl ⟨inactive, rfl⟩⟩
  rename_i active
  split
  · rename_i refused
    refine .inl ⟨_, rfl, .inr ⟨fun accepted => ?_, rfl⟩⟩
    exact (matches_iff system.session sessionGeneration expectedSha256).mpr accepted refused
  rename_i accepted
  have state : system.session.status.state = .ready := not_not.mp active
  rcases (matches_iff system.session sessionGeneration expectedSha256).mp accepted with
    ⟨nonzero, generation, digest⟩
  subst generation digest
  have entered : Lawful platform (system.record (activation system.session.ready)) ∧
      Presented system.session.ready (system.record (activation system.session.ready)).log :=
    ⟨inv.sound.record True.intro rfl True.intro, nonzero, system.log, rfl, (inv.ready state).1⟩
  have triple := exchangeBootTable_triple platform system.session.ready
  right
  cases ended : exchangeBootTable platform (system.record (activation system.session.ready)) with
  | mk outcome reached =>
      cases outcome with
      | ok finished =>
          have activated := triple.value entered ended
          refine ⟨.ok, reached, ?_, .inl rfl, activated.1, ?_⟩
          · rw [activation] at ended
            rw [ended]
          · rw [activated.2]
            rfl
      | error reason =>
          have abandoned := triple.early entered ended
          refine ⟨reason, (fail reason reached).2, ?_, .inr abandoned.2, abandoned.1.fail (Law.anything platform),
            fail_inert reason reached⟩
          rw [activation] at ended
          rw [ended]
          rfl

/-! ## Every call keeps the invariant -/

theorem Streaming.leave {system : System World} {finishing : Bool} {stage : Stage} {rest : Bytes}
    (streaming : Streaming platform Kept terms finishing stage rest system) (law : Law platform Kept)
    (result : Option OTAStagingError) :
    Streaming platform Kept terms finishing stage rest (system.record (.leave result)) :=
  streaming.record rfl Event.noConfusion True.intro (law.internal _ _ _ rfl streaming.sound.kept)

theorem Inv.entered {system : System World} (inv : Inv platform system) (call : Call) :
    Lawful platform (system.record (.enter call)) :=
  inv.sound.record True.intro rfl True.intro

/-- A call that leaves the session alone keeps the invariant. -/
theorem Inv.refuse {system : System World} {world : World} (inv : Inv platform system) (call : Call)
    (result : Option OTAStagingError)
    (silent : system.session.status.state = .receiving ->
      (Event.enter call).chunk = [] ∧ world = system.world)
    (unspent : system.session.status.state = .ready -> .enter call ≠ activation system.session.ready) :
    Inv platform ({ system.record (.enter call) with world := world }.record (.leave result)) := by
  have entered := inv.entered call
  have moved : Lawful platform { system.record (.enter call) with world := world } :=
    ⟨entered.lawful, entered.counter, True.intro⟩
  refine ⟨moved.internal (Law.anything platform) rfl True.intro rfl, fun state => ?_, fun state => ?_, inv.settled⟩
  · rcases inv.receiving state with ⟨terms, got, receivable⟩
    refine ⟨terms, got, receivable.callbacks, receivable.sized, receivable.bounded, ?_⟩
    rcases silent state with ⟨empty, rfl⟩
    have streaming : Streaming platform (Anything World) terms false (Stage.after got) (Event.enter call).chunk
        (system.record (.enter call)) :=
      receivable.streaming.enter call True.intro (fun impossible => absurd impossible Bool.false_ne_true)
    rw [empty] at streaming
    exact streaming.leave (Law.anything platform) result
  · have ready := inv.ready state
    exact ⟨(ready.1.append (enter_harmless (unspent state))).append (leave_harmless _ _), ready.2⟩

theorem Inv.leave_inert {system : System World} (sound : Lawful platform system)
    (inert : system.session.status.state.inert = true) (result : Option OTAStagingError) :
    Inv platform (system.record (.leave result)) :=
  Inv.of_inert (sound.internal (Law.anything platform) rfl True.intro rfl) inert

theorem Receivable.inv {system : System World}
    (receivable : Receivable platform (Anything World) terms got system) : Inv platform system := by
  rcases receivable.streaming.held with ⟨state, error, same, alive⟩
  have current : system.session.status.state = state := by
    rw [same]
    rfl
  rcases alive rfl with ⟨receiving, _⟩ | ⟨cancelled, _⟩
  · rw [receiving] at current
    refine ⟨receivable.streaming.sound, fun _ => ⟨terms, got, receivable⟩, fun impossible => ?_, ?_⟩
    · rw [current] at impossible
      cases impossible
    · rw [current]
      exact ⟨OTAStagingState.noConfusion, OTAStagingState.noConfusion⟩
  · apply Inv.of_inert receivable.streaming.sound
    rw [current, cancelled]
    rfl

/-- The session that `OTAStagingBegin` leaves open. -/
theorem Inv.begun {system : System World} {arguments : BeginArguments World} {world : World}
    {application ota : OTAStagingPartition} (inv : Inv platform system)
    (valid : validPublicKey arguments.trustedPublicKeyDer = true) (sized : 384 < arguments.packageSize) :
    Receivable platform (Anything World) (arguments.fixes system.nextGeneration application ota) []
      (((system.record (.enter (.begin arguments.packageSize arguments.trustedPublicKeyDer))).opened arguments world
        application ota).record (.leave (some .ok))) :=
  ⟨CallbacksKeep.anything _ _, sized, Nat.zero_le _,
    (Receivable.opened (inv.entered _) valid sized rfl).streaming.leave (Law.anything platform) _⟩

theorem perform_begin_inv {system : System World} {arguments : BeginArguments World}
    (inv : Inv platform system) : Inv platform (perform platform (.begin arguments) system).2 := by
  rcases otaStagingBegin_cases platform arguments
      (system.record (.enter (.begin arguments.packageSize arguments.trustedPublicKeyDer))) with
    ⟨application, ota, world, ended, valid, sized, _⟩ | ⟨reason, world, ended, _, moved⟩
  · simp only [perform, dispatch, Request.call, ended]
    exact (inv.begun valid sized).inv
  · simp only [perform, dispatch, Request.call, ended]
    refine inv.refuse (.begin arguments.packageSize arguments.trustedPublicKeyDer) (some reason)
      (fun state => ⟨rfl, ?_⟩) (fun _ => ?_)
    · exact moved.resolve_right (not_not.mpr state)
    · intro impossible
      cases impossible

theorem perform_writePackage_inv {system : System World} {chunk : PackageChunk} (inv : Inv platform system) :
    Inv platform (perform platform (.writePackage chunk) system).2 := by
  have law := Law.anything platform
  by_cases state : system.session.status.state = .receiving
  · rcases inv.receiving state with ⟨terms, got, receivable⟩
    rcases writePackage_cases chunk law receivable.callbacks receivable state True.intro with
      ⟨reached, ended, bounded, streaming, _⟩ | ⟨reason, reached, ended, excused, _⟩
    · simp only [perform, dispatch, Request.call, ended]
      exact Receivable.inv ⟨receivable.callbacks, receivable.sized, bounded, streaming.leave law _⟩
    · simp only [perform, dispatch, Request.call, ended]
      exact Inv.leave_inert (excused.sound.fail law) (fail_inert reason reached) _
  · have ended : otaStagingWritePackage platform chunk (system.record (.enter (.writePackage chunk))) =
        (some .invalidState, system.record (.enter (.writePackage chunk))) := if_pos state
    simp only [perform, dispatch, Request.call, ended]
    refine inv.refuse (.writePackage chunk) (some .invalidState) (fun receiving => absurd receiving state)
      (fun _ impossible => ?_)
    cases impossible

/-- A published result stands until something revokes it. -/
theorem Published.inv {system : System World} (published : Published platform (Anything World) terms system)
    (result : Option OTAStagingError) : Inv platform (system.record (.leave result)) := by
  have sound : Lawful platform (system.record (.leave result)) :=
    published.sound.internal (Law.anything platform) rfl True.intro rfl
  rcases published.logged with ⟨earlier, log, verified⟩
  have standing : Standing system.session.ready system.log := by
    refine ⟨earlier, [.state .ready], ?_, fun event member => ?_⟩
    · rw [log, List.append_assoc]
      rfl
    · rw [List.mem_singleton.mp member]
      rintro (impossible | impossible | impossible | impossible)
      · cases impossible
      · exact impossible rfl
      · exact impossible rfl
      · cases impossible
  have numbered : system.session.ready.sessionGeneration ≠ 0 := by
    have rule := published.sound.lawful earlier (.published system.session.ready) [.state .ready]
      (by rw [log, List.append_assoc]; rfl)
    intro zero
    have positive := rule.1
    rw [zero] at positive
    exact absurd positive (Nat.succ_ne_zero _).symm
  refine ⟨sound, fun impossible => ?_, fun _ => ?_, ?_⟩
  · exact absurd (published.state.symm.trans impossible) OTAStagingState.noConfusion
  · exact ⟨standing.append (leave_harmless _ _), numbered, published.payloadSize⟩
  · rw [System.record_session, published.state]
    exact ⟨OTAStagingState.noConfusion, OTAStagingState.noConfusion⟩

theorem perform_finish_inv {system : System World} {given : Bool} (inv : Inv platform system) :
    Inv platform (perform platform (.finish given) system).2 := by
  have law := Law.anything platform
  by_cases state : system.session.status.state = .receiving
  · rcases inv.receiving state with ⟨terms, got, receivable⟩
    rcases finish_cases given law receivable.callbacks receivable state True.intro with
      ⟨reached, ended, published, _⟩ | ⟨reason, reached, ended, excused, _⟩
    · simp only [perform, dispatch, Request.call, ended]
      exact published.inv _
    · simp only [perform, dispatch, Request.call, ended]
      exact Inv.leave_inert (excused.sound.fail law) (fail_inert reason reached) _
  · have ended : otaStagingFinish platform given (system.record (.enter (.finish given))) =
        (.invalidState, system.record (.enter (.finish given))) := if_pos state
    simp only [perform, dispatch, Request.call, ended]
    refine inv.refuse (.finish given) (some .invalidState) (fun receiving => absurd receiving state)
      (fun _ impossible => ?_)
    cases impossible

theorem perform_activate_inv {system : System World} {sessionGeneration : UInt32}
    {expectedSha256 : Option (Buffer 32)} (inv : Inv platform system) :
    Inv platform (perform platform (.activate sessionGeneration expectedSha256) system).2 := by
  rcases activate_cases sessionGeneration expectedSha256 inv with
    ⟨reason, ended, refused⟩ | ⟨reason, reached, ended, _, sound, inert⟩
  · simp only [perform, dispatch, Request.call, ended]
    refine inv.refuse (.activate sessionGeneration expectedSha256) (some reason)
      (fun _ => ⟨rfl, rfl⟩) (fun ready presented => ?_)
    rcases refused with ⟨inactive, _⟩ | ⟨mismatch, _⟩
    · exact inactive ready
    · injection presented with same
      injection same with generation digest
      exact mismatch ⟨generation ▸ (inv.ready ready).2.1, generation, digest⟩
  · simp only [perform, dispatch, Request.call, ended]
    exact Inv.leave_inert sound inert _

theorem perform_abort_inv {system : System World} (inv : Inv platform system) :
    Inv platform (perform platform .abort system).2 := by
  by_cases active : (system.record (.enter .abort)).session.abortable
  · have ended := otaStagingAbort_of_abortable active
    have sound := (inv.entered .abort).abort (Law.anything platform)
    rw [ended] at sound
    simp only [perform, dispatch, Request.call, ended]
    exact Inv.leave_inert sound rfl _
  · have ended := otaStagingAbort_of_not_abortable active
    simp only [perform, dispatch, Request.call, ended]
    refine inv.refuse .abort (some .invalidState) (fun _ => ⟨rfl, rfl⟩) (fun _ impossible => ?_)
    cases impossible

/-- Every call keeps the invariant. -/
theorem perform_inv {system : System World} {request : Request World} (inv : Inv platform system) :
    Inv platform (perform platform request system).2 := by
  cases request with
  | begin arguments => exact perform_begin_inv inv
  | writePackage chunk => exact perform_writePackage_inv inv
  | finish given => exact perform_finish_inv inv
  | activate sessionGeneration expectedSha256 => exact perform_activate_inv inv
  | abort => exact perform_abort_inv inv

theorem run_inv_from {requests : List (Request World)} {system : System World} (inv : Inv platform system) :
    Inv platform (run platform requests system) := by
  induction requests generalizing system with
  | nil => exact inv
  | cons request requests inductionHypothesis => exact inductionHypothesis (perform_inv inv)

/-- The invariant holds after every run. -/
theorem run_inv (platform : Platform World) (requests : List (Request World)) (world : World) :
    Inv platform (run platform requests (System.initial world)) :=
  run_inv_from (Inv.of_inert ⟨always_nil _, rfl, True.intro⟩ rfl)

end Ota
end DevKit

import DevKit.Ota.Progress

namespace DevKit
namespace Ota

/-!
# Crossing the boundary

Rules for the statements that all receiving and finishing functions are built
from: platform calls, clock readings, and polls of the callbacks.  A quiet
entry keeps `Streaming`; what it adds to the end of the log is tracked by a
suffix, so that a timed operation is found there between its clock readings.
-/

open Procedure

variable {World : Type} {platform : Platform World} {Kept : World -> List Event -> Prop}
  {terms : Terms World} {finishing : Bool} {stage : Stage} {rest : Bytes}

theorem invoke_triple {operation : World -> Answer × World} {event : Answer -> Event}
    {pre : System World -> Prop} {post : Answer -> System World -> Prop}
    {exited : OTAStagingError -> System World -> Prop}
    (holds : forall system, pre system -> post (operation system.world).1
      (system.respond (operation system.world).2 (event (operation system.world).1))) :
    Triple pre (invoke operation event) post exited := by
  intro system initial
  refine ⟨fun value reached ended => ?_, fun reason reached impossible => ?_⟩
  · cases ended
    exact holds system initial
  · cases impossible

/-- What a platform call leaves behind, exactly. -/
theorem invoke_known {operation : World -> Answer × World} {event : Answer -> Event}
    {pre : System World -> Prop} {exited : OTAStagingError -> System World -> Prop} :
    Triple pre (invoke operation event) (fun answer system => exists prior, pre prior ∧
      answer = (operation prior.world).1 ∧
      system = prior.respond (operation prior.world).2 (event (operation prior.world).1)) exited :=
  invoke_triple (fun system initial => ⟨system, initial, rfl, rfl⟩)

theorem currentSession_triple {next : Session World -> Staging World Value} {pre : System World -> Prop}
    {post : Value -> System World -> Prop} {exited : OTAStagingError -> System World -> Prop}
    (after : forall current, pre current ->
      Triple (fun system => system = current) (next current.session) post exited) :
    Triple pre (currentSession >>= next) post exited := by
  intro system initial
  rw [bind_apply_ok (rfl : currentSession system = (.ok system.session, system))]
  exact after system initial system rfl

/-! ## Keeping the invariants -/

theorem Sound.record {system : System World} {event : Event} {world : World}
    (sound : Sound platform Kept system) (rule : Rule platform.sizeMax system.log event)
    (unpublished : event.publication = none) (kept : Kept world (system.log ++ [event])) :
    Sound platform Kept (system.respond world event) where
  lawful := always_concat.mpr ⟨sound.lawful, rule⟩
  counter := by
    rw [System.respond_nextGeneration, System.respond_log, publications, filterMap_concat_none unpublished]
    exact sound.counter
  kept := kept

theorem Sound.internal {system : System World} {event : Event} (sound : Sound platform Kept system)
    (law : Law platform Kept) (own : event.internal = true) (rule : Rule platform.sizeMax system.log event)
    (unpublished : event.publication = none) : Sound platform Kept (system.record event) :=
  sound.record rule unpublished (law.internal system.world system.log event own sound.kept)

theorem Sound.withSession {system : System World} (sound : Sound platform Kept system)
    (session : Session World) : Sound platform Kept (system.withSession session) :=
  ⟨sound.lawful, sound.counter, sound.kept⟩

theorem Sound.enterState {system : System World} {state : OTAStagingState}
    (sound : Sound platform Kept system) (law : Law platform Kept)
    (rule : Rule platform.sizeMax system.log (.state state)) : Sound platform Kept (system.enterState state) :=
  (sound.withSession _).internal law rfl rule rfl

/-- One more entry inside a call, together with an assignment to the session. -/
theorem Streaming.extend {system : System World} {event : Event} {world : World} {stage' : Stage}
    {rest' : Bytes} (streaming : Streaming platform Kept terms finishing stage rest system)
    (change : Session World -> Session World) (still : finishing = true -> event.flash = false)
    (inside : event.opening = none) (within : event.entered = none) (unpublished : event.publication = none)
    (named : event ≠ .aborted) (rule : Rule platform.sizeMax system.log event)
    (kept : Kept world (system.log ++ [event]))
    (moves : forall state error, change (sessionAt terms stage state error) = sessionAt terms stage' state error)
    (recorded : Recorded platform.sizeMax terms.parameters stage' rest' (system.log ++ [event])) :
    Streaming platform Kept terms finishing stage' rest'
      ((system.respond world event).withSession (change system.session)) := by
  have session : sessionLog (system.log ++ [event]) = sessionLog system.log ++ [event] :=
    sessionLog_concat inside
  rcases streaming.held with ⟨state, error, same, alive⟩
  refine ⟨(streaming.sound.record rule unpublished kept).withSession _, ⟨state, error, ?_, ?_⟩, recorded, ?_, ?_,
    streaming.numbered⟩
  · rw [System.withSession_session, same, moves]
  · intro writing
    rcases alive writing with receiving | ⟨stopped, reported, interrupted⟩
    · exact .inl receiving
    · refine .inr ⟨stopped, reported, ?_⟩
      rw [System.withSession_log, System.respond_log, session]
      exact interrupted.append [event]
  · rcases streaming.heeded with ⟨writing, stopped⟩ | ignored
    · rw [same] at stopped
      refine .inl ⟨writing, ?_⟩
      rw [System.withSession_session, same, moves]
      exact stopped
    · right
      rw [System.withSession_log, System.respond_log, session]
      exact ignored.concat named
  · exact fun call => (streaming.calling call).step within (still call)

/-- A quiet entry other than an abort keeps the invariant. -/
theorem Streaming.record {system : System World} {event : Event} {world : World}
    (streaming : Streaming platform Kept terms finishing stage rest system)
    (silent : event.quiet = true) (named : event ≠ .aborted)
    (rule : Rule platform.sizeMax system.log event) (kept : Kept world (system.log ++ [event])) :
    Streaming platform Kept terms finishing stage rest (system.respond world event) :=
  streaming.extend id (fun _ => flash_of_quiet silent) (opening_of_quiet silent) (entered_of_quiet silent)
    (publication_of_quiet silent) named rule kept (fun _ _ => rfl) (streaming.recorded.quiet silent)

/-- An assignment to the session that moves it from one stage to another. -/
theorem Streaming.assign {system : System World} {stage' : Stage} {rest' : Bytes}
    (streaming : Streaming platform Kept terms finishing stage rest system)
    (change : Session World -> Session World)
    (moves : forall state error, change (sessionAt terms stage state error) = sessionAt terms stage' state error)
    (recorded : Recorded platform.sizeMax terms.parameters stage' rest' system.log) :
    Streaming platform Kept terms finishing stage' rest' (system.withSession (change system.session)) := by
  rcases streaming with ⟨sound, ⟨state, error, same, alive⟩, _, heeded, calling, numbered⟩
  refine ⟨sound.withSession _, ⟨state, error, ?_, alive⟩, recorded, ?_, calling, numbered⟩
  · change change system.session = _
    rw [same, moves]
  · refine heeded.imp_left fun stopped => ⟨stopped.1, ?_⟩
    have state := stopped.2
    rw [same] at state
    change (change system.session).status.state = _
    rw [same, moves]
    exact state

/-- A stage may change without any assignment. -/
theorem Streaming.restage {system : System World} {stage' : Stage} {rest' : Bytes}
    (streaming : Streaming platform Kept terms finishing stage rest system)
    (moves : forall state error, sessionAt terms stage state error = sessionAt terms stage' state error)
    (recorded : Recorded platform.sizeMax terms.parameters stage' rest' system.log) :
    Streaming platform Kept terms finishing stage' rest' system :=
  streaming.assign id moves recorded

/-! ## Platform calls -/

/-- The invariant together with the last entries of the session. -/
def Tracked (platform : Platform World) (Kept : World -> List Event -> Prop) (terms : Terms World)
    (finishing : Bool) (stage : Stage) (rest : Bytes) (tail : List Event) (system : System World) : Prop :=
  Streaming platform Kept terms finishing stage rest system ∧ tail <:+ sessionLog system.log

theorem ask_triple {operation : World -> Answer × World} {event : Answer -> Event} {tail : List Event}
    {exited : OTAStagingError -> System World -> Prop} (keeps : Keeps Kept operation event)
    (silent : forall answer, (event answer).quiet = true) (named : forall answer, event answer ≠ .aborted)
    (free : forall before answer, Rule platform.sizeMax before (event answer)) :
    Triple (Tracked platform Kept terms finishing stage rest tail) (invoke operation event)
      (fun answer => Tracked platform Kept terms finishing stage rest (tail ++ [event answer])) exited := by
  apply invoke_triple
  rintro system ⟨streaming, recent⟩
  refine ⟨streaming.record (silent _) (named _) (free _ _) (keeps _ _ streaming.sound.kept), ?_⟩
  rw [System.respond_log, sessionLog_concat (opening_of_quiet (silent _)), List.suffix_append_inj_of_length_eq rfl]
  exact ⟨recent, rfl⟩

theorem timeMs_triple {tail : List Event} {exited : OTAStagingError -> System World -> Prop}
    (law : Law platform Kept) :
    Triple (Tracked platform Kept terms finishing stage rest tail) (timeMs platform)
      (fun now => Tracked platform Kept terms finishing stage rest (tail ++ [.timeMs now])) exited :=
  ask_triple law.timeMs (fun _ => rfl) (fun _ => Event.noConfusion) (fun _ _ => True.intro)

/-- A timed operation that took too long leaves the call; the clock reading
behind it is the evidence. -/
theorem enforceLimit_triple {tail : List Event} {started limit : UInt32} {timeout : OTAStagingError}
    (law : Law platform Kept)
    (late : forall (system : System World) (finished : UInt32),
      Tracked platform Kept terms finishing stage rest (tail ++ [.timeMs finished]) system ->
      finished - started > limit -> Excused platform Kept terms timeout system) :
    Triple (Tracked platform Kept terms finishing stage rest tail)
      (enforceLimit platform started limit timeout)
      (fun _ system => exists finished,
        Tracked platform Kept terms finishing stage rest (tail ++ [.timeMs finished]) system ∧
        finished - started ≤ limit)
      (Excused platform Kept terms) := by
  have measured : Triple (Tracked platform Kept terms finishing stage rest tail)
      (elapsedExceeded platform started limit)
      (fun slow system => exists finished,
        Tracked platform Kept terms finishing stage rest (tail ++ [.timeMs finished]) system ∧
        slow = decide (finished - started > limit))
      (Excused platform Kept terms) := by
    refine Triple.bind (timeMs_triple law) (fun finished => Triple.pure (fun system tracked => ?_))
    exact ⟨finished, tracked, rfl⟩
  refine measured.bind (fun slow => ?_)
  apply Triple.reject
  · rintro exceeded system ⟨finished, tracked, rfl⟩
    exact late system finished tracked (of_decide_eq_true exceeded)
  · rintro inTime system ⟨finished, tracked, rfl⟩
    refine ⟨finished, tracked, ?_⟩
    rw [decide_eq_true_eq] at inTime
    exact UInt32.not_lt.mp inTime

/-! ## Callbacks -/

/-- The states that `OTAStagingAbort` accepts. -/
def Session.abortable (session : Session World) : Prop :=
  session.status.state = .receiving ∨ session.status.state = .verifying ∨ session.status.state = .ready

theorem otaStagingAbort_of_abortable {system : System World} (active : system.session.abortable) :
    otaStagingAbort system = (.ok, ((system.withSession { system.session with
      ready := { system.session.ready with sessionGeneration := 0 }
      status := { system.session.status with lastError := .cancelled } }).enterState .cancelled).record
        .aborted) := by
  rw [otaStagingAbort, if_neg]
  rintro ⟨notReceiving, notVerifying, notReady⟩
  rcases active with receiving | verifying | ready
  · exact notReceiving receiving
  · exact notVerifying verifying
  · exact notReady ready

theorem otaStagingAbort_of_not_abortable {system : System World} (inactive : ¬ system.session.abortable) :
    otaStagingAbort system = (.invalidState, system) := by
  rw [otaStagingAbort, if_pos]
  rw [Session.abortable, not_or, not_or] at inactive
  exact inactive

theorem otaStagingAbort_log {system : System World} (active : system.session.abortable) :
    (otaStagingAbort system).2.log = system.log ++ [.state .cancelled] ++ [.aborted] := by
  rw [otaStagingAbort_of_abortable active, System.record_log, System.enterState_log,
    System.withSession_log]

theorem Sound.abort {system : System World} (sound : Sound platform Kept system)
    (law : Law platform Kept) : Sound platform Kept (otaStagingAbort system).2 := by
  by_cases active : system.session.abortable
  · rw [otaStagingAbort_of_abortable active]
    refine Sound.internal (Sound.enterState (sound.withSession _) law ?_) law rfl ?_ rfl
    · exact True.intro
    · exact True.intro
  · rw [otaStagingAbort_of_not_abortable active]
    exact sound

/-- An abort by a callback keeps the invariant, unless `OTAStagingFinish` is
running and the abort has not been recorded as ignored. -/
theorem Streaming.abort {system : System World}
    (streaming : Streaming platform Kept terms finishing stage rest system) (law : Law platform Kept)
    (interrupted : Interrupted (sessionLog system.log)) (ignored : finishing = true -> Ignored (sessionLog system.log)) :
    Streaming platform Kept terms finishing stage rest (otaStagingAbort system).2 := by
  by_cases active : system.session.abortable
  · have log := otaStagingAbort_log active
    have session : sessionLog (otaStagingAbort system).2.log =
        sessionLog system.log ++ [.state .cancelled] ++ [.aborted] := by
      rw [log, sessionLog_concat rfl, sessionLog_concat rfl]
    rcases streaming.held with ⟨state, error, same, _⟩
    refine ⟨streaming.sound.abort law, ⟨.cancelled, .cancelled, ?_, fun _ => .inr ⟨rfl, rfl, ?_⟩⟩, ?_, ?_,
      fun call => ?_, ?_⟩
    · rw [otaStagingAbort_of_abortable active]
      simp only [System.record_session, System.enterState_session, System.withSession_session, same]
      rfl
    · rw [session]
      exact (interrupted.append _).append _
    · rw [log]
      exact (streaming.recorded.quiet rfl).quiet rfl
    · cases mode : finishing with
      | false =>
          refine .inl ⟨rfl, ?_⟩
          rw [otaStagingAbort_of_abortable active]
          rfl
      | true =>
          have earlier := streaming.heeded.resolve_left fun stopped => Bool.noConfusion (mode.symm.trans stopped.1)
          rw [session]
          refine .inr (always_concat.mpr ⟨earlier.concat Event.noConfusion, fun _ => ?_⟩)
          exact ⟨sessionLog system.log, rfl, ignored mode⟩
    · rw [log]
      exact ((streaming.calling call).step rfl rfl).step rfl rfl
    · rw [otaStagingAbort_of_abortable active]
      exact streaming.numbered
  · rw [otaStagingAbort_of_not_abortable active]
    exact streaming

theorem mem_sessionLog_abort {system : System World} {event : Event}
    (member : event ∈ sessionLog system.log) : event ∈ sessionLog (otaStagingAbort system).2.log := by
  by_cases active : system.session.abortable
  · rw [otaStagingAbort_log active, sessionLog_concat rfl, sessionLog_concat rfl]
    exact List.mem_append_left _ (List.mem_append_left _ member)
  · rw [otaStagingAbort_of_not_abortable active]
    exact member

/-- A callback keeps the invariant unless it aborts `OTAStagingFinish` and asks
it to stop. -/
theorem consult_triple {callback : World -> CallbackAnswer × World} {event : CallbackAnswer -> Event}
    {exited : OTAStagingError -> System World -> Prop} (law : Law platform Kept)
    (keeps : Keeps Kept callback event) (silent : forall answer, (event answer).quiet = true)
    (named : forall answer, event answer ≠ .aborted)
    (free : forall before answer, Rule platform.sizeMax before (event answer))
    (interrupts : forall events answer, answer.abort = true -> event answer ∈ events -> Interrupted events)
    (noticed : forall before answer given, finishing = true -> lastCall before = some (.finish given) ->
      answer.abort = true -> answer.result = 0 -> Ignored (before ++ [event answer])) :
    Triple (Streaming platform Kept terms finishing stage rest) (consult callback event)
      (fun answer system => Sound platform Kept system ∧ event answer ∈ sessionLog system.log ∧
        (finishing = false ∨ answer.result = 0 ->
          Streaming platform Kept terms finishing stage rest system)) exited := by
  have asked : Triple (Streaming platform Kept terms finishing stage rest) (invoke callback event)
      (fun answer system => Streaming platform Kept terms finishing stage rest system ∧
        event answer ∈ sessionLog system.log ∧
        (finishing = true -> answer.abort = true -> answer.result = 0 -> Ignored (sessionLog system.log))) exited := by
    apply invoke_triple
    intro system streaming
    refine ⟨streaming.record (silent _) (named _) (free _ _) (keeps _ _ streaming.sound.kept), ?_, ?_⟩
    · rw [System.respond_log, sessionLog_concat (opening_of_quiet (silent _))]
      exact List.mem_append_right _ (List.mem_singleton_self _)
    · intro running abort zero
      rcases (streaming.calling running).call with ⟨given, last⟩
      rw [System.respond_log, sessionLog_concat (opening_of_quiet (silent _))]
      exact noticed _ _ given running (lastCall_sessionLog streaming.sound.lawful last) abort zero
  refine asked.bind (fun answer => ?_)
  have settled : Triple (fun system => Streaming platform Kept terms finishing stage rest system ∧
        event answer ∈ sessionLog system.log ∧
        (finishing = true -> answer.abort = true -> answer.result = 0 -> Ignored (sessionLog system.log)))
      (Procedure.update fun system => if answer.abort then (otaStagingAbort system).2 else system)
      (fun _ system => Sound platform Kept system ∧ event answer ∈ sessionLog system.log ∧
        (finishing = false ∨ answer.result = 0 ->
          Streaming platform Kept terms finishing stage rest system)) exited := by
    apply Triple.update
    rintro system ⟨streaming, member, ignored⟩
    cases abort : answer.abort with
    | false => exact ⟨streaming.sound, member, fun _ => streaming⟩
    | true =>
        refine ⟨streaming.sound.abort law, mem_sessionLog_abort member, fun goesOn => ?_⟩
        apply streaming.abort law (interrupts _ _ abort member)
        intro running
        apply ignored running abort
        exact goesOn.resolve_left (by rw [running]; exact Bool.noConfusion)
  exact settled.bind (fun _ => Triple.pure (fun _ holds => holds))

theorem consultCancellation_triple {callback : OTACancellationCallback World}
    {exited : OTAStagingError -> System World -> Prop} (law : Law platform Kept)
    (keeps : Keeps Kept callback .cancellation) :
    Triple (Streaming platform Kept terms finishing stage rest) (consult callback .cancellation)
      (fun answer system => Sound platform Kept system ∧ Event.cancellation answer ∈ sessionLog system.log ∧
        (finishing = false ∨ answer.result = 0 ->
          Streaming platform Kept terms finishing stage rest system)) exited := by
  apply consult_triple law keeps (fun _ => rfl) (fun _ => Event.noConfusion) (fun _ _ => True.intro)
  · intro events answer abort member
    exact ⟨answer, abort, .inl member⟩
  · intro before answer given _ last abort zero
    exact ⟨before, answer, given, rfl, abort, zero, last⟩

theorem session_cancellation {system : System World}
    (streaming : Streaming platform Kept terms finishing stage rest system) :
    system.session.cancellation = terms.cancellation := by
  rcases streaming.held with ⟨state, error, same, _⟩
  rw [same]
  rfl

theorem session_admission {system : System World}
    (streaming : Streaming platform Kept terms finishing stage rest system) :
    system.session.admission = terms.admission := by
  rcases streaming.held with ⟨state, error, same, _⟩
  rw [same]
  rfl

theorem cancelled_triple (law : Law platform Kept)
    (callbacks : CallbacksKeep Kept terms.admission terms.cancellation) :
    Triple (Streaming platform Kept terms finishing stage rest) cancelled
      (fun stop system => (stop = true -> Excused platform Kept terms .cancelled system) ∧
        (stop = false -> Streaming platform Kept terms finishing stage rest system))
      (Excused platform Kept terms) := by
  apply currentSession_triple
  intro current streaming
  rw [session_cancellation streaming]
  cases asked : terms.cancellation with
  | none =>
      apply Triple.pure
      rintro system rfl
      exact ⟨fun impossible => absurd impossible Bool.false_ne_true, fun _ => streaming⟩
  | some callback =>
      refine Triple.bind ((consultCancellation_triple law (callbacks.cancellation callback asked)).start
        streaming) (fun answer => Triple.pure ?_)
      rintro system ⟨sound, member, goesOn⟩
      refine ⟨fun stop => ⟨sound, .cancelled answer member (of_decide_eq_true stop)⟩, fun stop => ?_⟩
      exact goesOn (.inr (not_not.mp (of_decide_eq_false stop)))

theorem pollCancellation_triple (law : Law platform Kept)
    (callbacks : CallbacksKeep Kept terms.admission terms.cancellation) :
    Triple (Streaming platform Kept terms finishing stage rest) pollCancellation
      (fun _ => Streaming platform Kept terms finishing stage rest) (Excused platform Kept terms) := by
  refine Triple.bind (cancelled_triple law callbacks) (fun stop => ?_)
  apply Triple.reject
  · intro stopped system answered
    exact answered.1 stopped
  · intro goesOn system answered
    exact answered.2 (Bool.eq_false_of_not_eq_true goesOn)

end Ota
end DevKit

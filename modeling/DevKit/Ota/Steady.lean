import DevKit.Ota.Fidelity

namespace DevKit
namespace Ota

/-!
# A platform on which every operation succeeds

On a working platform the only thing left to decide the outcome of a session
is the package itself, together with the answers of the signature check and of
the admission callback.  `Conduct` names these answers; `verdict` and
`completion` are the outcomes of receiving and of finishing as functions of the
bytes alone.

The argument goes through the log.  `Orderly` says that every entry is one that
the conduct allows; every error of the engine has a cause in the log, so an
error other than the one the bytes deserve would need an entry that is not
there.
-/

variable {World : Type}

/-- The behaviour that a working platform is held to: the view of its Flash,
what an erase leaves behind, the answer of the signature check and whether that
check takes too long, and the range in which Flash operations succeed. -/
structure Conduct (World : Type) where
  contents : World -> Nat -> UInt8
  erased : Nat -> Nat -> (Nat -> UInt8) -> Nat -> UInt8
  verifies : Bytes -> Bytes -> Bytes -> Int
  slow : Bytes -> Bytes -> Bytes -> Bool
  capacity : Nat

def Conduct.effect (conduct : Conduct World) : FlashEffect UInt8 where
  erase := conduct.erased
  write := id
  lost := fun _ _ memory => memory

/-- The time between the clock readings around an operation. -/
def elapsed (platform : Platform World) (operation : World -> Answer × World) (world : World) : UInt32 :=
  (platform.timeMs (operation (platform.timeMs world).2).2).1 - (platform.timeMs world).1

/-- Flash operations inside the OTA partition succeed, in time; the signature
check depends on its arguments only. -/
structure Steady (platform : Platform World) (conduct : Conduct World) : Prop
    extends FaithfulFlash platform conduct.contents where
  partition : forall world ota, (platform.getOtaPartition world).1 = some ota ->
    ota.length.toNat ≤ conduct.capacity
  erases : forall offset size world, offset.toNat + size ≤ conduct.capacity ->
    (platform.eraseOta offset size world).1 = 0 ∧
    conduct.contents (platform.eraseOta offset size world).2 =
      conduct.erased offset.toNat size (conduct.contents world) ∧
    elapsed platform (platform.eraseOta offset size) world ≤ 2000
  writes : forall offset data world, offset.toNat + data.length ≤ conduct.capacity ->
    (platform.writeOta offset data world).1.result = 0 ∧
    (platform.writeOta offset data world).1.offset.toNat = offset.toNat + data.length ∧
    elapsed platform (platform.writeOta offset data) world ≤ 2000
  reads : forall offset size world, offset.toNat + size ≤ conduct.capacity ->
    (platform.readOta offset size world).1.result = 0 ∧
    (platform.readOta offset size world).1.offset.toNat = offset.toNat + size ∧
    elapsed platform (platform.readOta offset size) world ≤ 2000
  verifies : forall key digest signature world,
    (platform.verifySignature key digest signature world).1 = conduct.verifies key digest signature ∧
    decide (elapsed platform (platform.verifySignature key digest signature) world > 5000) =
      conduct.slow key digest signature

/-- The callbacks decide on admission by the metadata alone and never cancel. -/
structure Compliant (conduct : Conduct World) (decides : OTAStagingMetadata -> Int)
    (admission : Option (OTAAdmissionCallback World)) (cancellation : Option (OTACancellationCallback World)) :
    Prop extends SparesFlash conduct.contents admission cancellation where
  admits : forall callback, admission = some callback -> forall metadata world,
    (callback metadata world).1 = ⟨false, decides metadata⟩
  continues : forall callback, cancellation = some callback -> forall world,
    (callback world).1 = ⟨false, 0⟩

/-! ## Orderly logs -/

/-- The time an operation may take. -/
def InTime (conduct : Conduct World) (took : UInt32) : Event -> Prop
  | .verifySignature key digest signature _ => decide (took > 5000) = conduct.slow key digest signature
  | .eraseOta _ _ _ | .writeOta _ _ _ _ | .readOta _ _ _ _ => took ≤ 2000
  | _ => True

/-- The entries that the conduct allows. -/
def Expected (conduct : Conduct World) (decides : OTAStagingMetadata -> Int) (before : List Event) :
    Event -> Prop
  | .cancellation answer => answer = ⟨false, 0⟩
  | .admission metadata answer => answer = ⟨false, decides metadata⟩
  | .timeMs finished => forall earlier started event, before = earlier ++ [.timeMs started, event] ->
      InTime conduct (finished - started) event
  | .verifySignature key digest signature result => result = conduct.verifies key digest signature
  | .eraseOta _ _ result => result = 0
  | .writeOta offset data result reached | .readOta offset data result reached =>
      result = 0 ∧ reached.toNat = offset.toNat + data.length
  | _ => True

/-- Every entry of the session is an expected one and Flash is what the entries
made of it.  The last two fields remember enough of the clock to time the
operation that is under way. -/
structure Orderly (platform : Platform World) (conduct : Conduct World) (decides : OTAStagingMetadata -> Int)
    (initial : Nat -> UInt8) (parameters : SessionParameters) (world : World) (log : List Event) : Prop where
  mirrors : Mirrors conduct.contents world log
  opened : parametersOf log = some parameters
  conducted : Always (Expected conduct decides) (sessionLog log)
  contents : conduct.contents world = replay conduct.effect initial (sessionLog log)
  clocked : forall earlier started, sessionLog log = earlier ++ [.timeMs started] ->
    exists prior, platform.timeMs prior = (started, world)
  running : forall earlier started event, sessionLog log = earlier ++ [.timeMs started, event] ->
    InTime conduct ((platform.timeMs world).1 - started) event

section Orderly

variable {platform : Platform World} {conduct : Conduct World} {decides : OTAStagingMetadata -> Int}
  {initial : Nat -> UInt8} {parameters : SessionParameters} {world next : World} {log : List Event}
  {event : Event}

theorem Orderly.concat (orderly : Orderly platform conduct decides initial parameters world log)
    (inside : event.opening = none) (expected : Expected conduct decides (sessionLog log) event)
    (mirrors : Mirrors conduct.contents next (log ++ [event]))
    (contents : conduct.contents next = conduct.effect.apply (conduct.contents world) event)
    (clocked : forall started, event = .timeMs started -> exists prior, platform.timeMs prior = (started, next))
    (running : forall started prior, platform.timeMs prior = (started, world) ->
      InTime conduct ((platform.timeMs next).1 - started) event) :
    Orderly platform conduct decides initial parameters next (log ++ [event]) := by
  refine ⟨mirrors, (latest_concat_none inside).trans orderly.opened, ?_, ?_, ?_, ?_⟩
  · rw [sessionLog_concat inside]
    exact always_concat.mpr ⟨orderly.conducted, expected⟩
  · rw [contents, sessionLog_concat inside, replay_concat, ← orderly.contents]
  · intro earlier started last
    rw [sessionLog_concat inside] at last
    exact clocked started (List.singleton_inj.mp (List.append_inj' last rfl).2)
  · intro earlier started other last
    have parts : earlier ++ [.timeMs started, other] = earlier ++ [.timeMs started] ++ [other] :=
      (List.append_assoc earlier [.timeMs started] [other]).symm
    rw [sessionLog_concat inside, parts] at last
    have same := List.append_inj' last rfl
    rcases orderly.clocked earlier started same.1 with ⟨prior, timed⟩
    rw [← List.singleton_inj.mp same.2]
    exact running started prior timed

/-- An entry that is neither a clock reading nor timed. -/
theorem Orderly.aside (orderly : Orderly platform conduct decides initial parameters world log)
    (inside : event.opening = none) (expected : Expected conduct decides (sessionLog log) event)
    (still : event.flash = false) (contents : conduct.contents next = conduct.contents world)
    (other : forall now, event ≠ .timeMs now) (untimed : forall took, InTime conduct took event) :
    Orderly platform conduct decides initial parameters next (log ++ [event]) := by
  refine orderly.concat inside expected (orderly.mirrors.concat inside still contents) ?_ (fun started reading => absurd reading (other started))
    (fun _ _ _ => untimed _)
  rw [apply_of_still still, contents]

theorem Orderly.internal (orderly : Orderly platform conduct decides initial parameters world log)
    (own : event.internal = true) :
    Orderly platform conduct decides initial parameters world (log ++ [event]) := by
  cases event with
  | leave _ | state _ | published _ | aborted =>
      exact orderly.aside rfl True.intro rfl rfl (fun _ => Event.noConfusion) (fun _ => True.intro)
  | _ => exact absurd own Bool.false_ne_true

theorem Orderly.enter (orderly : Orderly platform conduct decides initial parameters world log)
    (call : Call) : Orderly platform conduct decides initial parameters world (log ++ [.enter call]) :=
  orderly.aside rfl True.intro rfl rfl (fun _ => Event.noConfusion) (fun _ => True.intro)

/-- The rule of a Flash operation keeps it inside the partition. -/
theorem Orderly.room (orderly : Orderly platform conduct decides initial parameters world log)
    (roomy : parameters.ota.length.toNat ≤ conduct.capacity) {reach : Nat}
    (fits : reach ≤ declared (sessionLog log))
    (authorised : exists parameters, parametersOf log = some parameters ∧
      Authorised platform.sizeMax parameters (sessionLog log)) : reach ≤ conduct.capacity := by
  rcases authorised with ⟨current, opened, evidence⟩
  have same := Option.some_inj.mp (orderly.opened.symm.trans opened)
  subst same
  have within : declared (sessionLog log) ≤ parameters.ota.length.toNat :=
    (decodeHeader_ok_iff.mp evidence.accepted).fitsOta
  omega

theorem elapsed_eq {operation : World -> Answer × World} {prior : World} {started : UInt32}
    (timed : platform.timeMs prior = (started, world)) :
    elapsed platform operation prior = (platform.timeMs (operation world).2).1 - started := by
  rw [elapsed, timed]

theorem orderly_law (steady : Steady platform conduct)
    (mirroring : Law platform (Mirrors conduct.contents)) (roomy : parameters.ota.length.toNat ≤ conduct.capacity) :
    Law platform (Orderly platform conduct decides initial parameters) where
  internal := fun _ _ _ own orderly => orderly.internal own
  eraseOta := by
    intro offset size world log orderly rule
    rcases steady.erases offset size world (orderly.room roomy rule.2.1 rule.2.2.2) with ⟨success, effect, _⟩
    refine orderly.concat rfl success (mirroring.eraseOta offset size world log orderly.mirrors rule) ?_
      (fun _ => Event.noConfusion) (fun started prior timed => ?_)
    · rw [effect]
      exact (if_pos success).symm
    · have limit := (steady.erases offset size prior (orderly.room roomy rule.2.1 rule.2.2.2)).2.2
      rw [elapsed_eq timed] at limit
      exact limit
  writeOta := by
    intro offset data world log orderly rule
    have room := orderly.room roomy rule.2.2.1 rule.2.2.2.2.2.2
    rcases steady.writes offset data world room with ⟨success, advanced, _⟩
    refine orderly.concat rfl ⟨success, advanced⟩ (mirroring.writeOta offset data world log orderly.mirrors rule) ?_
      (fun _ => Event.noConfusion) (fun started prior timed => ?_)
    · rw [steady.writeOta offset data world (orderly.mirrors.blank rule) success advanced, FlashEffect.apply, if_pos ⟨success, advanced⟩]
      exact congrArg (overlay _ _) (List.map_id data).symm
    · have limit := (steady.writes offset data prior room).2.2
      rw [elapsed_eq timed] at limit
      exact limit
  readOta := by
    intro offset size world log orderly rule
    have room := orderly.room roomy rule.2.2.1 rule.2.2.2
    rw [Buffer.length_eq] at room
    rcases steady.reads offset size world room with ⟨success, advanced, _⟩
    refine orderly.concat rfl ⟨success, ?_⟩ (mirroring.readOta offset size world log orderly.mirrors rule)
      (steady.reading offset size world) (fun _ => Event.noConfusion) (fun started prior timed => ?_)
    · rw [Buffer.length_eq]
      exact advanced
    · have limit := (steady.reads offset size prior room).2.2
      rw [elapsed_eq timed] at limit
      exact limit
  timeMs := by
    intro world log orderly
    refine orderly.concat rfl ?_ (mirroring.timeMs world log orderly.mirrors) (steady.timeMs world) ?_
      (fun _ _ _ => True.intro)
    · exact fun earlier started event last => orderly.running earlier started event last
    · intro started reading
      injection reading with now
      exact ⟨world, by rw [← now]⟩
  verifySignature := by
    intro key digest signature world log orderly
    refine orderly.concat rfl (steady.verifies key digest signature world).1
      (mirroring.verifySignature key digest signature world log orderly.mirrors)
      (steady.verifySignature key digest signature world) (fun _ => Event.noConfusion)
      (fun started prior timed => ?_)
    have limit := (steady.verifies key digest signature prior).2
    rw [elapsed_eq timed] at limit
    exact limit

theorem orderly_callbacks {admission : Option (OTAAdmissionCallback World)}
    {cancellation : Option (OTACancellationCallback World)}
    (compliant : Compliant conduct decides admission cancellation) :
    CallbacksKeep (Orderly platform conduct decides initial parameters) admission cancellation where
  admission := fun callback installed metadata world _ orderly =>
    orderly.aside rfl (compliant.admits callback installed metadata world) rfl
      (compliant.whenAdmitting callback installed metadata world) (fun _ => Event.noConfusion) (fun _ => True.intro)
  cancellation := fun callback installed world _ orderly =>
    orderly.aside rfl (compliant.continues callback installed world) rfl
      (compliant.whenPolled callback installed world) (fun _ => Event.noConfusion) (fun _ => True.intro)

/-! ## What an orderly log rules out -/

theorem Orderly.mem (orderly : Orderly platform conduct decides initial parameters world log)
    (member : event ∈ sessionLog log) : exists before, Expected conduct decides before event := by
  rcases List.append_of_mem member with ⟨before, after, split⟩
  exact ⟨before, orderly.conducted before event after split⟩

theorem Orderly.timed (orderly : Orderly platform conduct decides initial parameters world log)
    {started finished : UInt32} (found : [.timeMs started, event, .timeMs finished] <:+: sessionLog log) :
    InTime conduct (finished - started) event := by
  rcases found with ⟨earlier, later, split⟩
  have place : sessionLog log = earlier ++ [.timeMs started, event] ++ .timeMs finished :: later := by
    rw [← split]
    simp only [List.append_assoc, List.cons_append, List.nil_append]
  exact orderly.conducted _ _ _ place earlier started event rfl

theorem Orderly.not_interrupted (orderly : Orderly platform conduct decides initial parameters world log) :
    ¬ Interrupted (sessionLog log) := by
  rintro ⟨answer, abort, polled | ⟨metadata, asked⟩⟩
  · rcases orderly.mem polled with ⟨_, expected⟩
    rw [(expected : answer = ⟨false, 0⟩)] at abort
    exact absurd abort Bool.false_ne_true
  · rcases orderly.mem asked with ⟨_, expected⟩
    rw [(expected : answer = ⟨false, decides metadata⟩)] at abort
    exact absurd abort Bool.false_ne_true

end Orderly

end Ota
end DevKit

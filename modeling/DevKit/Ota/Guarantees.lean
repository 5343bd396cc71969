import DevKit.Ota.Update

namespace DevKit
namespace Ota

/-!
# Guarantees over whole runs

Every statement below is about an arbitrary sequence of calls of the five entry
points, from the zeroed session on, over an arbitrary platform: its answers may
be wrong, late or contradictory.  The callbacks may answer anything too, but
they re-enter the engine only through `OTAStagingAbort`, as everywhere in this
model.  A callback that aborts the session and begins another one inside a call
is not covered: the call would go on in the new session.

The log obeys `Rule` after every run, so a guarantee about the log is read off
the rule of one kind of entry, together with what had to be recorded before it.
The outcomes of the two streaming calls are inductive: one constructor for each
way in which a call can end.  No constructor stands for a call that does not
return.
-/

variable {World : Type}

section Runs

variable (platform : Platform World) (requests : List (Request World)) (world : World)

theorem run_lawful : Always (Rule platform.sizeMax) (run platform requests (System.initial world)).log :=
  (run_inv platform requests world).sound.lawful

/-! ## Flash -/

/-- What the log holds before Flash may be changed: a session is open, its
header was decoded without error, the signature over exactly this header was
verified in time under the session's key, the admission callback did not refuse
the decoded metadata, and the vector table was checked. -/
def Warranted (sizeMax : Nat) (before : List Event) : Prop :=
  exists parameters, parametersOf before = some parameters ∧
    Authorised sizeMax parameters (sessionLog before) ∧
    HeaderAccepted sizeMax parameters (headerOf (sessionLog before))

theorem warranted_of_authorised {sizeMax : Nat} {before : List Event}
    (evidence : exists parameters, parametersOf before = some parameters ∧
      Authorised sizeMax parameters (sessionLog before)) : Warranted sizeMax before := by
  rcases evidence with ⟨parameters, opened, authorised⟩
  exact ⟨parameters, opened, authorised, decodeHeader_ok_iff.mp authorised.accepted⟩

theorem Rule.warranted {sizeMax : Nat} {before : List Event} {event : Event} (rule : Rule sizeMax before event)
    (touches : event.flash = true) : Warranted sizeMax before := by
  cases event with
  | eraseOta offset size result => exact warranted_of_authorised rule.2.2.2
  | writeOta offset data result reached => exact warranted_of_authorised rule.2.2.2.2.2.2
  | _ => exact absurd touches Bool.false_ne_true

/-- Nothing is erased or written before the package is authenticated. -/
theorem flash_changed_only_when_warranted :
    Always (fun before event => event.flash = true -> Warranted platform.sizeMax before)
      (run platform requests (System.initial world)).log :=
  (run_lawful platform requests world).mono fun _ _ rule => rule.warranted

/-- Where the Flash operations of a session are.  Erases cover the payload from
its start on and all of them precede the first write; writes follow one another
without a gap; nothing goes beyond the declared payload. -/
def Placed (before : List Event) : Event -> Prop
  | .eraseOta offset size _ => 0 < size ∧ offset.toNat + size ≤ declared (sessionLog before) ∧
      Tiles 0 (erases (sessionLog before)) offset.toNat ∧ writes (sessionLog before) = []
  | .writeOta offset data _ _ => 1 ≤ data.length ∧ data.length ≤ 512 ∧
      offset.toNat + data.length ≤ declared (sessionLog before) ∧
      Tiles 0 (erases (sessionLog before)) (declared (sessionLog before)) ∧
      Tiles 0 (writes (sessionLog before)) offset.toNat
  | .readOta offset data _ _ => 1 ≤ data.length ∧ data.length ≤ 512 ∧
      offset.toNat + data.length ≤ declared (sessionLog before)
  | _ => True

theorem tiles_le_of_append {start middle stop : Nat} {first second : List (Nat × Nat)}
    (shorter : Tiles start first middle) (longer : Tiles start (first ++ second) stop) : middle ≤ stop := by
  have part := tiles_sum shorter
  have whole := tiles_sum longer
  rw [List.map_append, List.sum_append] at whole
  omega

/-- A session that has written has erased everything it declared. -/
theorem erased_before_written {sizeMax : Nat} {log : List Event} (lawful : Always (Rule sizeMax) log)
    {range : Nat × Nat} (written : range ∈ writes (sessionLog log)) :
    exists cleared rest, erases (sessionLog log) = cleared ++ rest ∧
      Tiles 0 cleared (declared (sessionLog log)) := by
  rcases List.mem_filterMap.mp written with ⟨event, member, picked⟩
  rcases List.append_of_mem member with ⟨prior, later, split⟩
  rcases since_split split with ⟨earlier, whole, same⟩
  cases event with
  | writeOta offset data result reached =>
      have rule := lawful earlier (.writeOta offset data result reached) later whole
      have opened : sessionLog earlier = prior := same
      rw [Rule, opened] at rule
      rcases rule.2.2.2.2.2.2 with ⟨_, _, authorised⟩
      refine ⟨erases prior, erases (.writeOta offset data result reached :: later), ?_, ?_⟩
      · rw [split, erases, List.filterMap_append, erases, erases]
      · rw [split, declared, headerOf_append _ _ authorised.complete]
        exact rule.2.2.2.1
  | _ => cases picked

/-- The Flash operations of every session lie side by side inside the payload,
and the payload inside the OTA partition. -/
theorem flash_operations_placed :
    Always (fun before event => Placed before event ∧ (event.flash = true ->
        exists parameters, parametersOf before = some parameters ∧
          declared (sessionLog before) ≤ parameters.ota.length.toNat))
      (run platform requests (System.initial world)).log := by
  have lawful := run_lawful platform requests world
  intro before event after split
  have rule := lawful before event after split
  have past := lawful.before split
  constructor
  · cases event with
    | eraseOta offset size result =>
        refine ⟨rule.1, rule.2.1, rule.2.2.1, ?_⟩
        rw [List.eq_nil_iff_forall_not_mem]
        intro range written
        rcases erased_before_written past written with ⟨cleared, rest, erased, tiled⟩
        have reached := rule.2.2.1
        rw [erased] at reached
        have full := tiles_le_of_append tiled reached
        have positive := rule.1
        have bounded := rule.2.1
        omega
    | writeOta offset data result reached =>
        exact ⟨rule.1, rule.2.1, rule.2.2.1, rule.2.2.2.1, rule.2.2.2.2.1⟩
    | readOta offset data result reached => exact ⟨rule.1, rule.2.1, rule.2.2.1⟩
    | _ => exact True.intro
  · intro touches
    rcases rule.warranted touches with ⟨parameters, opened, _, accepted⟩
    exact ⟨parameters, opened, accepted.fitsOta⟩

/-! ## Activation -/

theorem publication_of_unrevoked {info : OTAStagedImageInfo} {event : Event} (harmless : ¬ Revokes info event) :
    event.publication = none := by
  by_contra published
  exact harmless (.inr (.inr (.inl published)))

/-- A standing result is the one published last. -/
theorem Standing.latest_eq {info : OTAStagedImageInfo} {log : List Event} (standing : Standing info log) :
    latest Event.publication log = some info := by
  rcases standing with ⟨earlier, later, rfl, unrevoked⟩
  rw [← List.singleton_append, ← List.append_assoc,
    latest_append_none fun event member => publication_of_unrevoked (unrevoked event member)]
  exact latest_concat_some rfl

theorem Presented.latest_eq {info : OTAStagedImageInfo} {log : List Event} (presented : Presented info log) :
    latest Event.publication log = some info := by
  rcases presented with ⟨_, before, rfl, standing⟩
  exact (latest_concat_none rfl).trans standing.latest_eq

/-- Presenting a result a second time would need a result that its first use
did not revoke, so a new one was published in between. -/
theorem Presented.fresh {info other : OTAStagedImageInfo} {first last : List Event}
    (again : Presented info (first ++ .state .activating :: last)) (used : Presented other first) :
    exists event, event ∈ last ∧ event.publication ≠ none := by
  by_contra absent
  have silent : forall event, event ∈ Event.state .activating :: last -> event.publication = none := by
    intro event member
    rcases List.mem_cons.mp member with rfl | behind
    · rfl
    · by_contra published
      exact absent ⟨event, behind, published⟩
  -- Both attempts are for the last published result.
  have same : info = other := by
    have now := again.latest_eq
    rw [latest_append_none silent, used.latest_eq] at now
    exact (Option.some_inj.mp now).symm
  subst same
  rcases again with ⟨_, before, ended, earlier, later, rfl, unrevoked⟩
  rcases used with ⟨_, prior, rfl, older, since, rfl, harmless⟩
  have found : Event.publication (.published info) ≠ none := Option.some_ne_none _
  have behind : later ++ [activation info] = since ++ [activation info] ++ .state .activating :: last := by
    have split : earlier ++ .published info :: (later ++ [activation info]) =
        older ++ .published info :: (since ++ [activation info] ++ .state .activating :: last) := by
      simpa only [List.append_assoc, List.cons_append] using ended.symm
    refine behind_latest_eq split found found ?_ ?_
    · intro event member
      rcases List.mem_append.mp member with old | last
      · exact publication_of_unrevoked (unrevoked event old)
      · rw [List.mem_singleton.mp last]
        rfl
    · intro event member
      rcases List.mem_append.mp member with old | new
      · rcases List.mem_append.mp old with old | last
        · exact publication_of_unrevoked (harmless event old)
        · rw [List.mem_singleton.mp last]
          rfl
      · exact silent event new
  have spent : activation info ∈ later := by
    have shorter := congrArg List.dropLast behind
    rw [List.dropLast_concat, List.dropLast_append_of_ne_nil (List.cons_ne_nil _ _)] at shorter
    rw [shorter]
    exact List.mem_append_left _ (List.mem_append_right _ (List.mem_singleton_self _))
  exact unrevoked _ spent (.inr (.inr (.inr rfl)))

/-- What precedes an attempt to activate. -/
theorem presented_of_lawful {sizeMax : Nat} {log before after : List Event} (lawful : Always (Rule sizeMax) log)
    (split : log = before ++ .state .activating :: after) :
    (exists info, Presented info before) ∧ forall first last, before = first ++ .state .activating :: last ->
      exists event, event ∈ last ∧ event.publication ≠ none := by
  rcases lawful before (.state .activating) after split with ⟨info, presented⟩
  refine ⟨⟨info, presented⟩, ?_⟩
  rintro first last rfl
  rw [List.append_assoc] at split
  rcases lawful first (.state .activating) (last ++ .state .activating :: after) split with ⟨other, used⟩
  exact presented.fresh used

/-- An attempt to activate presents the nonzero generation and the digest of
the result published last, and no two attempts share a result. -/
theorem activation_single_use :
    Always (fun before event => event = .state .activating -> (exists info, Presented info before) ∧
        forall first last, before = first ++ .state .activating :: last ->
          exists event, event ∈ last ∧ event.publication ≠ none)
      (run platform requests (System.initial world)).log := by
  rintro before event after split rfl
  exact presented_of_lawful (run_lawful platform requests world) split

/-- What a write of the boot table follows on: the entry that published a
verified result, entries that did not revoke it, the call that presented it,
and the steps of this one attempt. -/
structure BootWarranted (sizeMax : Nat) (before : List Event) (info : OTAStagedImageInfo)
    (earlier later steps : List Event) : Prop where
  split : before = earlier ++ .published info :: later ++ activation info :: .state .activating :: steps
  verified : Verified sizeMax earlier info
  numbered : info.sessionGeneration ≠ 0
  unrevoked : forall event, event ∈ later -> ¬ Revokes info event
  attempt : forall event, event ∈ steps -> event.bootStep = true

theorem Activating.warranted {sizeMax : Nat} {info : OTAStagedImageInfo} {before : List Event}
    (activating : Activating info before) (lawful : Always (Rule sizeMax) before) :
    exists earlier later steps, BootWarranted sizeMax before info earlier later steps := by
  rcases activating with ⟨_, steps, rfl, ⟨numbered, _, rfl, earlier, later, rfl, unrevoked⟩, attempt⟩
  have split : earlier ++ .published info :: later ++ [activation info] ++ .state .activating :: steps =
      earlier ++ .published info :: (later ++ activation info :: .state .activating :: steps) := by
    simp only [List.append_assoc, List.cons_append, List.nil_append]
  refine ⟨earlier, later, steps, ?_, (lawful earlier _ _ split).2.1, numbered, unrevoked, attempt⟩
  simp only [List.append_assoc, List.cons_append, List.nil_append]

theorem bootWarranted_of_lawful {sizeMax : Nat} {log before after : List Event} {table : OTAStagingBootTable}
    {result : Int} (lawful : Always (Rule sizeMax) log) (split : log = before ++ .writeBootTable table result :: after) :
    exists info earlier later steps, BootWarranted sizeMax before info earlier later steps := by
  rcases lawful before (.writeBootTable table result) after split with ⟨info, activating⟩
  exact ⟨info, activating.warranted (lawful.before split)⟩

/-- The boot table is written only for a verified image. -/
theorem boot_table_written_only_for_verified :
    Always (fun before event => forall table result, event = .writeBootTable table result ->
        exists info earlier later steps, BootWarranted platform.sizeMax before info earlier later steps)
      (run platform requests (System.initial world)).log := by
  rintro before event after split table result rfl
  exact bootWarranted_of_lawful (run_lawful platform requests world) split

/-! ## Abort -/

/-- Nothing behind the publication opens a session or aborts one. -/
theorem BootWarranted.abortsIgnored {sizeMax : Nat} {before : List Event} {info : OTAStagedImageInfo}
    {earlier later steps : List Event} (warranted : BootWarranted sizeMax before info earlier later steps)
    (ignored : AbortsIgnored (sessionLog earlier)) : AbortsIgnored (sessionLog before) := by
  have inner : forall event, event ∈ .published info :: later ++ activation info :: .state .activating :: steps ->
      event.opening = none ∧ event ≠ .aborted := by
    intro event member
    simp only [List.cons_append, List.mem_cons, List.mem_append] at member
    rcases member with rfl | old | rfl | rfl | step
    · exact ⟨rfl, Event.noConfusion⟩
    · have harmless := warranted.unrevoked event old
      constructor
      · by_contra opened
        exact harmless (.inr (.inl opened))
      · exact fun aborted => harmless (.inl aborted)
    · exact ⟨rfl, Event.noConfusion⟩
    · exact ⟨rfl, Event.noConfusion⟩
    · have booting := warranted.attempt event step
      cases event with
      | timeMs _ | readBootTable _ | writeBootTable _ _ | readPersistedBootTable _ =>
          exact ⟨rfl, Event.noConfusion⟩
      | _ => exact absurd booting Bool.false_ne_true
  rw [warranted.split, List.append_assoc, sessionLog,
    since_append_unmarked fun event member => congrArg Option.isSome (inner event member).1]
  exact ignored.append fun event member => (inner event member).2

/-- An aborted session is not published, and the boot table is not written for
it, until the next successful `OTAStagingBegin`.  The one exception is an abort
by a cancellation callback that `OTAStagingFinish` polls and that returns zero
nevertheless: `OTAStagingFinish` then assigns the state over the abort.  Every
abort of a session that gets that far is of this kind. -/
theorem abort_is_final :
    Always (fun before event => (event.publication ≠ none ∨ exists table result,
          event = .writeBootTable table result) -> AbortsIgnored (sessionLog before))
      (run platform requests (System.initial world)).log := by
  have lawful := run_lawful platform requests world
  intro before event after split final
  have rule := lawful before event after split
  rcases final with published | ⟨table, result, rfl⟩
  · cases event with
    | published info => exact rule.2.2
    | _ => exact absurd rfl published
  · rcases rule with ⟨info, activating⟩
    have past := lawful.before split
    rcases activating.warranted past with ⟨earlier, later, steps, warranted⟩
    have issued := past earlier (.published info) (later ++ activation info :: .state .activating :: steps)
      (by rw [warranted.split, List.append_assoc, List.cons_append])
    exact warranted.abortsIgnored issued.2.2

/-! ## Generations -/

theorem publications_numbered_of_lawful {sizeMax : Nat} {log : List Event} (lawful : Always (Rule sizeMax) log) :
    (publications log).map (fun info => info.sessionGeneration.toNat) =
      (List.range (publications log).length).map fun index => index % (2 ^ 32 - 1) + 1 := by
  induction log using List.reverseRecOn with
  | nil => rfl
  | append_singleton log event inductionHypothesis =>
      rcases always_concat.mp lawful with ⟨past, rule⟩
      have earlier := inductionHypothesis past
      cases picked : event.publication with
      | none =>
          rw [publications, filterMap_concat_none picked]
          exact earlier
      | some info =>
          cases event with
          | published other =>
              have same : other = info := Option.some_inj.mp picked
              subst same
              rw [publications, filterMap_concat_some picked, List.map_append, List.length_append,
                List.length_singleton, List.range_succ, List.map_append]
              exact congrArg₂ (· ++ ·) earlier (congrArg (fun number => [number]) rule.1)
          | _ => cases picked

/-- The published results are numbered consecutively from one; zero is left
out, and a number comes back only after `2 ^ 32 - 1` results. -/
theorem publications_numbered :
    (publications (run platform requests (System.initial world)).log).map
        (fun info => info.sessionGeneration.toNat) =
      (List.range (publications (run platform requests (System.initial world)).log).length).map
        fun index => index % (2 ^ 32 - 1) + 1 :=
  publications_numbered_of_lawful (run_lawful platform requests world)

end Runs

/-! ## Streaming calls -/

/-- The session is a function of its terms and of the bytes passed in since it was
opened, apart from its state and its error.  The log agrees about the checks
that the bytes have gone through, about the ranges that were erased and written
and about what was written there. -/
structure Accounted (platform : Platform World) (terms : Terms World) (got : Bytes) (state : OTAStagingState)
    (error : OTAStagingError) (system : System World) : Prop where
  opened : parametersOf system.log = some terms.parameters
  bounded : got.length ≤ terms.packageSize
  session : system.session = sessionAt terms (Stage.after got) state error
  authenticated : 384 ≤ got.length -> Authenticated platform.sizeMax terms.parameters (sessionLog system.log)
  authorised : 392 ≤ got.length -> Authorised platform.sizeMax terms.parameters (sessionLog system.log)
  erased : 392 ≤ got.length -> Tiles 0 (erases (sessionLog system.log)) (declared (sessionLog system.log))
  written : Tiles 0 (writes (sessionLog system.log)) (Stage.after got).stored.length
  contents : forall (Cell : Type) (effect : FlashEffect Cell) (initial : Nat -> Cell),
    replay effect initial (sessionLog system.log) =
      overlay (eraseAll effect initial (erases (sessionLog system.log))) 0
        ((Stage.after got).stored.map effect.write)

section Streams

variable {platform : Platform World} {Kept : World -> List Event -> Prop} {terms : Terms World} {got : Bytes}
  {system : System World}

/-- A streaming session goes on, or a callback has aborted it. -/
theorem Streaming.accounted (streaming : Streaming platform Kept terms false (Stage.after got) [] system)
    (bounded : got.length ≤ terms.packageSize) :
    exists state error, Accounted platform terms got state error system ∧
      (state = .receiving ∧ error = .ok ∨
        state = .cancelled ∧ error = .cancelled ∧ Interrupted (sessionLog system.log)) := by
  have recorded := streaming.recorded
  rcases streaming.held with ⟨state, error, same, alive⟩
  refine ⟨state, error, ⟨recorded.stream.opened, bounded, same, fun complete => ?_, fun started => ?_,
    fun started => ?_, recorded.flash.written, recorded.flash.contents⟩, alive rfl⟩
  · exact recorded.stream.authenticated (decide_eq_true complete)
  · exact recorded.stream.authorised (decide_eq_true started)
  · have cleared := recorded.flash.cleared
    have all : (Stage.after got).cleared = (Stage.after got).limit := if_pos started
    rw [all, recorded.stream.limit (by change 320 ≤ got.length; omega)] at cleared
    exact cleared

end Streams

section Calls

variable (platform : Platform World) (requests : List (Request World)) (world : World)

/-- In every reachable state, a receiving session is accounted for. -/
theorem receiving_accounted
    (receiving : (run platform requests (System.initial world)).session.status.state = .receiving) :
    exists terms, Accounted platform terms
      (streamed (sessionLog (run platform requests (System.initial world)).log)) .receiving .ok
      (run platform requests (System.initial world)) := by
  rcases (run_inv platform requests world).receiving receiving with ⟨terms, got, receivable⟩
  rw [receivable.streaming.stream_eq]
  rcases receivable.streaming.accounted receivable.bounded with
    ⟨_, _, accounted, ⟨rfl, rfl⟩ | ⟨rfl, _⟩⟩
  · exact ⟨terms, accounted⟩
  · rw [accounted.session] at receiving
    cases receiving

/-- The first 1000 bytes of the sample package: the header, its signature and 616
bytes of the payload. -/
theorem receiving_accounted_sample :
    exists terms, Accounted sampleDevice terms (samplePackage.take 1000) .receiving .ok
      (run sampleDevice [.begin (openingFor _ 1408), .writePackage (.data (samplePackage.take 1000))]
        (System.initial fun _ => 0)) := by
  rcases sample_serving [samplePackage.take 1000] (by
    rw [List.flatten_singleton]
    exact List.take_prefix _ _) with ⟨_, _, serving, _⟩
  rw [List.flatten_singleton, sample_fed] at serving
  have accounted := receiving_accounted _ _ _ serving.state
  rw [serving.stream] at accounted
  exact accounted

/-! ### Outcomes -/

/-- What a failed call leaves behind: the error is remembered, the session is
over and its result, if it had one, is void.  `during` is the log at the moment
the call gave up.  The call had opened no other session, and the cause was in
the log of its session. -/
structure Failed (sizeMax : Nat) (call : Call) (system : System World) (reason : OTAStagingError)
    (reached : System World) : Prop where
  cause : exists parameters during,
    reached.log = during ++ [.state reached.session.status.state] ++ [.leave (some reason)] ∧
    Grown (system.log ++ [.enter call]) during ∧ parametersOf during = some parameters ∧
    Cause sizeMax parameters during reason
  state : reached.session.status.state = if reason = .cancelled then .cancelled else .failed
  lastError : reached.session.status.lastError = reason
  void : reached.session.ready.sessionGeneration = 0

/-- How a streaming call can end: it is refused because no session receives, it
succeeds, or it fails for a cause. -/
inductive Outcome (sizeMax : Nat) (call : Call) (Succeeded : System World -> Prop) (system : System World) :
    Option OTAStagingError × System World -> Prop where
  | refused (idle : system.session.status.state ≠ .receiving) :
      Outcome sizeMax call Succeeded system
        (some .invalidState, system.refusing call .invalidState system.world)
  | succeeded (reached : System World) (success : Succeeded reached) :
      Outcome sizeMax call Succeeded system (some .ok, reached)
  | failed (reached : System World) (reason : OTAStagingError)
      (failed : Failed sizeMax call system reason reached) :
      Outcome sizeMax call Succeeded system (some reason, reached)

theorem Excused.failed {Kept : World -> List Event -> Prop} {terms : Terms World} {reason : OTAStagingError}
    {system reached : System World} {call : Call} (excused : Excused platform Kept terms reason reached)
    (opened : parametersOf system.log = some terms.parameters)
    (grown : Grown (system.log ++ [.enter call]) reached.log) :
    Failed platform.sizeMax call system reason ((fail reason reached).2.record (.leave (some reason))) where
  cause := by
    rcases grown.extends with ⟨tail, extended⟩
    exact ⟨terms.parameters, reached.log, rfl, grown, extended.opened.trans opened, excused.cause⟩
  state := rfl
  lastError := rfl
  void := rfl

/-- The chunk was taken as a whole: it is counted, hashed and written behind the
bytes before it.  The session goes on, unless a callback has aborted it: the
call takes the rest of the chunk and reports success then, too. -/
def Took (platform : Platform World) (chunk : PackageChunk) (system reached : System World) : Prop :=
  exists terms state error,
    Accounted platform terms (streamed (sessionLog system.log) ++ chunk.bytes) state error reached ∧
      (state = .receiving ∧ error = .ok ∨
        state = .cancelled ∧ error = .cancelled ∧ Interrupted (sessionLog reached.log))

theorem Inv.writeOutcome {system : System World} (inv : Inv platform system)
    (chunk : PackageChunk) :
    Outcome platform.sizeMax (.writePackage chunk) (Took platform chunk system) system
      (perform platform (.writePackage chunk) system) := by
  by_cases state : system.session.status.state = .receiving
  · rcases inv.receiving state with ⟨terms, got, receivable⟩
    have law := Law.anything platform
    have opened := receivable.streaming.recorded.stream.opened
    rcases writePackage_cases chunk law receivable.callbacks receivable state True.intro with
      ⟨reached, ended, bounded, streaming, _⟩ | ⟨reason, reached, ended, excused, grown⟩
    · simp only [perform, dispatch, Request.call, ended]
      refine .succeeded _ ⟨terms, ?_⟩
      rw [receivable.streaming.stream_eq]
      exact (streaming.leave law (some .ok)).accounted bounded
    · simp only [perform, dispatch, Request.call, ended]
      exact .failed _ reason (excused.failed platform opened grown)
  · have ended : dispatch platform (.writePackage chunk) (system.record (.enter (.writePackage chunk))) =
        (some .invalidState, system.record (.enter (.writePackage chunk))) := if_pos state
    rw [perform_of_refused ended]
    exact .refused state

/-- `OTAStagingWritePackage` always returns.  It takes the chunk as a whole, or
it fails with an error that the log accounts for. -/
theorem writePackage_outcome (chunk : PackageChunk) :
    Outcome platform.sizeMax (.writePackage chunk)
      (Took platform chunk (run platform requests (System.initial world)))
      (run platform requests (System.initial world))
      (perform platform (.writePackage chunk) (run platform requests (System.initial world))) :=
  (run_inv platform requests world).writeOutcome platform chunk

/-- The result is published under the next number, and the log shows that it was
verified. -/
def Staged (platform : Platform World) (system reached : System World) : Prop :=
  reached.session.status.state = .ready ∧ Verified platform.sizeMax reached.log reached.session.ready ∧
    reached.session.ready.sessionGeneration = system.nextGeneration

theorem Inv.finishOutcome {system : System World} (inv : Inv platform system) (given : Bool) :
    Outcome platform.sizeMax (.finish given) (Staged platform system) system
      (perform platform (.finish given) system) := by
  by_cases state : system.session.status.state = .receiving
  · rcases inv.receiving state with ⟨terms, got, receivable⟩
    have law := Law.anything platform
    have opened := receivable.streaming.recorded.stream.opened
    rcases finish_cases given law receivable.callbacks receivable state True.intro with
      ⟨reached, ended, published, _⟩ | ⟨reason, reached, ended, excused, grown⟩
    · simp only [perform, dispatch, Request.call, ended]
      refine .succeeded _ ⟨published.state, published.verified.step rfl rfl rfl rfl, ?_⟩
      rw [receivable.streaming.numbered]
      exact published.generation
    · simp only [perform, dispatch, Request.call, ended]
      exact .failed _ reason (excused.failed platform opened grown)
  · have ended : otaStagingFinish platform given (system.record (.enter (.finish given))) =
        (.invalidState, system.record (.enter (.finish given))) := if_pos state
    rw [perform_of_refused (by rw [dispatch, Request.call, ended]; rfl)]
    exact .refused state

/-- `OTAStagingFinish` reports success only for an image that it has read back
completely and found to have the signed digest, the streamed checksum and the
signed descriptor; every other end is a refusal or has a cause. -/
theorem finish_outcome (given : Bool) :
    Outcome platform.sizeMax (.finish given) (Staged platform (run platform requests (System.initial world)))
      (run platform requests (System.initial world))
      (perform platform (.finish given) (run platform requests (System.initial world))) :=
  (run_inv platform requests world).finishOutcome platform given

/-- The results that refuse a request. -/
def Request.refusedBy : Request World -> OTAStagingError -> Bool
  | .begin _, reason => decide (reason ≠ .ok)
  | .activate _ _, reason => decide (reason = .invalidState ∨ reason = .invalidArgument)
  | _, reason => decide (reason = .invalidState)

/-- A refusal of a streaming call is never the report of a failure. -/
theorem Outcome.refusing {sizeMax : Nat} {call : Call} {Succeeded : System World -> Prop} {system : System World}
    {result : Option OTAStagingError × System World} (outcome : Outcome sizeMax call Succeeded system result)
    (returned : result.1 = some .invalidState) :
    result.2 = system.refusing call .invalidState system.world := by
  cases outcome with
  | refused idle => rfl
  | succeeded reached success => cases returned
  | failed reached reason failed =>
      cases returned
      rcases failed.cause with ⟨_, _, _, _, _, cause⟩
      exact absurd cause.reported Bool.false_ne_true

theorem Inv.refused {system : System World} (inv : Inv platform system) {request : Request World}
    {reason : OTAStagingError} (returned : (perform platform request system).1 = some reason)
    (refused : request.refusedBy reason = true) :
    exists after, (perform platform request system).2 = system.refusing request.call reason after := by
  -- A refusal shows in what the entry point returns.
  have left {other : OTAStagingError} {after : World}
      (ended : dispatch platform request (system.record (.enter request.call)) =
        (some other, { system.record (.enter request.call) with world := after })) :
      exists after, (perform platform request system).2 = system.refusing request.call reason after := by
    rw [perform_of_refused ended] at returned ⊢
    cases returned
    exact ⟨after, rfl⟩
  cases request with
  | begin arguments =>
      rcases otaStagingBegin_cases platform arguments
          (system.record (.enter (.begin arguments.packageSize arguments.trustedPublicKeyDer))) with
        ⟨application, ota, reached, ended, _⟩ | ⟨other, reached, ended, _⟩
      · simp only [perform, dispatch, Request.call, ended] at returned
        cases returned
        exact absurd refused Bool.false_ne_true
      · exact left (by rw [dispatch, Request.call, ended]; rfl)
  | writePackage chunk =>
      have reason := of_decide_eq_true refused
      subst reason
      exact ⟨_, (inv.writeOutcome platform chunk).refusing returned⟩
  | finish given =>
      have reason := of_decide_eq_true refused
      subst reason
      exact ⟨_, (inv.finishOutcome platform given).refusing returned⟩
  | activate sessionGeneration expectedSha256 =>
      rcases activate_cases sessionGeneration expectedSha256 inv with
        ⟨other, ended, _⟩ | ⟨other, reached, ended, attempted, _⟩
      · exact left (by rw [dispatch, Request.call, ended]; rfl)
      · simp only [perform, dispatch, Request.call, ended] at returned
        cases returned
        rcases attempted with rfl | rfl | rfl
        · exact absurd refused Bool.false_ne_true
        · exact absurd refused Bool.false_ne_true
        · exact absurd refused Bool.false_ne_true
  | abort =>
      by_cases active : (system.record (.enter .abort)).session.abortable
      · simp only [perform, dispatch, Request.call, otaStagingAbort_of_abortable active] at returned
        cases returned
        exact absurd refused Bool.false_ne_true
      · exact left (by rw [dispatch, Request.call, otaStagingAbort_of_not_abortable active]; rfl)

/-- A refused call leaves the session and the numbering alone, and it asks
nothing of Flash, of the boot table or of the callbacks. -/
theorem refused_call_changes_nothing (request : Request World) (reason : OTAStagingError)
    (returned : (perform platform request (run platform requests (System.initial world))).1 = some reason)
    (refused : request.refusedBy reason = true) :
    exists after, (perform platform request (run platform requests (System.initial world))).2 =
      (run platform requests (System.initial world)).refusing request.call reason after :=
  (run_inv platform requests world).refused platform returned refused

/-- A result that is ready is not activated without its digest. -/
theorem refused_call_changes_nothing_ready :
    exists after, (perform sampleDevice (.activate 0 none) (run sampleDevice [.begin (openingFor _ 1408),
        .writePackage (.data samplePackage), .finish true] (System.initial fun _ => 0))).2 =
      (run sampleDevice [.begin (openingFor _ 1408), .writePackage (.data samplePackage), .finish true]
        (System.initial fun _ => 0)).refusing (.activate 0 none) .invalidArgument after := by
  refine refused_call_changes_nothing sampleDevice [.begin (openingFor _ 1408),
    .writePackage (.data samplePackage), .finish true] (fun _ => 0) (.activate 0 none) .invalidArgument ?_ rfl
  rcases sample_ready with ⟨reached, ended, ready⟩
  have finished : run sampleDevice [.begin (openingFor _ 1408), .writePackage (.data samplePackage), .finish true]
      (System.initial fun _ => 0) = reached := congrArg Prod.snd ended
  rw [finished]
  simp [perform, dispatch, otaStagingActivate, ready]

/-- The numbers of fewer than `2 ^ 32 - 1` results are different. -/
theorem publications_nodup {sizeMax : Nat} {log : List Event} (lawful : Always (Rule sizeMax) log)
    (few : (publications log).length < 2 ^ 32 - 1) :
    ((publications log).map OTAStagedImageInfo.sessionGeneration).Nodup := by
  apply List.Nodup.of_map UInt32.toNat
  rw [List.map_map]
  refine (congrArg List.Nodup (publications_numbered_of_lawful lawful)).mpr ?_
  apply List.Nodup.map_on _ List.nodup_range
  intro one inside other within same
  rw [List.mem_range] at inside within
  omega

/-- The right to activate belongs to a session and is used once: the boot table is
written only inside an attempt with the result published last, which nothing has
revoked; no two attempts share a result and no two results a number; and a
refused call leaves everything as it was. -/
structure SessionBound (platform : Platform World) (system : System World) : Prop where
  numbered : (publications system.log).length < 2 ^ 32 - 1 ->
    ((publications system.log).map OTAStagedImageInfo.sessionGeneration).Nodup
  written : Always (fun before event => forall table result, event = .writeBootTable table result ->
    exists info earlier later steps, BootWarranted platform.sizeMax before info earlier later steps) system.log
  attempted : Always (fun before event => event = .state .activating -> (exists info, Presented info before) ∧
    forall first last, before = first ++ .state .activating :: last ->
      exists other, other ∈ last ∧ other.publication ≠ none) system.log
  refused : forall request reason, (perform platform request system).1 = some reason ->
    request.refusedBy reason = true -> (perform platform request system).2.session = system.session ∧
      (perform platform request system).2.nextGeneration = system.nextGeneration

theorem activation_session_bound : SessionBound platform (run platform requests (System.initial world)) := by
  have lawful := run_lawful platform requests world
  refine ⟨publications_nodup lawful, ?_, ?_, fun request reason returned refused => ?_⟩
  · rintro before event after split table result rfl
    exact bootWarranted_of_lawful lawful split
  · rintro before event after split rfl
    exact presented_of_lawful lawful split
  · rcases (run_inv platform requests world).refused platform returned refused with ⟨after, same⟩
    rw [same]
    exact ⟨rfl, rfl⟩

end Calls

end Ota
end DevKit

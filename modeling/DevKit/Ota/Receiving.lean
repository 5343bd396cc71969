import DevKit.Ota.Boundary

namespace DevKit
namespace Ota

/-!
# Receiving a package

One triple for each function below `OTAStagingWritePackage`.  The
precondition names the stage before the function and the postcondition the
stage behind it; an early exit always has a cause in the log.
-/

open Procedure

variable {World : Type} {platform : Platform World} {Kept : World -> List Event -> Prop}
  {terms : Terms World} {finishing : Bool} {stage : Stage} {rest : Bytes}

/-- A procedure takes a session from one stage to another, or fails with a cause. -/
abbrev Advances (platform : Platform World) (Kept : World -> List Event -> Prop) (terms : Terms World)
    (before : Stage) (pending : Bytes) (procedure : Staging World Unit) (after : Stage) (left : Bytes) : Prop :=
  Triple (Streaming platform Kept terms false before pending) procedure
    (fun _ => Streaming platform Kept terms false after left) (Excused platform Kept terms)

variable (law : Law platform Kept) (callbacks : CallbacksKeep Kept terms.admission terms.cancellation)

theorem updateSession_triple {change : Session World -> Session World} {pre post : System World -> Prop}
    {exited : OTAStagingError -> System World -> Prop}
    (holds : forall system, pre system -> post (system.withSession (change system.session))) :
    Triple pre (updateSession change) (fun _ => post) exited :=
  Triple.update holds

theorem assign_triple {stage' : Stage} {rest' : Bytes} {change : Session World -> Session World}
    (moves : forall state error, change (sessionAt terms stage state error) = sessionAt terms stage' state error)
    (recorded : forall log, Recorded platform.sizeMax terms.parameters stage rest log ->
      Recorded platform.sizeMax terms.parameters stage' rest' log) :
    Triple (Streaming platform Kept terms finishing stage rest) (updateSession change)
      (fun _ => Streaming platform Kept terms finishing stage' rest') (Excused platform Kept terms) :=
  updateSession_triple fun _ streaming => streaming.assign change moves (recorded _ streaming.recorded)

theorem Streaming.tracked {system : System World}
    (streaming : Streaming platform Kept terms finishing stage rest system) :
    Tracked platform Kept terms finishing stage rest [] system :=
  ⟨streaming, List.nil_suffix⟩

theorem Tracked.mem {system : System World} {tail : List Event} {event : Event}
    (tracked : Tracked platform Kept terms finishing stage rest tail system) (member : event ∈ tail) :
    event ∈ sessionLog system.log :=
  tracked.2.subset member

/-! ## The header -/

include law callbacks in
theorem refused_triple {metadata : OTAStagingMetadata} :
    Triple (Streaming platform Kept terms false stage rest) (refused metadata)
      (fun rejected system => Streaming platform Kept terms false stage rest system ∧
        (terms.parameters.admits = true -> exists answer,
          Event.admission metadata answer ∈ sessionLog system.log ∧
          rejected = decide (answer.result = 0)) ∧
        (terms.parameters.admits = false -> rejected = false))
      (Excused platform Kept terms) := by
  apply currentSession_triple
  intro current streaming
  rw [session_admission streaming]
  cases asked : terms.admission with
  | none =>
      have unasked : terms.parameters.admits = false := by
        rw [Terms.parameters, asked]
        rfl
      apply Triple.pure
      rintro system rfl
      refine ⟨streaming, fun admits => ?_, fun _ => rfl⟩
      rw [unasked] at admits
      exact absurd admits Bool.false_ne_true
  | some callback =>
      have admits : terms.parameters.admits = true := by
        rw [Terms.parameters, asked]
        rfl
      have consulted : Triple (Streaming platform Kept terms false stage rest)
          (consult (callback metadata) (.admission metadata))
          (fun answer system => Sound platform Kept system ∧
            Event.admission metadata answer ∈ sessionLog system.log ∧
            (false = false ∨ answer.result = 0 ->
              Streaming platform Kept terms false stage rest system)) (Excused platform Kept terms) := by
        apply consult_triple law (callbacks.admission callback asked metadata) (fun _ => rfl)
          (fun _ => Event.noConfusion) (fun _ _ => True.intro)
        · intro events answer abort member
          exact ⟨answer, abort, .inr ⟨metadata, member⟩⟩
        · intro before answer given impossible
          exact absurd impossible Bool.false_ne_true
      refine Triple.bind (consulted.start streaming) (fun answer => Triple.pure ?_)
      rintro system ⟨_, member, goesOn⟩
      refine ⟨goesOn (.inl rfl), fun _ => ⟨answer, member, rfl⟩, fun unasked => ?_⟩
      rw [admits] at unasked
      exact absurd unasked.symm Bool.false_ne_true

theorem verifySignature_triple {tail : List Event} {key digest signature : Bytes}
    {exited : OTAStagingError -> System World -> Prop} (law : Law platform Kept) :
    Triple (Tracked platform Kept terms finishing stage rest tail)
      (verifySignature platform key digest signature)
      (fun result => Tracked platform Kept terms finishing stage rest
        (tail ++ [.verifySignature key digest signature result])) exited :=
  ask_triple (law.verifySignature key digest signature) (fun _ => rfl) (fun _ => Event.noConfusion)
    (fun _ _ => True.intro)

/-- A header that decodes is decoded in every log of its stream. -/
theorem StreamRecorded.decoded {sizeMax : Nat} {parameters : SessionParameters} {log : List Event}
    (recorded : StreamRecorded sizeMax parameters stage rest log) (full : 384 ≤ stage.stream.length)
    (accepted : HeaderAccepted sizeMax parameters stage.header.bytes) :
    Decoded sizeMax parameters (sessionLog log) where
  complete := Nat.le_trans full recorded.length_le
  accepted := by
    rw [← recorded.header (by omega)]
    exact decodeHeader_ok_iff.mpr accepted

/-- The header's signature check, as the log of its stream has it. -/
theorem StreamRecorded.check {sizeMax : Nat} {parameters : SessionParameters} {log : List Event}
    (recorded : StreamRecorded sizeMax parameters stage rest log) (full : 384 ≤ stage.stream.length)
    (started : UInt32) (result : Int) (finished : UInt32) :
    [] ++ [.timeMs started] ++ [.verifySignature parameters.publicKey.bytes (sha256 stage.header.bytes)
      (Buffer.window 64 320 stage.stream).bytes result] ++ [.timeMs finished] =
    signatureCheck parameters (sessionLog log) started result finished := by
  rw [recorded.header (by omega), recorded.signature full, sha256_eq]
  rfl

theorem Streaming.verify {system : System World}
    (streaming : Streaming platform Kept terms finishing stage rest system)
    (signed : Signed platform.sizeMax terms.parameters (sessionLog system.log)) :
    Streaming platform Kept terms finishing { stage with verified := true } rest system :=
  streaming.restage (fun _ _ => rfl)
    ⟨{ streaming.recorded.stream with signed := fun _ => signed }, { streaming.recorded.flash with },
      { streaming.recorded.readBack with }⟩

theorem Streaming.authenticate {system : System World}
    (streaming : Streaming platform Kept terms finishing { stage with verified := true } rest system)
    (admitted : terms.parameters.admits = true -> exists answer, Event.admission
      (headerMetadata (headerOf (sessionLog system.log))) answer ∈ sessionLog system.log ∧
      answer.result ≠ 0) :
    Streaming platform Kept terms finishing { stage with verified := true, authenticated := true } rest
      (system.withSession { system.session with authenticated := true }) := by
  have signed := streaming.recorded.stream.signed rfl
  refine streaming.assign (fun session => { session with authenticated := true }) (fun _ _ => rfl)
    ⟨?_, { streaming.recorded.flash with }, { streaming.recorded.readBack with }⟩
  exact { streaming.recorded.stream with authenticated := fun _ => ⟨signed, admitted⟩ }

include law callbacks in
/-- The signature and the admission of a header that decodes. -/
theorem authenticateHeader_triple (decoded : stage.decoded = true) (full : 384 ≤ stage.stream.length)
    (accepted : HeaderAccepted platform.sizeMax terms.parameters stage.header.bytes) :
    Advances platform Kept terms stage rest (authenticateHeader platform)
      { stage with verified := true, authenticated := true } rest := by
  apply currentSession_triple
  intro current streaming
  rcases streaming.held with ⟨state, error, same, _⟩
  rw [same]
  simp only [sessionAt]
  rw [if_pos decoded]
  refine Triple.bind ((pollCancellation_triple law callbacks).start streaming) (fun _ => ?_)
  refine Triple.bind ((timeMs_triple law).strengthen fun _ => Streaming.tracked) (fun started => ?_)
  refine Triple.bind (verifySignature_triple law) (fun verification => ?_)
  have refusal : forall system, Tracked platform Kept terms false stage rest
      ([] ++ [.timeMs started] ++ [.verifySignature terms.publicKey.bytes (sha256 stage.header.bytes)
        (Buffer.window 64 320 stage.stream).bytes verification]) system -> verification ≠ 0 ->
      Excused platform Kept terms (if verification = -2 then .keyFormat else .signature) system := by
    intro system tracked bad
    have recorded := tracked.1.recorded.stream
    refine ⟨tracked.1.sound, .verification verification (recorded.decoded full accepted) ?_ bad⟩
    rw [← recorded.header (by omega), ← recorded.signature full, ← sha256_eq]
    exact tracked.mem (List.mem_append_right _ (List.mem_singleton_self _))
  apply Triple.guard
  · intro malformed system tracked
    have excused := refusal system tracked (by rw [malformed]; decide)
    rwa [if_pos malformed] at excused
  intro formed
  apply Triple.guard
  · intro bad system tracked
    have excused := refusal system tracked bad
    rwa [if_neg formed] at excused
  intro good
  rw [not_not] at good
  subst good
  refine Triple.bind (enforceLimit_triple law ?_) (fun _ => ?_)
  · intro system finished tracked late
    have recorded := tracked.1.recorded.stream
    refine ⟨tracked.1.sound, .signatureTimeout started finished (recorded.decoded full accepted) ?_ late⟩
    rw [← recorded.check full]
    exact tracked.2.isInfix
  have verified : forall system, (exists finished, Tracked platform Kept terms false stage rest
      ([] ++ [.timeMs started] ++ [.verifySignature terms.publicKey.bytes (sha256 stage.header.bytes)
        (Buffer.window 64 320 stage.stream).bytes 0] ++ [.timeMs finished]) system ∧
      finished - started ≤ 5000) ->
      Streaming platform Kept terms false { stage with verified := true } rest system := by
    rintro system ⟨finished, tracked, inTime⟩
    have recorded := tracked.1.recorded.stream
    refine tracked.1.verify ⟨recorded.decoded full accepted, started, finished, ?_, inTime⟩
    rw [← recorded.check full]
    exact tracked.2.isInfix
  refine Triple.bind (Triple.strengthen (pollCancellation_triple law callbacks) verified) (fun _ => ?_)
  refine Triple.bind (refused_triple law callbacks) (fun rejected => ?_)
  apply Triple.guard
  · rintro turnedAway system ⟨streaming, asked, unasked⟩
    have recorded := streaming.recorded.stream
    cases admits : terms.parameters.admits with
    | false => exact absurd (turnedAway.symm.trans (unasked admits)).symm Bool.false_ne_true
    | true =>
        rcases asked admits with ⟨answer, member, same⟩
        refine ⟨streaming.sound, .admission answer (recorded.signed rfl) admits ?_ ?_⟩
        · rw [← recorded.header (by simp only; omega)]
          exact member
        · exact of_decide_eq_true (same.symm.trans turnedAway)
  intro letPass
  apply updateSession_triple
  rintro system ⟨streaming, asked, _⟩
  apply streaming.authenticate
  intro admits
  rcases asked admits with ⟨answer, member, same⟩
  refine ⟨answer, ?_, fun zero => letPass (same.trans (decide_eq_true zero))⟩
  rw [← streaming.recorded.stream.header (by simp only; omega)]
  exact member

include law callbacks in
theorem validateHeader_triple (full : 384 ≤ stage.stream.length) :
    Advances platform Kept terms stage rest (validateHeader platform)
      { stage with decoded := true, verified := true, authenticated := true } rest := by
  apply currentSession_triple
  intro current streaming
  rcases streaming.held with ⟨state, error, same, _⟩
  have parameters : current.session.parameters = terms.parameters := by
    rw [same]
    rfl
  have header : current.session.header = stage.header := by
    rw [same]
    rfl
  rw [parameters, header]
  by_cases accepted : HeaderAccepted platform.sizeMax terms.parameters stage.header.bytes
  · rw [accepted.outcome]
    have assigned : Advances platform Kept terms stage rest (updateSession fun session => { session with
        payloadSize := headerPayloadSize stage.header.bytes, metadata := headerMetadata stage.header.bytes })
        { stage with decoded := true } rest :=
      assign_triple (fun _ _ => rfl) fun _ recorded =>
        ⟨{ recorded.stream with }, { recorded.flash with }, { recorded.readBack with }⟩
    refine (assigned.start streaming).bind (fun _ => ?_)
    apply Triple.require
    · intro reason impossible
      cases impossible
    intro _ _
    exact authenticateHeader_triple law callbacks rfl full accepted
  · have assigned : Triple (fun system => system = current) (updateSession fun session => { session with
        payloadSize := (decodeHeader platform.sizeMax terms.parameters stage.header.bytes).payloadSize.getD
          session.payloadSize
        metadata := (decodeHeader platform.sizeMax terms.parameters stage.header.bytes).metadata.getD
          session.metadata })
        (fun _ system => Sound platform Kept system ∧
          StreamRecorded platform.sizeMax terms.parameters stage rest system.log)
        (Excused platform Kept terms) := by
      apply updateSession_triple
      rintro system rfl
      exact ⟨streaming.sound.withSession _, streaming.recorded.stream⟩
    refine assigned.bind (fun _ => ?_)
    apply Triple.require
    · rintro reason rejected system ⟨sound, recorded⟩
      refine ⟨sound, .header reason (Nat.le_trans full recorded.length_le) ?_⟩
      rw [← recorded.header (by omega)]
      exact rejected
    · intro _ impossible
      exact absurd (decodeHeader_ok_iff.mp impossible) accepted

/-! ## Erasing -/

theorem toNat_ofNat_of_lt {value : Nat} {bound : UInt32} (small : value ≤ bound.toNat) :
    (UInt32.ofNat value).toNat = value := by
  have := bound.toNat_lt
  rw [UInt32.toNat_ofNat', Nat.mod_eq_of_lt (by omega)]

theorem FlashRecorded.erase {log : List Event} {offset : UInt32} (recorded : FlashRecorded stage log)
    (checked : stage.checked = true) (empty : stage.stored = []) (start : offset.toNat = stage.cleared)
    (more : stage.cleared < stage.limit) :
    FlashRecorded { stage with cleared := stage.cleared + min (stage.limit - stage.cleared) 4096 }
      (log ++ [.eraseOta offset (min (stage.limit - stage.cleared) 4096) 0]) := by
  have erased : erases (sessionLog (log ++ [.eraseOta offset (min (stage.limit - stage.cleared) 4096) 0])) =
      erases (sessionLog log) ++ [(stage.cleared, min (stage.limit - stage.cleared) 4096)] := by
    rw [sessionLog_concat rfl, ← start]
    exact filterMap_concat_some rfl
  refine ⟨?_, ?_, ?_, ?_, ?_⟩
  · intro unchecked
    exact absurd (unchecked.symm.trans checked) Bool.false_ne_true
  · rw [erased]
    exact tiles_concat recorded.cleared (by omega)
  · intro _
    rw [erased, List.append_assoc, List.singleton_append]
    have planned := recorded.planned checked
    rw [blocksFrom_of_lt more] at planned
    exact planned
  · rw [sessionLog_concat rfl, writes, filterMap_concat_none rfl]
    exact recorded.written
  · intro Cell effect initial
    have contents := recorded.contents Cell effect initial
    rw [empty, List.map_nil, overlay_nil] at contents
    rw [erased, sessionLog_concat rfl, replay_concat, contents, eraseAll_concat, ← start]
    change _ = overlay _ 0 (stage.stored.map effect.write)
    rw [empty, List.map_nil, overlay_nil]
    rfl

include law callbacks in
/-- One block: the range is new, inside the payload, and behind every check. -/
theorem eraseBlock_triple (full : 392 ≤ stage.stream.length)
    (checked : stage.checked = true) (empty : stage.stored = []) {offset : Nat} (more : offset < stage.limit) :
    Advances platform Kept terms { stage with cleared := offset } rest
      (eraseBlock platform offset (min (stage.limit - offset) 4096))
      { stage with cleared := offset + min (stage.limit - offset) 4096 } rest := by
  have start : (UInt32.ofNat offset).toNat = offset := toNat_ofNat_of_lt (Nat.le_of_lt more)
  refine Triple.bind (pollCancellation_triple law callbacks) (fun _ => ?_)
  refine Triple.bind ((timeMs_triple law).strengthen fun _ => Streaming.tracked) (fun started => ?_)
  have asked : Triple (Tracked platform Kept terms false { stage with cleared := offset } rest
        ([] ++ [.timeMs started]))
      (eraseOta platform (UInt32.ofNat offset) (min (stage.limit - offset) 4096))
      (fun result system => Sound platform Kept system ∧
        Event.eraseOta (UInt32.ofNat offset) (min (stage.limit - offset) 4096) result ∈ sessionLog system.log ∧
        (result = 0 -> Tracked platform Kept terms false
          { stage with cleared := offset + min (stage.limit - offset) 4096 } rest
          ([.timeMs started] ++
            [.eraseOta (UInt32.ofNat offset) (min (stage.limit - offset) 4096) result]) system))
      (Excused platform Kept terms) := by
    apply invoke_triple
    rintro system ⟨streaming, recent⟩
    have recorded := streaming.recorded
    have limit := recorded.stream.limit (by simp only; omega)
    have rule : Rule platform.sizeMax system.log (.eraseOta (UInt32.ofNat offset)
        (min (stage.limit - offset) 4096) (platform.eraseOta (UInt32.ofNat offset)
          (min (stage.limit - offset) 4096) system.world).1) := by
      refine ⟨by omega, ?_, ?_, terms.parameters, recorded.stream.opened, recorded.stream.authorised checked⟩
      · rw [← limit, start]
        change _ ≤ stage.limit
        omega
      · rw [start]
        exact recorded.flash.cleared
    have kept := law.eraseOta (UInt32.ofNat offset) (min (stage.limit - offset) 4096) _ _ streaming.sound.kept rule
    refine ⟨streaming.sound.record rule rfl kept, ?_, fun success => ⟨?_, ?_⟩⟩
    · rw [System.respond_log, sessionLog_concat rfl]
      exact List.mem_append_right _ (List.mem_singleton_self _)
    · refine streaming.extend id (fun impossible => absurd impossible Bool.false_ne_true) rfl rfl rfl
        Event.noConfusion rule kept (fun _ _ => rfl) ⟨?_, ?_, ?_⟩
      · exact { recorded.stream.step rfl rfl with }
      · rw [success]
        exact recorded.flash.erase checked empty start more
      · exact { recorded.readBack.step rfl rfl with }
    · rw [System.respond_log, sessionLog_concat rfl, List.suffix_append_inj_of_length_eq rfl]
      exact ⟨recent, rfl⟩
  refine asked.bind (fun result => ?_)
  apply Triple.guard
  · rintro bad system ⟨sound, member, _⟩
    exact ⟨sound, .erase _ _ result member bad⟩
  intro good
  rw [not_not] at good
  refine (enforceLimit_triple law ?_).weaken (fun _ answered => answered.2.2 good) ?_ (fun _ _ holds => holds)
  · intro system finished tracked late
    exact ⟨tracked.1.sound, .eraseTimeout started _ _ result finished tracked.2.isInfix late⟩
  · rintro _ system ⟨finished, tracked, _⟩
    exact tracked.1

theorem erasePayloadRange_triple (stage : Stage) (law : Law platform Kept)
    (callbacks : CallbacksKeep Kept terms.admission terms.cancellation) (full : 392 ≤ stage.stream.length)
    (decoded : stage.decoded = true) (checked : stage.checked = true) (empty : stage.stored = []) :
    Advances platform Kept terms { stage with cleared := 0 } rest (erasePayloadRange platform)
      { stage with cleared := stage.limit, erased := true } rest := by
  apply currentSession_triple
  intro current streaming
  have size : current.session.payloadSize.toNat = stage.limit := by
    rcases streaming.held with ⟨state, error, same, _⟩
    rw [same]
    exact congrArg UInt32.toNat (if_pos decoded)
  rw [size]
  have loop : Advances platform Kept terms { stage with cleared := 0 } rest
      (Procedure.blockwise 4096 (by decide) stage.limit
        (fun offset size _ => eraseBlock platform offset size) 0 ())
      { stage with cleared := stage.limit } rest :=
    Triple.blockwise
      (fun offset _ => Streaming platform Kept terms false { stage with cleared := offset } rest)
      (fun offset _ more => eraseBlock_triple law callbacks full checked empty more) 0 () (Nat.zero_le _)
  refine Triple.bind (loop.start streaming) (fun _ => ?_)
  exact assign_triple (fun _ _ => rfl) fun _ recorded =>
    ⟨{ recorded.stream with }, { recorded.flash with }, { recorded.readBack with }⟩

/-! ## Writing -/

theorem FlashRecorded.write {log : List Event} {offset reached : UInt32} {block : Bytes}
    (recorded : FlashRecorded stage log) (start : offset.toNat = stage.stored.length)
    (advanced : reached.toNat = offset.toNat + block.length) (positive : 0 < block.length) :
    FlashRecorded { stage with stored := stage.stored ++ block }
      (log ++ [.writeOta offset block 0 reached]) := by
  have erased : erases (sessionLog (log ++ [.writeOta offset block 0 reached])) =
      erases (sessionLog log) := by
    rw [sessionLog_concat rfl]
    exact filterMap_concat_none rfl
  have written : writes (sessionLog (log ++ [.writeOta offset block 0 reached])) =
      writes (sessionLog log) ++ [(stage.stored.length, block.length)] := by
    rw [sessionLog_concat rfl, ← start]
    exact filterMap_concat_some rfl
  refine ⟨?_, ?_, ?_, ?_, ?_⟩
  · rw [erased]
    exact recorded.untouched
  · rw [erased]
    exact recorded.cleared
  · rw [erased]
    exact recorded.planned
  · rw [written, List.length_append]
    exact tiles_concat recorded.written positive
  · intro Cell effect initial
    have applied : forall memory, effect.apply memory (.writeOta offset block 0 reached) =
        overlay memory offset.toNat (block.map effect.write) := fun memory => if_pos ⟨rfl, advanced⟩
    rw [erased, sessionLog_concat rfl, replay_concat, applied, recorded.contents, List.map_append,
      overlay_append, List.length_map, Nat.zero_add, start]

theorem eraseAll_blank {ranges : List (Nat × Nat)} {memory : Nat -> Option UInt8} {address : Nat}
    (blank : memory address = some 0xFF ∨
      exists range, range ∈ ranges ∧ range.1 ≤ address ∧ address < range.1 + range.2) :
    eraseAll remembered memory ranges address = some 0xFF := by
  induction ranges generalizing memory with
  | nil =>
      rcases blank with blank | ⟨_, member, _⟩
      · exact blank
      · exact absurd member List.not_mem_nil
  | cons range ranges inductionHypothesis =>
      apply @inductionHypothesis (remembered.erase range.1 range.2 memory)
      rcases blank with blank | ⟨other, member, inside⟩
      · exact .inl (if_pos (.inl blank))
      · rcases List.mem_cons.mp member with rfl | later
        · exact .inl (if_pos (.inr inside))
        · exact .inr ⟨other, later, inside⟩

/-- Everything is erased, and what lies behind the bytes stored so far is blank. -/
theorem FlashRecorded.blank {log : List Event} {size : Nat} (recorded : FlashRecorded stage log)
    (cleared : stage.cleared = stage.limit) (fits : stage.stored.length + size ≤ stage.limit) :
    Blank (sessionLog log) stage.stored.length size := by
  intro address above below
  have erased := tiles_covers recorded.cleared (Nat.zero_le address) (by omega)
  rw [recorded.contents, overlay_outside _ (.inr ?_)]
  · exact eraseAll_blank (.inr erased)
  · rw [List.length_map]
    omega

/-- The stage after bytes have been written and accounted for. -/
def Stage.wrote (stage : Stage) (bytes : Bytes) : Stage :=
  { stage with stored := bytes, done := bytes }

/-- The check behind a Flash operation, without wrap-around. -/
theorem advanced_iff (start reached : UInt32) (size : Nat) :
    ¬ (reached < start ∨ (reached - start).toNat ≠ size) <-> reached.toNat = start.toNat + size := by
  rw [not_or, not_not, UInt32.lt_iff_toNat_lt, Nat.not_lt]
  constructor
  · rintro ⟨below, difference⟩
    rw [UInt32.toNat_sub_of_le _ _ (UInt32.le_iff_toNat_le.mpr below)] at difference
    omega
  · intro same
    have below : start.toNat ≤ reached.toNat := by omega
    refine ⟨below, ?_⟩
    rw [UInt32.toNat_sub_of_le _ _ (UInt32.le_iff_toNat_le.mpr below)]
    omega

include law callbacks in
/-- One block: it starts where the last one ended and stays inside the payload. -/
theorem writeBlock_triple {written block : Bytes} (full : 392 ≤ stage.stream.length)
    (checked : stage.checked = true) (cleared : stage.cleared = stage.limit) (positive : 1 ≤ block.length)
    (small : block.length ≤ 512) (fits : written.length + block.length ≤ stage.limit) :
    Advances platform Kept terms (stage.wrote written) rest (writeBlock platform block)
      (stage.wrote (written ++ block)) rest := by
  have start : (UInt32.ofNat written.length).toNat = written.length := by
    have below : written.length ≤ (headerPayloadSize stage.header.bytes).toNat := by
      change _ ≤ stage.limit
      omega
    exact toNat_ofNat_of_lt below
  refine Triple.bind (pollCancellation_triple law callbacks) (fun _ => ?_)
  apply currentSession_triple
  intro current streaming
  have offset : current.session.writeOffset = UInt32.ofNat written.length := by
    rcases streaming.held with ⟨state, error, same, _⟩
    rw [same]
    rfl
  rw [offset]
  refine Triple.bind ((timeMs_triple law).start streaming.tracked) (fun started => ?_)
  refine Triple.bind invoke_known (fun answer => ?_)
  have assigned : Triple
      (fun system => exists prior, Tracked platform Kept terms false (stage.wrote written) rest
        ([] ++ [.timeMs started]) prior ∧
        answer = (platform.writeOta (UInt32.ofNat written.length) block prior.world).1 ∧
        system = prior.respond (platform.writeOta (UInt32.ofNat written.length) block prior.world).2
          (.writeOta (UInt32.ofNat written.length) block
            (platform.writeOta (UInt32.ofNat written.length) block prior.world).1.result
            (platform.writeOta (UInt32.ofNat written.length) block prior.world).1.offset))
      (updateSession fun session => { session with writeOffset := answer.offset })
      (fun _ system => Sound platform Kept system ∧
        Event.writeOta (UInt32.ofNat written.length) block answer.result answer.offset ∈
          sessionLog system.log ∧
        (answer.result = 0 -> answer.offset.toNat = (UInt32.ofNat written.length).toNat + block.length ->
          Tracked platform Kept terms false { stage.wrote written with stored := written ++ block } rest
            ([.timeMs started] ++ [.writeOta (UInt32.ofNat written.length) block answer.result
              answer.offset]) system))
      (Excused platform Kept terms) := by
    apply updateSession_triple
    rintro _ ⟨prior, ⟨streaming, recent⟩, rfl, rfl⟩
    have recorded := streaming.recorded
    have limit := recorded.stream.limit (by change _ ≤ stage.stream.length; omega)
    have rule : Rule platform.sizeMax prior.log (.writeOta (UInt32.ofNat written.length) block
        (platform.writeOta (UInt32.ofNat written.length) block prior.world).1.result
        (platform.writeOta (UInt32.ofNat written.length) block prior.world).1.offset) := by
      refine ⟨positive, small, ?_, ?_, ?_, ?_, terms.parameters, recorded.stream.opened,
        recorded.stream.authorised checked⟩
      · rw [start, ← limit]
        exact fits
      · rw [← limit]
        have tiles := recorded.flash.cleared
        change Tiles 0 _ stage.cleared at tiles
        rw [cleared] at tiles
        exact tiles
      · rw [start]
        exact recorded.flash.written
      · rw [start]
        exact recorded.flash.blank cleared fits
    have kept := law.writeOta (UInt32.ofNat written.length) block _ _ streaming.sound.kept rule
    refine ⟨(streaming.sound.record rule rfl kept).withSession _, ?_, fun success advanced => ⟨?_, ?_⟩⟩
    · rw [System.withSession_log, System.respond_log, sessionLog_concat rfl]
      exact List.mem_append_right _ (List.mem_singleton_self _)
    · refine streaming.extend (fun session => { session with
        writeOffset := (platform.writeOta (UInt32.ofNat written.length) block prior.world).1.offset })
        (fun impossible => absurd impossible Bool.false_ne_true) rfl rfl rfl Event.noConfusion rule kept
        (fun state error => ?_) ⟨?_, ?_, ?_⟩
      · have moved : (platform.writeOta (UInt32.ofNat written.length) block prior.world).1.offset =
            UInt32.ofNat (written ++ block).length := by
          rw [start] at advanced
          rw [List.length_append, ← advanced, UInt32.ofNat_toNat]
        rw [moved]
        rfl
      · exact { recorded.stream.step rfl rfl with }
      · rw [success]
        exact recorded.flash.write start advanced positive
      · exact { recorded.readBack.step rfl rfl with }
    · rw [System.withSession_log, System.respond_log, sessionLog_concat rfl,
        List.suffix_append_inj_of_length_eq rfl]
      exact ⟨recent, rfl⟩
  refine assigned.bind (fun _ => ?_)
  apply Triple.guard
  · rintro bad system ⟨sound, member, _⟩
    exact ⟨sound, .write _ _ _ _ member bad⟩
  intro good
  rw [not_not] at good
  apply Triple.guard
  · rintro short system ⟨sound, member, _⟩
    refine ⟨sound, .shortWrite _ _ _ _ member (fun advanced => ?_)⟩
    exact (advanced_iff _ _ _).mpr advanced short
  intro advanced
  rw [advanced_iff] at advanced
  refine Triple.bind ((enforceLimit_triple law ?_).weaken (fun _ answered => answered.2.2 good advanced)
    (fun _ _ finished => finished.elim fun _ tracked => tracked.1.1) (fun _ _ holds => holds)) (fun _ => ?_)
  · intro system finished tracked late
    exact ⟨tracked.1.sound, .writeTimeout started _ _ _ _ finished tracked.2.isInfix late⟩
  refine assign_triple (fun state error => ?_) fun _ recorded =>
    ⟨{ recorded.stream with }, { recorded.flash with }, { recorded.readBack with }⟩
  simp only [sessionAt, Stage.wrote, List.length_append, sha256Update_append, crc16Update_append]
  rfl

theorem writePayload_triple (stage : Stage) {written data : Bytes} (law : Law platform Kept)
    (callbacks : CallbacksKeep Kept terms.admission terms.cancellation) (full : 392 ≤ stage.stream.length)
    (checked : stage.checked = true) (cleared : stage.cleared = stage.limit)
    (fits : written.length + data.length ≤ stage.limit) :
    Advances platform Kept terms (stage.wrote written) rest (writePayload platform data)
      (stage.wrote (written ++ data)) rest := by
  have loop : Advances platform Kept terms (stage.wrote (written ++ data.take 0)) rest (writePayload platform data)
      (stage.wrote (written ++ data.take data.length)) rest := by
    refine Triple.blockwise
      (fun offset _ => Streaming platform Kept terms false (stage.wrote (written ++ data.take offset)) rest)
      (fun offset _ more => ?_) 0 () (Nat.zero_le _)
    have length := length_slice data offset (min (data.length - offset) 512) (by omega)
    have joined : data.take (offset + min (data.length - offset) 512) =
        data.take offset ++ slice data offset (min (data.length - offset) 512) :=
      List.take_add
    rw [joined, ← List.append_assoc]
    apply writeBlock_triple law callbacks full checked cleared
    · omega
    · omega
    · rw [length, List.length_append, List.length_take]
      omega
  rw [List.take_zero, List.append_nil, List.take_length] at loop
  exact loop

/-! ## The vector table -/

/-- The stage once the vector table has been checked and the range erased. -/
def Stage.opened (stage : Stage) : Stage :=
  { stage with checked := true, cleared := stage.limit, erased := true }

include law callbacks in
theorem startPayload_triple (full : 392 ≤ stage.stream.length)
    (decoded : stage.decoded = true) (authenticated : stage.authenticated = true)
    (unchecked : stage.checked = false) (unstored : stage.stored = []) (undone : stage.done = [])
    (fits : 8 ≤ stage.limit) :
    Advances platform Kept terms stage rest (startPayload platform)
      (stage.opened.wrote (Buffer.window 8 384 stage.stream).bytes) rest := by
  apply currentSession_triple
  intro current streaming
  have recorded := streaming.recorded
  rcases streaming.held with ⟨state, error, same, _⟩
  rw [same]
  simp only [sessionAt]
  rw [if_pos decoded]
  apply Triple.require
  · rintro reason rejected system rfl
    refine ⟨streaming.sound, .vectors reason (recorded.stream.authenticated authenticated)
      (Nat.le_trans full recorded.stream.length_le) ?_⟩
    rw [← recorded.stream.vectors full, ← recorded.stream.header (by omega)]
    exact rejected
  intro _ valid
  have checked : Streaming platform Kept terms false
      { stage with checked := true, cleared := 0 } rest current := by
    refine streaming.restage (fun _ _ => rfl) ⟨?_, ?_, { recorded.readBack with }⟩
    · refine { recorded.stream with authorised := fun _ => ?_ }
      refine ⟨recorded.stream.authenticated authenticated, Nat.le_trans full recorded.stream.length_le, ?_⟩
      rw [← recorded.stream.vectors full, ← recorded.stream.header (by omega)]
      exact valid
    · have untouched := recorded.flash.untouched unchecked
      refine ⟨fun _ => untouched, ?_, fun _ => ?_, recorded.flash.written, recorded.flash.contents⟩
      · rw [untouched]
        rfl
      · rw [untouched]
        rfl
  have erased : Advances platform Kept terms { stage with checked := true, cleared := 0 } rest
      (erasePayloadRange platform) (stage.opened.wrote []) rest := by
    have empty : stage.opened.wrote [] = stage.opened := by
      simp only [Stage.wrote, Stage.opened, unstored, undone]
    rw [empty]
    exact erasePayloadRange_triple { stage with checked := true } law callbacks full decoded rfl unstored
  refine Triple.bind (erased.start checked) (fun _ => ?_)
  have length := (Buffer.window 8 384 stage.stream).length_eq
  have copied : Advances platform Kept terms (stage.opened.wrote []) rest
      (writePayload platform (Buffer.window 8 384 stage.stream).bytes)
      (stage.opened.wrote ([] ++ (Buffer.window 8 384 stage.stream).bytes)) rest := by
    apply writePayload_triple stage.opened law callbacks full rfl rfl
    rw [length]
    exact fits
  exact copied

end Ota
end DevKit

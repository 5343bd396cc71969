import DevKit.Ota.Lifecycle

namespace DevKit
namespace Ota

/-!
# Faithful Flash

A platform is faithful when its reads return what Flash holds and its accepted
writes to erased cells store what they were given, as those of NOR Flash do.
Nothing is assumed about operations that report a failure: after one of these
the contents count as unknown, which is the memory of `Option` cells that
`Mirrors` compares with.

Two laws follow, one for reads and one for writes.  Together they say that the
image read back by `OTAStagingFinish` is the payload that was streamed in.
-/

variable {World : Type} {platform : Platform World} {contents : World -> Nat -> UInt8}
  {got : Bytes}

/-! ## Readings of a log that a call has extended -/

theorem chunk_of_unentered {event : Event} (within : event.entered = none) : event.chunk = [] := by
  cases event with
  | enter call => exact absurd within (Option.some_ne_none _)
  | _ => rfl

/-- What a call with the inner entries `tail` adds to the readings of a log. -/
structure Extends (log : List Event) (call : Call) (final tail : List Event) : Prop where
  session : sessionLog final = sessionLog log ++ [.enter call] ++ tail
  inner : callLog final = tail
  last : lastCall final = some call
  opened : parametersOf final = parametersOf log
  stream : streamed (sessionLog final) = streamed (sessionLog log) ++ (Event.enter call).chunk

theorem Grown.extends {log final : List Event} {call : Call} (grown : Grown (log ++ [.enter call]) final) :
    exists tail, Extends log call final tail := by
  rcases grown with ⟨tail, rfl, inner⟩
  have session : sessionLog (log ++ [.enter call] ++ tail) = sessionLog log ++ [.enter call] ++ tail := by
    have unmarked := fun event member => congrArg Option.isSome (inner event member).2
    rw [sessionLog, since_append_unmarked unmarked, since_concat_unmarked rfl, sessionLog]
  have silent : streamed tail = [] :=
    List.flatMap_eq_nil_iff.mpr fun event member => chunk_of_unentered (inner event member).1
  refine ⟨tail, session, ?_, ?_, ?_, ?_⟩
  · have unmarked := fun event member => congrArg Option.isSome (inner event member).1
    rw [callLog, since_append_unmarked unmarked]
    exact congrArg (· ++ tail) (callLog_enter log call)
  · rw [lastCall, latest_append_none fun event member => (inner event member).1]
    exact latest_concat_some rfl
  · rw [parametersOf, latest_append_none fun event member => (inner event member).2]
    exact latest_concat_none rfl
  · rw [session, streamed_append, silent, List.append_nil, streamed_concat]

theorem replay_of_still {Cell : Type} (effect : FlashEffect Cell) (initial : Nat -> Cell) (events : List Event)
    {tail : List Event} (still : forall event, event ∈ tail -> event.flash = false) :
    replay effect initial (events ++ tail) = replay effect initial events := by
  induction tail using List.reverseRecOn with
  | nil => rw [List.append_nil]
  | append_singleton entries entry inductionHypothesis =>
      have last := still entry (List.mem_append_right _ (List.mem_singleton_self entry))
      rw [← List.append_assoc, replay_concat, apply_of_still last]
      exact inductionHypothesis fun other member => still other (List.mem_append_left _ member)

/-! ## Reads -/

/-- Successful reads return the contents, and nothing but a Flash operation
changes them. -/
structure FaithfulReads (platform : Platform World) (contents : World -> Nat -> UInt8) : Prop where
  readOta : forall offset size world, (platform.readOta offset size world).1.result = 0 ->
    (platform.readOta offset size world).1.data.bytes = load (contents world) offset.toNat size
  reading : forall offset size world, contents (platform.readOta offset size world).2 = contents world
  timeMs : forall world, contents (platform.timeMs world).2 = contents world
  verifySignature : forall key digest signature world,
    contents (platform.verifySignature key digest signature world).2 = contents world

/-- The callbacks do not touch Flash either. -/
structure SparesFlash (contents : World -> Nat -> UInt8) (admission : Option (OTAAdmissionCallback World))
    (cancellation : Option (OTACancellationCallback World)) : Prop where
  whenAdmitting : forall callback, admission = some callback -> forall metadata world,
    contents (callback metadata world).2 = contents world
  whenPolled : forall callback, cancellation = some callback -> forall world,
    contents (callback world).2 = contents world

/-- The successful reads of a call that leaves Flash alone agree with the
contents. -/
def ReadsMatch (contents : World -> Nat -> UInt8) (world : World) (log : List Event) : Prop :=
  (forall event, event ∈ callLog log -> event.flash = false) ->
    forall offset data reached, Event.readOta offset data 0 reached ∈ callLog log ->
      data = load (contents world) offset.toNat data.length

theorem ReadsMatch.concat {world next : World} {log : List Event} {event : Event}
    (matched : ReadsMatch contents world log) (within : event.entered = none)
    (same : event.flash = false -> contents next = contents world)
    (good : forall offset data reached, event = .readOta offset data 0 reached ->
      data = load (contents world) offset.toNat data.length) :
    ReadsMatch contents next (log ++ [event]) := by
  intro undisturbed offset data reached member
  rw [callLog_concat within] at undisturbed member
  rw [same (undisturbed event (List.mem_append_right _ (List.mem_singleton_self event)))]
  rcases List.mem_append.mp member with earlier | last
  · exact matched (fun other old => undisturbed other (List.mem_append_left _ old)) offset data reached earlier
  · exact good offset data reached (List.mem_singleton.mp last).symm

theorem readsMatch_enter (world : World) (log : List Event) (call : Call) :
    ReadsMatch contents world (log ++ [.enter call]) := by
  intro _ offset data reached member
  rw [callLog_enter] at member
  exact absurd member List.not_mem_nil

theorem readsMatch_law (faithful : FaithfulReads platform contents) : Law platform (ReadsMatch contents) where
  internal := by
    intro world log event own matched
    refine matched.concat ?_ (fun _ => rfl) ?_
    · cases event with
      | enter call => exact absurd own Bool.false_ne_true
      | _ => rfl
    · rintro offset data reached rfl
      exact absurd own Bool.false_ne_true
  eraseOta := fun _ _ _ _ matched _ =>
    matched.concat rfl (fun impossible => absurd impossible.symm Bool.false_ne_true)
      (fun _ _ _ impossible => Event.noConfusion impossible)
  writeOta := fun _ _ _ _ matched _ =>
    matched.concat rfl (fun impossible => absurd impossible.symm Bool.false_ne_true)
      (fun _ _ _ impossible => Event.noConfusion impossible)
  readOta := by
    intro offset size world log matched _
    refine matched.concat rfl (fun _ => faithful.reading offset size world) ?_
    intro start data reached same
    injection same with sameOffset sameData success
    subst sameOffset sameData
    rw [Buffer.length_eq]
    exact faithful.readOta offset size world success
  timeMs := fun world _ matched =>
    matched.concat rfl (fun _ => faithful.timeMs world) (fun _ _ _ impossible => Event.noConfusion impossible)
  verifySignature := fun key digest signature world _ matched =>
    matched.concat rfl (fun _ => faithful.verifySignature key digest signature world)
      (fun _ _ _ impossible => Event.noConfusion impossible)

theorem readsMatch_callbacks {admission : Option (OTAAdmissionCallback World)}
    {cancellation : Option (OTACancellationCallback World)}
    (spares : SparesFlash contents admission cancellation) :
    CallbacksKeep (ReadsMatch contents) admission cancellation where
  admission := fun callback installed metadata world _ matched =>
    matched.concat rfl (fun _ => spares.whenAdmitting callback installed metadata world)
      (fun _ _ _ impossible => Event.noConfusion impossible)
  cancellation := fun callback installed world _ matched =>
    matched.concat rfl (fun _ => spares.whenPolled callback installed world)
      (fun _ _ _ impossible => Event.noConfusion impossible)

/-- A complete, successful read-back is what Flash holds. -/
theorem imageOf_eq_load {world : World} {log : List Event} {size : Nat}
    (matched : ReadsMatch contents world log) (finishing : Finishing log)
    (clean : forall offset data result reached, Event.readOta offset data result reached ∈ callLog log ->
      result = 0)
    (covered : Tiles 0 (readRanges (callLog log)) size) :
    imageOf (callLog log) = load (contents world) 0 size := by
  refine flatMap_of_tiles covered (fun block member => ?_)
  rcases List.mem_filterMap.mp member with ⟨event, recorded, picked⟩
  cases event with
  | readOta offset data result reached =>
      cases picked
      have success := clean offset data result reached recorded
      rw [success] at recorded
      exact matched finishing.undisturbed offset data reached recorded
  | _ => cases picked

/-! ## Writes -/

/-- Reads are faithful.  An erase that reports success has left its range blank,
and it has changed no blank cell.  A write to blank cells that reports success
and the right offset has stored its bytes. -/
structure FaithfulFlash (platform : Platform World) (contents : World -> Nat -> UInt8) : Prop
    extends FaithfulReads platform contents where
  eraseOta : forall offset size world, (platform.eraseOta offset size world).1 = 0 -> forall address,
    contents world address = 0xFF ∨ offset.toNat ≤ address ∧ address < offset.toNat + size ->
    contents (platform.eraseOta offset size world).2 address = 0xFF
  writeOta : forall offset data world,
    (forall address, offset.toNat ≤ address -> address < offset.toNat + data.length ->
      contents world address = 0xFF) ->
    (platform.writeOta offset data world).1.result = 0 ->
    (platform.writeOta offset data world).1.offset.toNat = offset.toNat + data.length ->
    contents (platform.writeOta offset data world).2 = overlay (contents world) offset.toNat data

/-- Flash holds what the session is known to have erased and written. -/
def Mirrors (contents : World -> Nat -> UInt8) (world : World) (log : List Event) : Prop :=
  forall address byte, replay remembered (fun _ => none) (sessionLog log) address = some byte ->
    contents world address = byte

theorem Mirrors.concat {world next : World} {log : List Event} {event : Event}
    (mirrors : Mirrors contents world log) (inside : event.opening = none) (still : event.flash = false)
    (same : contents next = contents world) : Mirrors contents next (log ++ [event]) := by
  intro address byte found
  rw [sessionLog_concat inside, replay_concat, apply_of_still still] at found
  rw [same]
  exact mirrors address byte found

/-- The rule of a write keeps it to blank cells. -/
theorem Mirrors.blank {world : World} {log : List Event} {sizeMax : Nat} {offset reached : UInt32} {data : Bytes}
    {result : Int} (mirrors : Mirrors contents world log)
    (rule : Rule sizeMax log (.writeOta offset data result reached)) (address : Nat)
    (above : offset.toNat ≤ address) (below : address < offset.toNat + data.length) :
    contents world address = 0xFF :=
  mirrors address 0xFF (rule.2.2.2.2.2.1 address above below)

theorem mirrors_law (faithful : FaithfulFlash platform contents) : Law platform (Mirrors contents) where
  internal := by
    intro world log event own mirrors
    cases event with
    | leave _ | state _ | published _ | aborted => exact mirrors.concat rfl rfl rfl
    | _ => exact absurd own Bool.false_ne_true
  eraseOta := by
    intro offset size world log mirrors _ address byte found
    rw [sessionLog_concat rfl, replay_concat] at found
    simp only [FlashEffect.apply] at found
    split at found
    · rename_i success
      simp only [remembered] at found
      split at found
      · rename_i blank
        cases found
        exact faithful.eraseOta offset size world success address (blank.imp_left (mirrors address 0xFF))
      · cases found
    · cases found
  writeOta := by
    intro offset data world log mirrors rule address byte found
    rw [sessionLog_concat rfl, replay_concat] at found
    simp only [FlashEffect.apply] at found
    split at found
    · rename_i stored
      rw [faithful.writeOta offset data world (mirrors.blank rule) stored.1 stored.2]
      exact overlay_some offset.toNat data mirrors address byte found
    · exact absurd found.symm (Option.some_ne_none byte)
  readOta := fun offset size world _ mirrors _ =>
    mirrors.concat rfl rfl (faithful.reading offset size world)
  timeMs := fun world _ mirrors => mirrors.concat rfl rfl (faithful.timeMs world)
  verifySignature := fun key digest signature world _ mirrors =>
    mirrors.concat rfl rfl (faithful.verifySignature key digest signature world)

/-! ## Both together -/

/-- A call that writes nothing leaves what a session has stored in place. -/
theorem load_eq_payload {world : World} {log final tail : List Event} {call : Call}
    (flash : FlashRecorded (Stage.after got) log) (full : 392 ≤ got.length)
    (extended : Extends log call final tail) (still : forall event, event ∈ tail -> event.flash = false)
    (mirrors : Mirrors contents world final) :
    load (contents world) 0 (got.drop 384).length = got.drop 384 := by
  have stored : (Stage.after got).stored = got.drop 384 := if_pos full
  refine load_eq_of_known mirrors (fun index byte present => ?_)
  have entered : Event.flash (.enter call) = false := rfl
  rw [extended.session, replay_of_still _ _ _ still, replay_concat, apply_of_still entered, flash.contents,
    stored]
  simp only [overlay, Nat.zero_le, if_true, Nat.sub_zero, List.getElem?_map, present, Option.map_some,
    Option.getD_some]
  rfl

/-- The image that `OTAStagingFinish` reads back from faithful Flash is the
payload. -/
theorem imageOf_eq_payload {world : World} {log final tail : List Event} {call : Call}
    (flash : FlashRecorded (Stage.after got) log) (full : 392 ≤ got.length)
    (extended : Extends log call final tail) (mirrors : Mirrors contents world final)
    (matched : ReadsMatch contents world final) (finishing : Finishing final)
    (clean : forall offset data result reached, Event.readOta offset data result reached ∈ callLog final ->
      result = 0)
    (covered : Tiles 0 (readRanges (callLog final)) (got.drop 384).length) :
    imageOf (callLog final) = got.drop 384 := by
  have still : forall event, event ∈ tail -> event.flash = false := by
    rw [← extended.inner]
    exact finishing.undisturbed
  rw [imageOf_eq_load matched finishing clean covered]
  exact load_eq_payload flash full extended still mirrors

end Ota
end DevKit

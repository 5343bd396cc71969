import DevKit.Ota.Accepting

namespace DevKit
namespace Ota

/-!
# Verifying and publishing a staged image

`OTAStagingFinish` reads the whole image back.  The loop invariant ties its
three accumulators to the concatenation of the blocks read so far: the digest
and the checksum are those of the concatenation, and the descriptor buffer
holds as much of bytes `0x200..0x2FF` as has been reached.
-/

open Procedure

variable {World : Type} {platform : Platform World} {Kept : World -> List Event -> Prop}
  {terms : Terms World} {stage : Stage} {got : Bytes}

variable (law : Law platform Kept) (callbacks : CallbacksKeep Kept terms.admission terms.cancellation)

/-! ## Collecting the descriptor -/

/-- The buffer holds the part of bytes `0x200..0x2FF` that the image has. -/
def Collected (descriptor : Buffer 256) (image : Bytes) : Prop :=
  descriptor.bytes.take (image.length - 0x200) = slice image 0x200 256

theorem collected_nil (descriptor : Buffer 256) : Collected descriptor [] := by
  rfl

/-- A full image determines the buffer. -/
theorem Collected.eq {descriptor : Buffer 256} {image : Bytes} (collected : Collected descriptor image)
    (long : 0x200 + 256 ≤ image.length) : descriptor.bytes = slice image 0x200 256 := by
  have exact := descriptor.length_eq
  rw [← collected, List.take_of_length_le (by omega)]

/-- What a copy leaves in front of the position it reaches. -/
theorem take_memcpy_of_reach (buffer : Buffer 256) {offset reach : Nat} {source : Bytes}
    (reached : min reach 256 = offset + source.length) :
    (buffer.memcpy offset source).bytes.take reach = buffer.bytes.take offset ++ source := by
  have exact := (buffer.memcpy offset source).length_eq
  have whole : (buffer.memcpy offset source).bytes.take reach =
      (buffer.memcpy offset source).bytes.take (min reach 256) := by
    rw [List.take_eq_take_min, exact]
  rw [whole, reached, Buffer.take_memcpy buffer offset source (by omega)]

theorem Collected.step {descriptor : Buffer 256} {image : Bytes} (collected : Collected descriptor image)
    (block : Bytes) : Collected (collectDescriptor descriptor image.length block) (image ++ block) := by
  unfold Collected at collected ⊢
  rw [collectDescriptor, List.length_append]
  split
  · rename_i crossing
    have copied : (if block.length - (0x200 - image.length) > 256 then 256
        else block.length - (0x200 - image.length)) = min 256 (block.length - (0x200 - image.length)) := by
      split <;> omega
    have length := length_slice block (0x200 - image.length)
      (min 256 (block.length - (0x200 - image.length))) (by omega)
    simp only [copied]
    rw [take_memcpy_of_reach descriptor (by omega), slice_append_right _ _ _ _ crossing.1, List.take_zero,
      List.nil_append, slice, slice, ← List.length_drop, ← List.take_eq_take_min]
  · rename_i notCrossing
    split
    · rename_i inside
      have copied : (if block.length > 256 - (image.length - 0x200) then 256 - (image.length - 0x200)
          else block.length) = min (256 - (image.length - 0x200)) block.length := by
        split <;> omega
      simp only [copied]
      rw [← List.take_eq_take_min, take_memcpy_of_reach descriptor (by rw [List.length_take]; omega),
        collected, slice, slice, List.drop_append_of_le_length (by omega), List.take_append,
        List.length_drop]
    · rename_i outside
      have exact := descriptor.length_eq
      by_cases before : image.length + block.length ≤ 0x200
      · have empty : slice (image ++ block) 0x200 256 = [] := by
          rw [slice, List.drop_eq_nil_of_le (by rw [List.length_append]; omega), List.take_nil]
        have none : image.length + block.length - 0x200 = 0 := by omega
        rw [empty, none, List.take_zero]
      · rw [slice_append_left _ _ _ _ (by omega), ← collected, List.take_of_length_le (by omega),
          List.take_of_length_le (by omega)]

/-! ## Reading back -/

theorem ImageRecorded.read {log : List Event} {offset reached : UInt32} {data : Bytes}
    (recorded : ImageRecorded stage log) (start : offset.toNat = stage.image.length)
    (positive : 0 < data.length) :
    ImageRecorded { stage with image := stage.image ++ data } (log ++ [.readOta offset data 0 reached]) := by
  have grown : reads (callLog (log ++ [.readOta offset data 0 reached])) =
      reads (callLog log) ++ [(offset.toNat, data)] := by
    rw [callLog_concat rfl]
    exact filterMap_concat_some rfl
  refine ⟨?_, ?_, fun other block result last member => ?_⟩
  · rw [readRanges, grown, List.map_append, List.map_singleton, start, List.length_append]
    exact tiles_concat recorded.covered positive
  · rw [imageOf, grown, List.flatMap_append, List.flatMap_singleton]
    exact congrArg (· ++ data) recorded.image
  · rw [callLog_concat rfl, List.mem_append, List.mem_singleton] at member
    rcases member with earlier | same
    · exact recorded.clean other block result last earlier
    · cases same
      rfl

/-- The accumulators describe the image read so far. -/
structure Accumulated (accumulated : ReadBack) (image : Bytes) : Prop where
  sha : accumulated.sha = sha256Update sha256Init image
  crc : accumulated.crc = crc16Update 0 image
  descriptor : Collected accumulated.descriptor image

theorem Accumulated.step {accumulated : ReadBack} {image : Bytes} (holds : Accumulated accumulated image)
    (block : Bytes) :
    Accumulated ⟨sha256Update accumulated.sha block, crc16Update accumulated.crc block,
      collectDescriptor accumulated.descriptor image.length block⟩ (image ++ block) where
  sha := by rw [holds.sha, sha256Update_append]
  crc := by rw [holds.crc, crc16Update_append]
  descriptor := holds.descriptor.step block

/-- The invariant of the read-back loop. -/
def ReadingBack (platform : Platform World) (Kept : World -> List Event -> Prop) (terms : Terms World)
    (got : Bytes) (offset : Nat) (accumulated : ReadBack) (system : System World) : Prop :=
  exists image, image.length = offset ∧ Accumulated accumulated image ∧
    Streaming platform Kept terms true { Stage.after got with image := image, confirmed := offset } [] system

theorem readOta_triple {image : Bytes} {size : Nat} {tail : List Event} (law : Law platform Kept)
    (positive : 0 < size) (small : size ≤ 512) (start : (UInt32.ofNat image.length).toNat = image.length)
    (still : stage.image = image) (long : 320 ≤ stage.stream.length) (checked : stage.checked = true)
    (fits : image.length + size ≤ stage.limit) :
    Triple (Tracked platform Kept terms true stage [] tail)
      (readOta platform (UInt32.ofNat image.length) size)
      (fun answer system => Sound platform Kept system ∧
        Event.readOta (UInt32.ofNat image.length) answer.data.bytes answer.result answer.offset ∈
          sessionLog system.log ∧
        (answer.result = 0 ->
          Tracked platform Kept terms true { stage with image := image ++ answer.data.bytes } []
            (tail ++ [.readOta (UInt32.ofNat image.length) answer.data.bytes answer.result answer.offset])
            system))
      (Excused platform Kept terms) := by
  apply invoke_triple
  rintro system ⟨streaming, recent⟩
  have recorded := streaming.recorded
  have length := (platform.readOta (UInt32.ofNat image.length) size system.world).1.data.length_eq
  have rule : Rule platform.sizeMax system.log (.readOta (UInt32.ofNat image.length)
      (platform.readOta (UInt32.ofNat image.length) size system.world).1.data.bytes
      (platform.readOta (UInt32.ofNat image.length) size system.world).1.result
      (platform.readOta (UInt32.ofNat image.length) size system.world).1.offset) := by
    refine ⟨by omega, by omega, ?_, terms.parameters, recorded.stream.opened,
      recorded.stream.authorised checked⟩
    rw [start, length, ← recorded.stream.limit long]
    exact fits
  have kept := law.readOta (UInt32.ofNat image.length) size _ _ streaming.sound.kept rule
  refine ⟨streaming.sound.record rule rfl kept, ?_, fun success => ⟨streaming.extend id (fun _ => rfl) rfl rfl rfl
    Event.noConfusion rule kept (fun _ _ => rfl) ⟨?_, ?_, ?_⟩, ?_⟩⟩
  · rw [System.respond_log, sessionLog_concat rfl]
    exact List.mem_append_right _ (List.mem_singleton_self _)
  · exact { recorded.stream.step rfl rfl with }
  · exact { recorded.flash.step rfl rfl with }
  · rw [success]
    subst still
    apply recorded.readBack.read
    · rw [start]
    · rw [Buffer.length_eq]
      exact positive
  · change _ <:+ sessionLog (system.log ++ [_])
    rw [sessionLog_concat rfl, List.suffix_append_inj_of_length_eq rfl]
    exact ⟨recent, rfl⟩

include law callbacks in
theorem readBackBlock_triple {offset : Nat}
    {accumulated : ReadBack} (long : 392 ≤ got.length) (more : offset < (Stage.after got).limit) :
    Triple (ReadingBack platform Kept terms got offset accumulated)
      (readBackBlock platform offset (min ((Stage.after got).limit - offset) 512) accumulated)
      (ReadingBack platform Kept terms got (offset + min ((Stage.after got).limit - offset) 512))
      (Excused platform Kept terms) := by
  rintro system ⟨image, rfl, holds, streaming⟩
  have start : (UInt32.ofNat image.length).toNat = image.length := toNat_ofNat_of_lt (Nat.le_of_lt more)
  refine (?_ : Triple (fun current => current = system) _ _ _) system rfl
  refine Triple.bind ((pollCancellation_triple law callbacks).start streaming) (fun _ => ?_)
  refine Triple.bind ((timeMs_triple law).strengthen fun _ => Streaming.tracked) (fun started => ?_)
  refine Triple.bind (readOta_triple law (by omega) (by omega) start rfl (by change 320 ≤ got.length; omega)
    (decide_eq_true long) (by change _ ≤ (Stage.after got).limit; omega)) (fun answer => ?_)
  have length := answer.data.length_eq
  apply Triple.guard
  · rintro bad system ⟨sound, asked, _⟩
    refine ⟨sound, .readBack _ _ _ _ asked ?_⟩
    rcases bad with failed | behind | wrong
    · exact .inl failed
    · right
      omega
    · right
      omega
  intro good
  rw [not_or, not_not] at good
  refine Triple.bind ((enforceLimit_triple law ?_).strengthen fun _ answered => answered.2.2 good.1) (fun _ => ?_)
  · intro system finished tracked late
    exact ⟨tracked.1.sound, .readBackTimeout started _ _ _ _ finished tracked.2.isInfix late⟩
  have counted : Triple (Streaming platform Kept terms true
        { Stage.after got with image := image ++ answer.data.bytes, confirmed := image.length } [])
      (updateSession fun session => { session with
        status := { session.status with
          payloadVerified := image.length + min ((Stage.after got).limit - image.length) 512 } })
      (fun _ => Streaming platform Kept terms true
        { Stage.after got with
          image := image ++ answer.data.bytes
          confirmed := image.length + min ((Stage.after got).limit - image.length) 512 } [])
      (Excused platform Kept terms) :=
    assign_triple (fun _ _ => rfl) fun _ recorded =>
      ⟨{ recorded.stream with }, { recorded.flash with }, { recorded.readBack with }⟩
  refine Triple.bind (counted.strengthen ?_) (fun _ => Triple.pure (fun system streaming => ?_))
  · rintro system ⟨finished, tracked, _⟩
    exact tracked.1
  refine ⟨image ++ answer.data.bytes, ?_, holds.step answer.data.bytes, streaming⟩
  rw [List.length_append, length]

include law callbacks in
theorem readBackPayload_triple (long : 392 ≤ got.length) :
    Triple (Streaming platform Kept terms true (Stage.after got) []) (readBackPayload platform)
      (ReadingBack platform Kept terms got (Stage.after got).limit) (Excused platform Kept terms) := by
  apply currentSession_triple
  intro current streaming
  have size : current.session.payloadSize.toNat = (Stage.after got).limit := by
    rcases streaming.held with ⟨state, error, same, _⟩
    rw [same]
    exact congrArg UInt32.toNat (if_pos (decide_eq_true (by omega)))
  rw [size]
  have empty : ReadingBack platform Kept terms got 0 ⟨sha256Init, 0, platform.uninitialised⟩ current :=
    ⟨[], rfl, ⟨(sha256Update_nil _).symm, rfl, collected_nil _⟩, streaming⟩
  refine (Triple.blockwise (ReadingBack platform Kept terms got)
    (fun offset accumulated more => ?_) 0 _ (Nat.zero_le _)).start empty
  exact readBackBlock_triple law callbacks long more

/-! ## Publishing -/

/-- The result that `publish` stores. -/
def stagedInfo (readBack : ReadBack) (system : System World) : OTAStagedImageInfo where
  sessionGeneration := system.nextGeneration
  payloadSize := system.session.payloadSize
  crc16 := readBack.crc
  sha256 := Buffer.fill 32 (sha256Finish readBack.sha)
  metadata := system.session.metadata

theorem publish_log (readBack : ReadBack) (system : System World) :
    (publish readBack system).log =
      system.log ++ [.published (stagedInfo readBack system)] ++ [.state .ready] :=
  rfl

theorem toNat_next (generation : UInt32) (count : Nat)
    (current : generation.toNat = count % (2 ^ 32 - 1) + 1) :
    (if generation + 1 = 0 then (1 : UInt32) else generation + 1).toNat = (count + 1) % (2 ^ 32 - 1) + 1 := by
  have sum : (generation + 1).toNat = (generation.toNat + 1) % 2 ^ 32 := UInt32.toNat_add generation 1
  split
  · rename_i wrapped
    rw [wrapped] at sum
    change 0 = _ at sum
    change 1 = _
    omega
  · rename_i notWrapped
    have nonzero : (generation + 1).toNat ≠ 0 := fun zero => notWrapped (UInt32.toNat_inj.mp zero)
    rw [sum] at nonzero ⊢
    omega

theorem Sound.publish {readBack : ReadBack} {system : System World} (sound : Sound platform Kept system)
    (law : Law platform Kept)
    (verified : Verified platform.sizeMax system.log (stagedInfo readBack system))
    (heeded : AbortsIgnored (sessionLog system.log)) :
    Sound platform Kept (publish readBack system) := by
  have recorded := law.internal _ _ (.published (stagedInfo readBack system)) rfl sound.kept
  refine ⟨?_, ?_, law.internal _ _ (.state .ready) rfl recorded⟩
  · rw [publish_log]
    refine always_concat.mpr ⟨always_concat.mpr ⟨sound.lawful, ?_⟩, ?_⟩
    · exact ⟨sound.counter, verified, heeded⟩
    · exact ⟨system.log, stagedInfo readBack system, rfl⟩
  · have picked : Event.publication (.published (stagedInfo readBack system)) =
        some (stagedInfo readBack system) := rfl
    rw [publish_log, publications, filterMap_concat_none rfl, filterMap_concat_some picked,
      List.length_append]
    exact toNat_next system.nextGeneration _ sound.counter

/-- What a successful `OTAStagingFinish` leaves behind. -/
structure Published (platform : Platform World) (Kept : World -> List Event -> Prop) (terms : Terms World)
    (system : System World) : Prop where
  sound : Sound platform Kept system
  logged : exists earlier, system.log = earlier ++ [.published system.session.ready] ++ [.state .ready] ∧
    Verified platform.sizeMax earlier system.session.ready
  state : system.session.status.state = .ready
  generation : system.session.ready.sessionGeneration = terms.generation
  payloadSize : system.session.payloadSize = system.session.ready.payloadSize

/-- `OTAStagingFinish` starts on a session that has not been aborted. -/
theorem Streaming.ignored {system : System World} (streaming : Streaming platform Kept terms true stage [] system) :
    AbortsIgnored (sessionLog system.log) :=
  streaming.heeded.resolve_left fun stopped => Bool.noConfusion stopped.1

theorem Streaming.enterVerifying {system : System World}
    (streaming : Streaming platform Kept terms true stage [] system) (law : Law platform Kept) :
    Streaming platform Kept terms true stage [] (system.enterState .verifying) := by
  rcases streaming.held with ⟨state, error, same, _⟩
  refine ⟨streaming.sound.enterState law True.intro, ⟨.verifying, error, ?_, ?_⟩,
    streaming.recorded.quiet rfl, ?_, ?_, streaming.numbered⟩
  · rw [System.enterState_session, same]
    rfl
  · intro impossible
    exact absurd impossible.symm Bool.false_ne_true
  · rw [System.enterState_log, sessionLog_concat rfl]
    exact .inr (streaming.ignored.concat Event.noConfusion)
  · exact fun call => (streaming.calling call).step rfl rfl

/-- A complete package has its payload written. -/
theorem Streaming.complete {system : System World} {finishing : Bool}
    (streaming : Streaming platform Kept terms finishing (Stage.after got) [] system)
    (sized : 384 < terms.packageSize) (whole : got.length = terms.packageSize) :
    392 ≤ got.length ∧ (Stage.after got).limit + 384 = got.length := by
  have accepted := streaming.exact (by omega)
  have exact : (Stage.after got).limit + 384 = terms.packageSize := accepted.exact
  have minimal : 0x200 + 256 ≤ (Stage.after got).limit := accepted.minimal
  omega

/-- The evidence at the moment of publication. -/
theorem ReadingBack.verified {readBack : ReadBack} {system : System World}
    (reading : ReadingBack platform Kept terms got (Stage.after got).limit readBack system)
    (whole : got.length = terms.packageSize) (full : 392 ≤ got.length)
    (payloadHash : Sha256.hash (got.drop 384) = (headerMetadata (Stage.after got).header.bytes).sha256.bytes)
    (imageHash : sha256Finish readBack.sha = (headerMetadata (Stage.after got).header.bytes).sha256.bytes)
    (sameCrc : readBack.crc = crc16Update 0 (got.drop 384))
    (descriptor : readBack.descriptor.bytes = slice (Stage.after got).header.bytes 64 256) :
    Verified platform.sizeMax system.log (stagedInfo readBack system) := by
  rcases reading with ⟨image, length, ⟨sha, crc, collected⟩, streaming⟩
  have recorded := streaming.recorded
  have header : (Stage.after got).header.bytes = headerOf (sessionLog system.log) :=
    recorded.stream.header (by change 320 ≤ got.length; omega)
  have limit : (Stage.after got).limit = declared (sessionLog system.log) :=
    recorded.stream.limit (by change 320 ≤ got.length; omega)
  have stream : streamed (sessionLog system.log) = got := by
    rw [recorded.stream.stream, List.append_nil]
    rfl
  have digest : (headerMetadata (Stage.after got).header.bytes).sha256.bytes =
      slice (headerOf (sessionLog system.log)) 20 32 := by
    rw [headerMetadata_sha256 _ (by rw [Buffer.length_eq]; omega), header]
  have hash : sha256Finish readBack.sha = Sha256.hash image := by
    rw [sha, sha256Finish_stream]
  have large : 0x200 + 256 ≤ image.length := by
    have accepted := (recorded.stream.authorised (decide_eq_true full)).toDecoded.accepted
    rw [length, limit]
    exact (decodeHeader_ok_iff.mp accepted).minimal
  have read : imageOf (callLog system.log) = image := recorded.readBack.image
  rcases streaming.held with ⟨state, error, same, _⟩
  have decoded : (Stage.after got).decoded = true := decide_eq_true (by omega)
  refine ⟨⟨terms.parameters, recorded.stream.opened, recorded.stream.authorised (decide_eq_true full), ?_⟩,
    ?_, ?_, ?_, ?_, ?_, ?_, ?_, ?_, ?_, streaming.calling rfl, recorded.readBack.clean⟩
  · rw [stream]
    exact whole
  · rw [← limit, ← length]
    exact recorded.readBack.covered
  · rw [read, ← hash, imageHash, digest]
  · rw [payloadOf, stream, payloadHash, digest]
  · rw [payloadOf, stream]
    exact sameCrc.symm
  · rw [read]
    exact crc.symm
  · rw [read, ← collected.eq large, descriptor, header]
  · rw [← header]
    change system.session.payloadSize = _
    rw [same]
    exact if_pos decoded
  · rw [← digest, ← imageHash]
    refine Buffer.fill_bytes_of_length _ ?_
    rw [hash, Sha256.length_hash]
  · rw [← header]
    change system.session.metadata = _
    rw [same]
    exact if_pos decoded

/-- The comparisons behind the read-back loop, and the publication. -/
theorem publish_triple {readBack : ReadBack} (law : Law platform Kept)
    (whole : got.length = terms.packageSize) (full : 392 ≤ got.length)
    (payloadHash : Sha256.hash (got.drop 384) = (headerMetadata (Stage.after got).header.bytes).sha256.bytes) :
    Triple (ReadingBack platform Kept terms got (Stage.after got).limit readBack)
      (do
        let session <- currentSession
        Procedure.reject (sha256Finish readBack.sha ≠ session.metadata.sha256.bytes) .readBackHashMismatch
        Procedure.reject (readBack.crc ≠ session.payloadCrc) .readBackCrcMismatch
        Procedure.reject (readBack.descriptor.bytes ≠ slice session.header.bytes 64 256) .descriptorMismatch
        Procedure.update (publish readBack))
      (fun _ => Published platform Kept terms) (Excused platform Kept terms) := by
  apply currentSession_triple
  intro current reading
  have verified := fun imageHash sameCrc descriptor =>
    reading.verified whole full payloadHash imageHash sameCrc descriptor
  rcases reading with ⟨image, length, ⟨sha, crc, collected⟩, streaming⟩
  have recorded := streaming.recorded
  have header : (Stage.after got).header.bytes = headerOf (sessionLog current.log) :=
    recorded.stream.header (by change 320 ≤ got.length; omega)
  have limit : (Stage.after got).limit = declared (sessionLog current.log) :=
    recorded.stream.limit (by change 320 ≤ got.length; omega)
  have payload : payloadOf (sessionLog current.log) = got.drop 384 := by
    rw [payloadOf, recorded.stream.stream, List.append_nil]
    rfl
  have digest : (headerMetadata (Stage.after got).header.bytes).sha256.bytes =
      slice (headerOf (sessionLog current.log)) 20 32 := by
    rw [headerMetadata_sha256 _ (by rw [Buffer.length_eq]; omega), header]
  have matched : Sha256.hash (payloadOf (sessionLog current.log)) =
      slice (headerOf (sessionLog current.log)) 20 32 := by
    rw [payload, payloadHash, digest]
  have readBackWhole : ReadBackWhole terms.parameters current.log := by
    refine ⟨streaming.calling rfl, ?_, matched, ?_, recorded.readBack.clean⟩
    · rw [recorded.stream.stream, List.append_nil]
      exact whole
    · rw [← limit, ← length]
      exact recorded.readBack.covered
  have read : imageOf (callLog current.log) = image := recorded.readBack.image
  have large : 0x200 + 256 ≤ image.length := by
    have accepted := (recorded.stream.authorised (decide_eq_true full)).toDecoded.accepted
    rw [length, limit]
    exact (decodeHeader_ok_iff.mp accepted).minimal
  rcases streaming.held with ⟨state, error, same, _⟩
  have metadata : current.session.metadata = headerMetadata (Stage.after got).header.bytes := by
    rw [same]
    exact if_pos (decide_eq_true (by omega))
  have payloadCrc : current.session.payloadCrc = crc16Update 0 (got.drop 384) := by
    rw [same]
    change crc16Update 0 (Stage.after got).done = _
    rw [Stage.after_of_started full]
  have headerBytes : current.session.header = (Stage.after got).header := by
    rw [same]
    rfl
  rw [metadata, payloadCrc, headerBytes]
  apply Triple.guard
  · rintro differs system rfl
    refine ⟨streaming.sound, .finish (.readBackHash readBackWhole ?_)⟩
    rw [read, ← digest, ← sha256Finish_stream, ← sha]
    exact differs
  intro sameHash
  apply Triple.guard
  · rintro differs system rfl
    refine ⟨streaming.sound, .finish (.readBackCrc readBackWhole ?_)⟩
    rw [read, payload, ← crc]
    exact differs
  intro sameCrc
  apply Triple.guard
  · rintro differs system rfl
    refine ⟨streaming.sound, .finish (.descriptor readBackWhole ?_)⟩
    rw [read, ← collected.eq large, ← header]
    exact differs
  intro sameDescriptor
  rw [not_not] at sameHash sameCrc sameDescriptor
  apply Triple.update
  rintro system rfl
  have evidence := verified sameHash sameCrc sameDescriptor
  exact ⟨streaming.sound.publish law evidence streaming.ignored, ⟨system.log, publish_log readBack system, evidence⟩, rfl,
    streaming.numbered, rfl⟩

theorem verifyStaged_triple (given : Bool) (got : Bytes) (law : Law platform Kept)
    (callbacks : CallbacksKeep Kept terms.admission terms.cancellation) (sized : 384 < terms.packageSize) :
    Triple (fun system => Streaming platform Kept terms true (Stage.after got) [] system ∧
        lastCall system.log = some (.finish given))
      (verifyStaged platform given) (fun _ => Published platform Kept terms) (Excused platform Kept terms) := by
  apply Triple.guard
  · rintro missing system ⟨streaming, last⟩
    rw [missing] at last
    exact ⟨streaming.sound, .nullResult last⟩
  intro _
  apply currentSession_triple
  rintro current ⟨streaming, _⟩
  have received : current.session.status.packageReceived = got.length := by
    rcases streaming.held with ⟨state, error, same, _⟩
    rw [same]
    rfl
  have expected : current.session.expectedPackageSize = terms.packageSize := by
    rcases streaming.held with ⟨state, error, same, _⟩
    rw [same]
    rfl
  rw [received, expected]
  apply Triple.guard
  · rintro unfinished system rfl
    refine ⟨streaming.sound, .finish (.incomplete (streaming.calling rfl) ?_)⟩
    rw [streaming.recorded.stream.stream, List.append_nil]
    intro whole
    change got.length = terms.packageSize at whole
    have complete := streaming.complete sized whole
    rcases streaming.held with ⟨state, error, same, _⟩
    rw [same] at unfinished
    rcases unfinished with short | unauthenticated | unwritten
    · exact short whole
    · exact of_decide_eq_false unauthenticated (by omega)
    · apply unwritten
      have decoded : (Stage.after got).decoded = true := decide_eq_true (by omega)
      have done : (Stage.after got).done = got.drop 384 := if_pos complete.1
      change (Stage.after got).done.length = (if (Stage.after got).decoded then _ else (0 : UInt32)).toNat
      rw [if_pos decoded, done, List.length_drop]
      change _ = (Stage.after got).limit
      omega
  intro finished
  rw [not_or, not_not] at finished
  have whole := finished.1
  have complete := streaming.complete sized whole
  refine Triple.bind ((pollCancellation_triple law callbacks).start streaming) (fun _ => ?_)
  have entered : Triple (Streaming platform Kept terms true (Stage.after got) []) (enterState .verifying)
      (fun _ => Streaming platform Kept terms true (Stage.after got) []) (Excused platform Kept terms) :=
    Triple.update (fun system polled => polled.enterVerifying law)
  refine entered.bind (fun _ => ?_)
  apply currentSession_triple
  intro verifying streaming
  have recorded := streaming.recorded.stream
  rcases streaming.held with ⟨state, error, same, _⟩
  have metadata : verifying.session.metadata = headerMetadata (Stage.after got).header.bytes := by
    rw [same]
    exact if_pos (decide_eq_true (by omega))
  have digest : sha256Finish verifying.session.payloadSha = Sha256.hash (got.drop 384) := by
    rw [same]
    change sha256Finish (sha256Update sha256Init (Stage.after got).done) = _
    rw [sha256Finish_stream, Stage.after_of_started complete.1]
  rw [metadata, digest]
  apply Triple.guard
  · rintro differs system rfl
    refine ⟨streaming.sound, .finish (.hashMismatch (streaming.calling rfl) ?_ ?_)⟩
    · rw [recorded.stream, List.append_nil]
      exact whole
    rw [headerMetadata_sha256 _ (by rw [Buffer.length_eq]; omega),
      recorded.header (by change 320 ≤ got.length; omega)] at differs
    rw [payloadOf, recorded.stream, List.append_nil]
    exact differs
  intro payloadHash
  rw [not_not] at payloadHash
  refine Triple.bind ((readBackPayload_triple law callbacks complete.1).start streaming) (fun readBack => ?_)
  exact publish_triple law whole complete.1 payloadHash

end Ota
end DevKit

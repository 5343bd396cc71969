import DevKit.Ota.Agreement
import DevKit.Package.RoundTrip

namespace DevKit
namespace Ota

/-!
# Updates from the package to Flash

On a steady device a session is a function of the concatenated chunks.  Since
the engine and `verify_package` make the same checks, that function succeeds
exactly on the packages that the tool accepts and that fit the device.  What
Flash holds after a success needs much less of the device: its reads have to be
faithful, its writes need not be.
-/

open Package (Cryptography Expectations VerifiedPackage PackageValid verifyPackage verifyPackage_ok_iff)

variable {World : Type} {platform : Platform World}

/-! ## Staging as a function of the bytes -/

/-- What a caller sees of a transfer, with the Flash after the last chunk. -/
inductive Observation where
  | rejected (reason : Option OTAStagingError) (flash : Nat -> UInt8)
  | unfinished (reason : Option OTAStagingError) (flash : Nat -> UInt8)
  | published (info : OTAStagedImageInfo) (flash : Nat -> UInt8)

/-- Finish a transfer if none of its chunks was rejected. -/
def observe (platform : Platform World) (contents : World -> Nat -> UInt8)
    (fed : List (Option OTAStagingError) × System World) : Observation :=
  match firstFailure fed.1 with
  | some reason => .rejected reason (contents fed.2.world)
  | none =>
      match perform platform (.finish true) fed.2 with
      | (some .ok, reached) => .published reached.session.ready (contents fed.2.world)
      | (reason, _) => .unfinished reason (contents fed.2.world)

/-- The observation that the bytes deserve. -/
def deserved (sizeMax : Nat) (conduct : Conduct World) (decides : OTAStagingMetadata -> Int)
    (initial : Nat -> UInt8) (terms : Terms World) (stream : Bytes) : Observation :=
  match verdict sizeMax conduct decides terms.parameters stream with
  | .error reason => .rejected (some reason) initial
  | .ok () =>
      match completion terms.parameters stream with
      | .error reason => .unfinished (some reason) (staged conduct initial stream)
      | .ok () => .published (stagedFor terms stream) (staged conduct initial stream)

/-- A session opened on a steady platform, in any state that calls lead to. -/
structure Opening (platform : Platform World) (conduct : Conduct World) (decides : OTAStagingMetadata -> Int)
    (arguments : BeginArguments World) (opened : System World) : Prop where
  steady : Steady platform conduct
  compliant : Compliant conduct decides arguments.admissionCallback arguments.cancellationCallback
  begun : exists requests world, perform platform (.begin arguments)
    (run platform requests (System.initial world)) = (some .ok, opened)

/-- A device whose Flash is a memory and whose operations succeed at once.  The
two partitions and the signature check are left open. -/
def idealDevice (application ota : OTAStagingPartition) (verifies : Bytes -> Bytes -> Bytes -> Int) :
    Platform (Nat -> UInt8) where
  complete := true
  getApplicationPartition := fun flash => (some application, flash)
  getOtaPartition := fun flash => (some ota, flash)
  eraseOta := fun offset size flash =>
    (0, fun address => if offset.toNat ≤ address ∧ address < offset.toNat + size then 0xFF else flash address)
  writeOta := fun offset data flash =>
    (⟨0, UInt32.ofNat (offset.toNat + data.length)⟩, overlay flash offset.toNat data)
  readOta := fun offset size flash =>
    (⟨0, UInt32.ofNat (offset.toNat + size), Buffer.fill size (load flash offset.toNat size)⟩, flash)
  timeMs := fun flash => (0, flash)
  verifySignature := fun key digest signature flash => (verifies key digest signature, flash)
  readBootTable := fun flash => (⟨-1, candidateTable (Session.zero Unit)⟩, flash)
  writeBootTable := fun _ flash => (-1, flash)
  readPersistedBootTable := fun flash => (⟨-1, candidateTable (Session.zero Unit)⟩, flash)
  sizeMax := 0xFFFFFFFF
  sizeMax_ge := Nat.le_refl _
  uninitialised := Buffer.zero 256

/-- A canonical key whose point is zero. -/
def blankKey : Bytes :=
  publicKeyPrefix ++ List.replicate 64 0

/-- A session without callbacks for a package of a given size. -/
def openingFor (World : Type) (packageSize : Nat) : BeginArguments World :=
  ⟨packageSize, some blankKey, none, none⟩

/-- The conduct of an ideal device. -/
def idealConduct (ota : OTAStagingPartition) (verifies : Bytes -> Bytes -> Bytes -> Int) :
    Conduct (Nat -> UInt8) where
  contents := id
  erased := fun offset size flash address =>
    if offset ≤ address ∧ address < offset + size then 0xFF else flash address
  verifies := verifies
  slow := fun _ _ _ => false
  capacity := ota.length.toNat

theorem idealDevice_steady (application ota : OTAStagingPartition) (verifies : Bytes -> Bytes -> Bytes -> Int) :
    Steady (idealDevice application ota verifies) (idealConduct ota verifies) where
  readOta := fun _ _ _ _ => Buffer.fill_bytes_of_length _ (length_load _ _ _)
  reading := fun _ _ _ => rfl
  timeMs := fun _ => rfl
  verifySignature := fun _ _ _ _ => rfl
  eraseOta := fun _ _ _ _ _ blank => (ite_eq_left_iff.mpr fun outside => blank.resolve_right outside)
  writeOta := fun _ _ _ _ _ _ => rfl
  partition := fun _ _ found => Nat.le_of_eq (congrArg (·.length.toNat) (Option.some_inj.mp found).symm)
  erases := fun _ _ _ _ => ⟨rfl, rfl, (by decide : (0 : UInt32) - 0 ≤ 2000)⟩
  writes := fun _ _ _ room => ⟨rfl, toNat_ofNat_of_lt room, (by decide : (0 : UInt32) - 0 ≤ 2000)⟩
  reads := fun _ _ _ room => ⟨rfl, toNat_ofNat_of_lt room, (by decide : (0 : UInt32) - 0 ≤ 2000)⟩
  verifies := fun _ _ _ _ => ⟨rfl, (by decide : decide ((0 : UInt32) - 0 > 5000) = false)⟩

def sampleDevice : Platform (Nat -> UInt8) :=
  idealDevice ⟨0x0800C000, 0x000F4000⟩ ⟨0, 0x000F4000⟩ fun _ _ _ => 0

def sampleConduct : Conduct (Nat -> UInt8) :=
  idealConduct ⟨0, 0x000F4000⟩ fun _ _ _ => 0

/-- The device after `OTAStagingBegin` for a package of 1408 bytes. -/
def sampleSystem : System (Nat -> UInt8) :=
  run sampleDevice [.begin (openingFor _ 1408)] (System.initial fun _ => 0)

/-- The image of the tool's tests in a package that is not signed at all. -/
def samplePackage : Bytes :=
  Package.packageHeader (Package.sampleImage blankKey) ++ List.replicate 64 0 ++ Package.sampleImage blankKey

theorem length_sampleImage : (Package.sampleImage blankKey).length = 0x400 :=
  Package.length_makeImage (Package.sampleIdentity_plain (Sha256.length_hash blankKey)) (by decide)

theorem length_samplePackage : samplePackage.length = 1408 := by
  rw [samplePackage, Package.length_package (by rw [length_sampleImage]; decide) List.length_replicate,
    length_sampleImage]

theorem sample_opening : Opening sampleDevice sampleConduct (fun _ => 1) (openingFor _ 1408) sampleSystem where
  steady := idealDevice_steady _ _ _
  compliant := by
    refine ⟨⟨?_, ?_⟩, ?_, ?_⟩ <;> (intro _ installed; cases installed)
  begun := ⟨[], _, Prod.ext rfl rfl⟩

section Steady

variable {conduct : Conduct World} {decides : OTAStagingMetadata -> Int} {arguments : BeginArguments World}
  {opened : System World} {initial : Nat -> UInt8} {terms : Terms World} {parameters : SessionParameters}
  {sizeMax : Nat} {stream : Bytes} {crypto : Cryptography} {publicKey : crypto.PublicKey}

theorem Opening.serving (opening : Opening platform conduct decides arguments opened) :
    exists initial terms, Serving platform conduct decides initial terms [] opened ∧
      terms.packageSize = arguments.packageSize ∧ terms.parameters = opened.session.parameters := by
  rcases opening.begun with ⟨requests, world, begun⟩
  rcases Serving.opened opening.steady opening.compliant (run_inv platform requests world) begun with
    ⟨application, ota, serving⟩
  rcases serving.receivable.streaming.held with ⟨state, error, same, _⟩
  exact ⟨_, _, serving, rfl, by rw [same]; rfl⟩

theorem Serving.spares {got : Bytes} (serving : Serving platform conduct decides initial terms got opened) :
    SparesFlash conduct.contents opened.session.admission opened.session.cancellation := by
  rcases serving.receivable.streaming.held with ⟨_, _, same, _⟩
  rw [same]
  exact serving.compliant.toSparesFlash

theorem Serving.observed (serving : Serving platform conduct decides initial terms [] opened)
    (chunks : List Bytes) (bounded : chunks.flatten.length ≤ terms.packageSize) :
    observe platform conduct.contents (Ota.feed platform chunks opened) =
      deserved platform.sizeMax conduct decides initial terms chunks.flatten := by
  rcases serving.feed chunks bounded with ⟨fine, final⟩ | ⟨reason, failed, rejected, untouched⟩
  · have good := final.verdict_ok
    have contents := final.contents
    rcases final.finish with ⟨reached, ended, complete, _, ready⟩ | ⟨reason, reached, ended, incomplete, reported⟩
    · rw [List.nil_append] at good contents complete ready
      simp only [observe, deserved, fine, good, ended, complete, contents, ready]
    · rw [List.nil_append] at good contents incomplete
      simp only [observe, deserved, fine, good, ended, incomplete, contents]
      cases reason with
      | ok => exact absurd reported Bool.false_ne_true
      | _ => rfl
  · rw [List.nil_append] at rejected
    simp only [observe, deserved, failed, rejected, untouched]

/-- The boundaries between the chunks have no influence: neither on the first
error, on Flash, on the result of finishing nor on what is published. -/
theorem chunking_immaterial (opening : Opening platform conduct decides arguments opened)
    (first second : List Bytes) (same : first.flatten = second.flatten)
    (bounded : first.flatten.length ≤ arguments.packageSize) :
    observe platform conduct.contents (feed platform first opened) =
      observe platform conduct.contents (feed platform second opened) := by
  rcases opening.serving with ⟨initial, terms, serving, size, _⟩
  rw [← size] at bounded
  rw [serving.observed first bounded, serving.observed second (same ▸ bounded), same]

/-- A package at once, and cut inside its signature. -/
theorem chunking_immaterial_sample :
    observe sampleDevice sampleConduct.contents (feed sampleDevice [samplePackage] sampleSystem) =
      observe sampleDevice sampleConduct.contents
        (feed sampleDevice [samplePackage.take 350, [], samplePackage.drop 350] sampleSystem) := by
  refine chunking_immaterial sample_opening [samplePackage] [samplePackage.take 350, [], samplePackage.drop 350] ?_ ?_
  · simp
  · rw [List.flatten_singleton, length_samplePackage]
    exact Nat.le_refl _

/-- The session is a function of the bytes received. -/
theorem Serving.session_eq {got : Bytes} {system : System World}
    (serving : Serving platform conduct decides initial terms got system) :
    system.session = sessionAt terms (Stage.after got) .receiving .ok := by
  have receiving := serving.state
  rcases serving.receivable.streaming.held with ⟨state, error, same, alive⟩
  rw [same] at receiving ⊢
  rcases alive rfl with ⟨rfl, rfl⟩ | ⟨rfl, _⟩
  · rfl
  · cases receiving

/-- Two ways of cutting a package are observed alike and, if no call fails,
leave the same session behind. -/
theorem chunking_independent (opening : Opening platform conduct decides arguments opened)
    (first second : List Bytes) (same : first.flatten = second.flatten)
    (whole : first.flatten.length = arguments.packageSize) :
    observe platform conduct.contents (feed platform first opened) =
        observe platform conduct.contents (feed platform second opened) ∧
      (firstFailure (feed platform first opened).1 = none ->
        (feed platform first opened).2.session = (feed platform second opened).2.session) := by
  rcases opening.serving with ⟨initial, terms, serving, size, _⟩
  have bounded : first.flatten.length ≤ terms.packageSize := Nat.le_of_eq (whole.trans size.symm)
  refine ⟨by rw [serving.observed first bounded, serving.observed second (same ▸ bounded), same], fun fine => ?_⟩
  rcases serving.feed first bounded with ⟨_, one⟩ | ⟨_, failed, _⟩
  · rcases serving.feed second (same ▸ bounded) with ⟨_, other⟩ | ⟨_, _, rejected, _⟩
    · rw [one.session_eq, other.session_eq, same]
    · rw [← same] at rejected
      cases one.verdict_ok.symm.trans rejected
  · cases failed.symm.trans fine

/-- A package at once, and byte by byte. -/
theorem chunking_independent_sample :
    observe sampleDevice sampleConduct.contents (feed sampleDevice [samplePackage] sampleSystem) =
      observe sampleDevice sampleConduct.contents
        (feed sampleDevice (samplePackage.map fun byte => [byte]) sampleSystem) :=
  (chunking_independent sample_opening [samplePackage] (samplePackage.map fun byte => [byte])
    (by rw [List.flatten_singleton]; exact (List.flatMap_singleton' samplePackage).symm)
    (by rw [List.flatten_singleton]; exact length_samplePackage)).1

/-! ## The host tool's packages -/

/-- The device trusts the tool's key, agrees with it on the signature of the
package, and neither takes too long nor declines the update. -/
structure Agreeing (crypto : Cryptography) (publicKey : crypto.PublicKey) (conduct : Conduct World)
    (decides : OTAStagingMetadata -> Int) (parameters : SessionParameters) (package : Bytes) : Prop where
  curve : crypto.publicP256 publicKey = true
  key : crypto.publicBytes publicKey = parameters.publicKey.bytes
  signed : conduct.verifies parameters.publicKey.bytes (Sha256.hash (package.take 320)) (slice package 320 64) = 0 <->
    HostSigned crypto publicKey package
  prompt : conduct.slow parameters.publicKey.bytes (Sha256.hash (package.take 320)) (slice package 320 64) = false
  willing : forall metadata, decides metadata ≠ 0

theorem Agreeing.headerVerdict_iff (agreeing : Agreeing crypto publicKey conduct decides parameters stream) :
    headerVerdict sizeMax conduct decides parameters (stream.take 320) (slice stream 320 64) = .ok () <->
      HeaderAccepted sizeMax parameters (stream.take 320) ∧ HostSigned crypto publicKey stream := by
  rw [headerVerdict, ← decodeHeader_ok_iff, ← agreeing.signed, agreeing.prompt]
  cases (decodeHeader sizeMax parameters (stream.take 320)).verdict with
  | error reason => simp
  | ok accepted =>
      by_cases valid : conduct.verifies parameters.publicKey.bytes (Sha256.hash (stream.take 320))
          (slice stream 320 64) = 0
      · simp [valid, agreeing.willing]
      · simp [valid]

theorem Agreeing.accepted_iff (agreeing : Agreeing crypto publicKey conduct decides parameters stream)
    (whole : stream.length = parameters.packageSize) (sized : 384 < parameters.packageSize) :
    verdict sizeMax conduct decides parameters stream = .ok () ∧ completion parameters stream = .ok () <->
      DeviceAccepts sizeMax parameters stream ∧ HostSigned crypto publicKey stream := by
  have header : headerVerdict sizeMax conduct decides parameters (stream.take 320) (slice stream 320 64) = .ok () <->
    _ := agreeing.headerVerdict_iff
  rw [verdict, if_neg (by omega)]
  constructor
  · rintro ⟨received, finished⟩
    cases judged : headerVerdict sizeMax conduct decides parameters (stream.take 320) (slice stream 320 64) with
    | error reason =>
        rw [judged] at received
        cases received
    | ok fine =>
        rcases header.mp judged with ⟨accepted, signed⟩
        have minimal := accepted.minimal
        have exact := accepted.exact
        simp only [judged] at received
        rw [if_neg (by omega)] at received
        rw [completion, if_neg (not_not.mpr whole)] at finished
        split at finished
        · cases finished
        split at finished
        · cases finished
        rename_i digest descriptor
        exact ⟨⟨accepted, received, not_not.mp digest, not_not.mp descriptor⟩, signed⟩
  · rintro ⟨accepts, signed⟩
    have minimal := accepts.header.minimal
    have exact := accepts.header.exact
    rw [header.mpr ⟨accepts.header, signed⟩, completion, if_neg (not_not.mpr whole),
      if_neg (not_not.mpr accepts.digest), if_neg (not_not.mpr accepts.descriptor)]
    simp only
    rw [if_neg (by omega)]
    exact ⟨accepts.vectors, True.intro⟩

theorem deserved_published_iff : (exists info flash, deserved sizeMax conduct decides initial terms stream =
      .published info flash) <->
    verdict sizeMax conduct decides terms.parameters stream = .ok () ∧
      completion terms.parameters stream = .ok () := by
  rw [deserved]
  cases verdict sizeMax conduct decides terms.parameters stream with
  | error reason => simp
  | ok received =>
      cases completion terms.parameters stream with
      | error reason => simp
      | ok finished => simp

/-- What the tool accepts passes all checks of the engine. -/
theorem Agreeing.accepted (agreeing : Agreeing crypto publicKey conduct decides parameters stream)
    {verified : VerifiedPackage} (fitting : Fitting parameters stream verified.descriptor)
    (accepted : verifyPackage crypto stream publicKey (crypto.publicBytes publicKey) Expectations.none = .ok verified)
    (whole : stream.length = parameters.packageSize) (sized : 384 < parameters.packageSize)
    (size : parameters.packageSize ≤ sizeMax) :
    (verdict sizeMax conduct decides parameters stream = .ok () ∧ completion parameters stream = .ok ()) ∧
      NamesAscii ((stream.take 320).drop 64) := by
  rw [agreeing.key] at accepted
  have valid := verifyPackage_ok_iff.mp accepted
  rcases fitting.device valid whole (whole ▸ size) with ⟨accepts, names⟩
  exact ⟨(agreeing.accepted_iff whole sized).mpr ⟨accepts, valid.signature⟩, names⟩

/-- A package is staged exactly if `verify_package` accepts it and it fits the
device; the ASCII names, which the engine does not check, are the one
difference. -/
theorem staged_iff_verified (opening : Opening platform conduct decides arguments opened) (chunks : List Bytes)
    (agreeing : Agreeing crypto publicKey conduct decides opened.session.parameters chunks.flatten)
    (whole : chunks.flatten.length = arguments.packageSize) (size : arguments.packageSize ≤ platform.sizeMax) :
    (exists info flash, observe platform conduct.contents (feed platform chunks opened) = .published info flash) ∧
        NamesAscii ((chunks.flatten.take 320).drop 64) <->
      exists verified, verifyPackage crypto chunks.flatten publicKey (crypto.publicBytes publicKey)
          Expectations.none = .ok verified ∧
        Fitting opened.session.parameters chunks.flatten verified.descriptor := by
  rcases opening.serving with ⟨initial, terms, serving, sized, same⟩
  rw [← sized] at whole size
  rw [← same] at agreeing ⊢
  rw [serving.observed chunks (Nat.le_of_eq whole), deserved_published_iff]
  constructor
  · rintro ⟨staged, names⟩
    rw [agreeing.accepted_iff whole serving.receivable.sized] at staged
    rcases staged.1.host names whole agreeing.curve agreeing.key staged.2 with ⟨verified, valid, fitting⟩
    rw [agreeing.key]
    exact ⟨verified, verifyPackage_ok_iff.mpr valid, fitting⟩
  · rintro ⟨verified, accepted, fitting⟩
    exact agreeing.accepted fitting accepted whole serving.receivable.sized size

end Steady

/-- A library that accepts every signature. -/
def sampleLibrary : Cryptography :=
  { Package.sampleCryptography blankKey with verify := fun _ _ _ => true }

theorem sample_agreeing :
    Agreeing sampleLibrary () sampleConduct (fun _ => 1) sampleSystem.session.parameters [samplePackage].flatten where
  curve := rfl
  key := rfl
  signed := iff_of_true rfl rfl
  prompt := rfl
  willing := fun _ => by decide

theorem sample_verified : [samplePackage].flatten.length = 1408 ∧
    exists verified, verifyPackage sampleLibrary [samplePackage].flatten () blankKey Expectations.none = .ok verified ∧
      Fitting sampleSystem.session.parameters [samplePackage].flatten verified.descriptor := by
  have plain := Package.sampleIdentity_plain (Sha256.length_hash blankKey)
  have valid : Package.ImageValid (Package.sampleImage blankKey) _ _ _ :=
    Package.imageValid_makeImage plain (Package.sampleIdentity_reads _) (by decide) (by decide : 0x400 ≤ 0x000F4000)
  have image := length_sampleImage
  have laid := (Package.laid_iff valid.long (List.length_replicate : (List.replicate 64 (0 : UInt8)).length = 64)).mp rfl
  rw [List.flatten_singleton]
  refine ⟨length_samplePackage, _, verifyPackage_ok_iff.mpr (Package.Laid.packageValid laid
    (by rw [length_samplePackage, image]) (by rw [image]; decide) rfl valid rfl), rfl, rfl, ?_, ?_⟩
  · rw [length_samplePackage]
    decide
  · decide

theorem staged_iff_verified_sample :
    (exists info flash, observe sampleDevice sampleConduct.contents (feed sampleDevice [samplePackage] sampleSystem) =
      .published info flash) ∧ NamesAscii (([samplePackage].flatten.take 320).drop 64) :=
  (staged_iff_verified sample_opening [samplePackage] sample_agreeing sample_verified.1 (by decide)).mpr
    sample_verified.2

/-- The session goes on with every front of the sample package, and the whole is
complete. -/
theorem sample_serving (chunks : List Bytes) (part : chunks.flatten <+: samplePackage) :
    exists initial terms, Serving sampleDevice sampleConduct (fun _ => 1) initial terms chunks.flatten
        (feed sampleDevice chunks sampleSystem).2 ∧ completion terms.parameters samplePackage = .ok () := by
  rcases sample_verified with ⟨sized, verified, accepted, fitting⟩
  rcases sample_opening.serving with ⟨initial, terms, serving, size, same⟩
  have good := sample_agreeing.accepted fitting accepted sized (by decide) (by decide : 1408 ≤ sampleDevice.sizeMax)
  rw [← same, List.flatten_singleton] at good
  refine ⟨initial, terms, ?_, good.1.2⟩
  have bounded : chunks.flatten.length ≤ terms.packageSize := by
    rw [size]
    exact part.length_le.trans (Nat.le_of_eq length_samplePackage)
  rcases serving.feed chunks bounded with ⟨_, final⟩ | ⟨_, _, rejected, _⟩
  · exact final
  · rcases part with ⟨rest, whole⟩
    have impossible := verdict_append rest rejected
    rw [List.nil_append, whole, good.1.1] at impossible
    cases impossible

theorem sample_fed (chunk : Bytes) : (feed sampleDevice [chunk] sampleSystem).2 =
    run sampleDevice [.begin (openingFor _ 1408), .writePackage (.data chunk)] (System.initial fun _ => 0) := by
  simp only [feed, run, sampleSystem, List.foldl]

theorem sample_ready : exists reached, perform sampleDevice (.finish true) (run sampleDevice
      [.begin (openingFor _ 1408), .writePackage (.data samplePackage)] (System.initial fun _ => 0)) =
    (some .ok, reached) ∧ reached.session.status.state = .ready := by
  rcases sample_serving [samplePackage] (by rw [List.flatten_singleton]) with ⟨_, _, serving, complete⟩
  rw [List.flatten_singleton, sample_fed] at serving
  rcases serving.finish with ⟨reached, ended, _, ready, _⟩ | ⟨_, _, _, incomplete, _⟩
  · exact ⟨reached, ended, ready⟩
  · rw [complete] at incomplete
    cases incomplete

/-! ## What Flash holds -/

/-- Flash holds the image that a result was published for. -/
structure Holds (sizeMax : Nat) (contents : World -> Nat -> UInt8) (system : System World) : Prop where
  digest : Sha256.hash (load (contents system.world) 0 system.session.ready.payloadSize.toNat) =
    system.session.ready.sha256.bytes
  crc : crc16Update 0 (load (contents system.world) 0 system.session.ready.payloadSize.toNat) =
    system.session.ready.crc16
  descriptor : slice (load (contents system.world) 0 system.session.ready.payloadSize.toNat) 0x200 256 =
    slice (headerOf (sessionLog system.log)) 64 256
  signed : exists parameters, parametersOf system.log = some parameters ∧
    Authorised sizeMax parameters (sessionLog system.log)

/-- A success of `OTAStagingFinish` has its evidence in the log, and keeps whatever
the platform and the callbacks keep. -/
theorem Inv.finish_ok {system : System World} (inv : Inv platform system) {Kept : World -> List Event -> Prop}
    (law : Law platform Kept)
    (callbacks : CallbacksKeep Kept system.session.admission system.session.cancellation) {given : Bool}
    (entered : Kept system.world (system.log ++ [.enter (.finish given)]))
    (finished : (perform platform (.finish given) system).1 = some .ok) :
    Verified platform.sizeMax (perform platform (.finish given) system).2.log
        (perform platform (.finish given) system).2.session.ready ∧
      Kept (perform platform (.finish given) system).2.world (perform platform (.finish given) system).2.log := by
  by_cases state : system.session.status.state = .receiving
  · rcases inv.receiving state with ⟨terms, got, receivable⟩
    rcases receivable.streaming.held with ⟨_, _, same, _⟩
    rw [same] at callbacks
    rcases finish_cases given law callbacks receivable state entered with
      ⟨reached, ended, published, _⟩ | ⟨reason, reached, ended, excused, _⟩
    · simp only [perform, dispatch, Request.call, ended]
      exact ⟨published.verified.step rfl rfl rfl rfl, law.internal _ _ (.leave (some .ok)) rfl published.sound.kept⟩
    · simp only [perform, dispatch, Request.call, ended] at finished
      cases finished
      exact absurd excused.cause.reported Bool.false_ne_true
  · have ended : otaStagingFinish platform given (system.record (.enter (.finish given))) =
        (.invalidState, system.record (.enter (.finish given))) := if_pos state
    simp only [perform, dispatch, Request.call, ended] at finished
    cases finished

/-- The image that was read back is what Flash holds, where reads tell the truth. -/
theorem Verified.image_eq {sizeMax : Nat} {contents : World -> Nat -> UInt8} {world : World} {log : List Event}
    {info : OTAStagedImageInfo} (verified : Verified sizeMax log info) (matched : ReadsMatch contents world log) :
    imageOf (callLog log) = load (contents world) 0 info.payloadSize.toNat := by
  rw [verified.payloadSize]
  exact imageOf_eq_load matched verified.finishing verified.clean verified.covered

/-- When `OTAStagingFinish` reports success, Flash holds the signed image, even
if writes went wrong: all that is needed is that reads tell the truth. -/
theorem published_flash_verified {contents : World -> Nat -> UInt8} (faithful : FaithfulReads platform contents)
    (requests : List (Request World)) (world : World) (given : Bool)
    (spares : SparesFlash contents (run platform requests (System.initial world)).session.admission
      (run platform requests (System.initial world)).session.cancellation)
    (finished : (perform platform (.finish given) (run platform requests (System.initial world))).1 = some .ok) :
    Holds platform.sizeMax contents
      (perform platform (.finish given) (run platform requests (System.initial world))).2 := by
  rcases (run_inv platform requests world).finish_ok (readsMatch_law faithful) (readsMatch_callbacks spares)
    (readsMatch_enter _ _ _) finished with ⟨verified, matched⟩
  have image := verified.image_eq matched
  rcases verified.authorised with ⟨parameters, opened, authorised, _⟩
  refine ⟨?_, ?_, ?_, parameters, opened, authorised⟩
  · exact (congrArg Sha256.hash image).symm.trans (verified.imageHash.trans verified.sha256.symm)
  · exact (congrArg (crc16Update 0) image).symm.trans verified.imageCrc
  · exact (congrArg (slice · 0x200 256) image).symm.trans verified.descriptor

theorem published_flash_verified_sample :
    Holds sampleDevice.sizeMax sampleConduct.contents (perform sampleDevice (.finish true) (run sampleDevice
      [.begin (openingFor _ 1408), .writePackage (.data samplePackage)] (System.initial fun _ => 0))).2 := by
  rcases sample_serving [samplePackage] (by rw [List.flatten_singleton]) with ⟨_, _, serving, _⟩
  rw [sample_fed] at serving
  rcases sample_ready with ⟨_, ended, _⟩
  exact published_flash_verified sample_opening.steady.toFaithfulReads
    [.begin (openingFor _ 1408), .writePackage (.data samplePackage)] (fun _ => 0) true serving.spares
    (congrArg Prod.fst ended)

theorem Verified.length_image {sizeMax : Nat} {log : List Event} {info : OTAStagedImageInfo}
    (verified : Verified sizeMax log info) : (imageOf (callLog log)).length = info.payloadSize.toNat := by
  have sum := tiles_sum verified.covered
  rw [readRanges, List.map_map, Nat.zero_add] at sum
  rw [imageOf, List.length_flatMap, verified.payloadSize]
  exact sum

/-- What `OTAStagingFinish` has established when it reports success: the blocks
that this call read back cover the payload in order, and they have the signed
digest, the streamed checksum and the signed descriptor. -/
theorem ready_means_verified (requests : List (Request World)) (world : World) (given : Bool)
    {reached : System World}
    (ended : perform platform (.finish given) (run platform requests (System.initial world)) = (some .ok, reached)) :
    Verified platform.sizeMax reached.log reached.session.ready ∧
      (imageOf (callLog reached.log)).length = reached.session.ready.payloadSize.toNat ∧
      forall contents : World -> Nat -> UInt8, FaithfulReads platform contents ->
        SparesFlash contents (run platform requests (System.initial world)).session.admission
          (run platform requests (System.initial world)).session.cancellation ->
        Sha256.hash (load (contents reached.world) 0 reached.session.ready.payloadSize.toNat) =
          slice (headerOf (sessionLog reached.log)) 20 32 := by
  have inv := run_inv platform requests world
  have finished := congrArg Prod.fst ended
  have verified := (inv.finish_ok (Law.anything platform) (.anything _ _) True.intro finished).1
  rw [ended] at verified
  refine ⟨verified, verified.length_image, fun contents faithful spares => ?_⟩
  have matched := (inv.finish_ok (readsMatch_law faithful) (readsMatch_callbacks spares) (readsMatch_enter _ _ _)
    finished).2
  rw [ended] at matched
  rw [← verified.image_eq matched]
  exact verified.imageHash

theorem ready_means_verified_sample :
    exists reached, perform sampleDevice (.finish true) (run sampleDevice
        [.begin (openingFor _ 1408), .writePackage (.data samplePackage)] (System.initial fun _ => 0)) =
      (some .ok, reached) ∧ Verified sampleDevice.sizeMax reached.log reached.session.ready := by
  rcases sample_ready with ⟨reached, ended, _⟩
  exact ⟨reached, ended, (ready_means_verified _ _ _ ended).1⟩

end Ota
end DevKit

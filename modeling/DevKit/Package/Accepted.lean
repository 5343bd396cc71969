import DevKit.Package.Format

namespace DevKit
namespace Package

/-!
# What the host tool accepts

Each function of the tool raises unless a list of conditions holds.  The
structures below name these conditions, and one theorem per function says that
it returns exactly when they hold.
-/

theorem raiseWhen_ok {bad : Prop} [Decidable bad] {message : String} :
    raiseWhen bad message = .ok () <-> ¬ bad := by
  rw [raiseWhen]
  split
  · rename_i holds
    exact ⟨fun impossible => (nomatch impossible), fun fine => absurd holds fine⟩
  · rename_i fine
    exact ⟨fun _ => fine, fun _ => rfl⟩

theorem bind_ok {program : Except PythonError X} {next : X -> Except PythonError Y} {value : Y} :
    (program >>= next) = .ok value <-> exists middle, program = .ok middle ∧ next middle = .ok value := by
  cases program with
  | error reason =>
      constructor
      · intro impossible
        cases impossible
      · rintro ⟨middle, impossible, _⟩
        cases impossible
  | ok middle =>
      constructor
      · exact fun later => ⟨middle, rfl, later⟩
      · rintro ⟨other, same, later⟩
        cases same
        exact later

theorem raise_bind_ok {bad : Prop} [Decidable bad] {message : String} {next : Unit -> Except PythonError X}
    {value : X} : (raiseWhen bad message >>= next) = .ok value <-> ¬ bad ∧ next () = .ok value := by
  rw [bind_ok]
  constructor
  · rintro ⟨_, fine, later⟩
    exact ⟨raiseWhen_ok.mp fine, later⟩
  · rintro ⟨fine, later⟩
    exact ⟨(), raiseWhen_ok.mpr fine, later⟩

theorem any_ne_zero {data : Bytes} : ¬ (data.any (· ≠ 0) = true) <-> forall byte, byte ∈ data -> byte = 0 := by
  rw [List.any_eq_true]
  constructor
  · intro none byte member
    by_contra nonzero
    exact none ⟨byte, member, decide_eq_true nonzero⟩
  · rintro zeros ⟨byte, member, nonzero⟩
    exact of_decide_eq_true nonzero (zeros byte member)

/-! ## Padded fields -/

/-- A field is a nonempty text without NUL bytes, padded with at least one. -/
structure Padded (field raw : Bytes) : Prop where
  nonempty : raw ≠ []
  nonzero : forall byte, byte ∈ raw -> byte ≠ 0
  padding : exists count, field = raw ++ List.replicate (count + 1) 0

theorem idxOf?_zero {raw tail : Bytes} (nonzero : forall byte, byte ∈ raw -> byte ≠ 0) :
    (raw ++ 0 :: tail).idxOf? 0 = some raw.length := by
  induction raw with
  | nil => rfl
  | cons byte raw inductionHypothesis =>
      have first := nonzero byte List.mem_cons_self
      have later := inductionHypothesis fun other member => nonzero other (List.mem_cons_of_mem byte member)
      rw [List.cons_append, List.idxOf?_cons, if_neg (by rw [beq_iff_eq]; exact first), later]
      rfl

theorem take_idxOf?_zero {field : Bytes} {terminator : Nat} (found : field.idxOf? 0 = some terminator) :
    exists tail, field = field.take terminator ++ 0 :: tail ∧
      terminator = (field.take terminator).length ∧ forall byte, byte ∈ field.take terminator -> byte ≠ 0 := by
  induction field generalizing terminator with
  | nil => cases found
  | cons byte field inductionHypothesis =>
      rw [List.idxOf?_cons] at found
      split at found
      · rename_i zero
        cases found
        refine ⟨field, ?_, rfl, fun other member => absurd member List.not_mem_nil⟩
        rw [List.take_zero, List.nil_append, beq_iff_eq.mp zero]
      · rename_i nonzero
        rcases Option.map_eq_some_iff.mp found with ⟨index, deeper, rfl⟩
        rcases inductionHypothesis deeper with ⟨tail, split, length, others⟩
        refine ⟨tail, ?_, ?_, fun other member => ?_⟩
        · rw [List.take_succ_cons, List.cons_append, ← split]
        · rw [List.take_succ_cons, List.length_cons, ← length]
        · rw [List.take_succ_cons, List.mem_cons] at member
          rcases member with rfl | later
          · exact fun zero => nonzero (beq_iff_eq.mpr zero)
          · exact others other later

theorem canonicalString_ok_iff {field : Bytes} {name : String} {text : Text} :
    canonicalString field name = .ok text <-> exists raw, Padded field raw ∧ decodeAscii raw = some text := by
  constructor
  · intro accepted
    unfold canonicalString at accepted
    split at accepted
    · cases accepted
    rename_i terminator found
    split at accepted
    · cases accepted
    rename_i canonical
    split at accepted
    · cases accepted
    rename_i decoded ascii
    cases accepted
    rw [not_or, any_ne_zero] at canonical
    rcases take_idxOf?_zero found with ⟨tail, split, length, nonzero⟩
    refine ⟨field.take terminator, ⟨?_, nonzero, tail.length, ?_⟩, ascii⟩
    · intro empty
      rw [empty] at length
      exact canonical.1 length
    · have zeros : tail = List.replicate tail.length 0 := by
        refine List.eq_replicate_of_mem (fun byte member => canonical.2 byte ?_)
        rw [split, List.drop_append, ← length]
        have past : terminator + 1 - terminator = 1 := by omega
        rw [past]
        exact List.mem_append_right _ member
      rw [List.replicate_succ, ← zeros]
      exact split
  · rintro ⟨raw, ⟨nonempty, nonzero, count, rfl⟩, ascii⟩
    have found : (raw ++ List.replicate (count + 1) 0).idxOf? 0 = some raw.length := by
      rw [List.replicate_succ]
      exact idxOf?_zero nonzero
    have canonical : ¬ (raw.length = 0 ∨
        ((raw ++ List.replicate (count + 1) 0).drop (raw.length + 1)).any (· ≠ 0) = true) := by
      rw [not_or, any_ne_zero]
      refine ⟨fun empty => nonempty (List.length_eq_zero_iff.mp empty), fun byte member => ?_⟩
      rw [List.drop_append] at member
      rcases List.mem_append.mp member with inside | outside
      · rw [List.drop_eq_nil_of_le (Nat.le_succ _)] at inside
        exact absurd inside List.not_mem_nil
      · exact List.eq_of_mem_replicate (List.mem_of_mem_drop outside)
    rw [canonicalString, found]
    simp only
    rw [if_neg canonical, List.take_left, ascii]

/-! ## Descriptors -/

/-- The conditions under which `parse_descriptor` returns. -/
structure DescriptorValid (data : Bytes) (descriptor : Descriptor) : Prop where
  length : data.length = 256
  magic : data.take 8 = descriptorMagic
  version : leNat (slice data 8 2) = 1
  size : leNat (slice data 10 2) = 256
  profile : leNat (slice data 12 4) = 1
  packageVersion : leNat (slice data 160 4) = 1
  reserved : forall byte, byte ∈ data.drop 196 -> byte = 0
  product : exists raw, Padded (slice data 16 32) raw ∧ decodeAscii raw = some descriptor.productId
  board : exists raw, Padded (slice data 48 32) raw ∧ decodeAscii raw = some descriptor.boardId
  firmware : exists raw, Padded (slice data 80 32) raw ∧ decodeAscii raw = some descriptor.firmwareVersion
  versionValid : validateVersion descriptor.firmwareVersion = .ok ()
  source : decodeAscii (slice data 112 40) = some descriptor.sourceCommit
  sourceValid : sourcePattern.rmatch descriptor.sourceCommit = true
  address : descriptor.applicationAddress = leNat (slice data 152 4)
  capacity : descriptor.applicationCapacity = leNat (slice data 156 4)
  aligned : descriptor.applicationAddress &&& 0x1FF = 0
  positive : descriptor.applicationCapacity ≠ 0
  bounded : descriptor.applicationAddress + descriptor.applicationCapacity < 0x100000000
  keyId : descriptor.keyId = slice data 164 32

theorem parseDescriptor_ok_iff {data : Bytes} {descriptor : Descriptor} :
    parseDescriptor data = .ok descriptor <-> DescriptorValid data descriptor := by
  constructor
  · intro accepted
    unfold parseDescriptor at accepted
    simp only [↓raise_bind_ok, bind_ok, canonicalString_ok_iff] at accepted
    rcases accepted with ⟨length, magic, format, reserved, product, foundProduct, board, foundBoard, version,
      foundVersion, _, versionValid, rest⟩
    split at rest
    · cases rest
    rename_i source ascii
    simp only [raise_bind_ok] at rest
    rcases rest with ⟨sourceValid, aligned, positive, bounded, result⟩
    cases result
    rw [not_or, not_or, not_or, not_not, not_not, not_not, not_not] at format
    exact ⟨not_not.mp length, not_not.mp magic, format.1, format.2.1, format.2.2.1, format.2.2.2,
      any_ne_zero.mp reserved, foundProduct, foundBoard, foundVersion, versionValid, ascii,
      Bool.of_not_eq_false sourceValid, rfl, rfl, not_not.mp aligned, positive, Nat.not_le.mp bounded, rfl⟩
  · rintro ⟨length, magic, version, size, profile, packageVersion, reserved, product, board, firmware,
      versionValid, source, sourceValid, address, capacity, aligned, positive, bounded, keyId⟩
    unfold parseDescriptor
    simp only [↓raise_bind_ok, bind_ok, canonicalString_ok_iff]
    refine ⟨not_not.mpr length, not_not.mpr magic, ?_, any_ne_zero.mpr reserved, _, product, _, board, _,
      firmware, (), versionValid, ?_⟩
    · rw [not_or, not_or, not_or, not_not, not_not, not_not, not_not]
      exact ⟨version, size, profile, packageVersion⟩
    · rw [address] at aligned bounded
      rw [capacity] at positive bounded
      rw [source]
      simp only [raise_bind_ok]
      refine ⟨?_, not_not.mpr aligned, positive, Nat.not_le.mpr bounded, ?_⟩
      · rw [sourceValid]
        exact Bool.noConfusion
      · rw [← address, ← capacity, ← keyId]
        rfl

/-! ## Images -/

theorem checkExpected_keyId {descriptor : Descriptor} {keyId : Bytes} {expected : Expectations}
    (accepted : checkExpected descriptor keyId expected = .ok ()) : descriptor.keyId = keyId := by
  simp only [checkExpected, bind_ok] at accepted
  rcases accepted with ⟨_, _, _, _, _, _, _, _, _, _, _, _, _, _, _, _, matched⟩
  exact not_not.mp (raiseWhen_ok.mp matched)

theorem checkExpected_none {descriptor : Descriptor} {keyId : Bytes} (same : descriptor.keyId = keyId) :
    checkExpected descriptor keyId Expectations.none = .ok () := by
  have fine : raiseWhen (descriptor.keyId ≠ keyId) "descriptor signing-key identifier does not match" = .ok () :=
    raiseWhen_ok.mpr (not_not.mpr same)
  exact fine

/-- The conditions under which `validate_raw_image` returns. -/
structure ImageValid (image keyId : Bytes) (expected : Expectations) (descriptor : Descriptor) : Prop where
  keyLength : keyId.length = 32
  long : 0x200 + 256 ≤ image.length
  parsed : DescriptorValid (slice image 0x200 256) descriptor
  fits : image.length ≤ descriptor.applicationCapacity
  stackAligned : leNat (slice image 0 4) &&& 7 = 0
  stackAbove : 0x200001C4 < leNat (slice image 0 4)
  stackBelow : leNat (slice image 0 4) ≤ 0x20040000
  thumb : leNat (slice image 4 4) &&& 1 ≠ 0
  ends : descriptor.applicationAddress + image.length ≤ 0x100000000
  handlerAbove : descriptor.applicationAddress ≤ leNat (slice image 4 4) &&& 0xFFFFFFFE
  handlerBelow : (leNat (slice image 4 4) &&& 0xFFFFFFFE) + 2 ≤ descriptor.applicationAddress + image.length
  matched : checkExpected descriptor keyId expected = .ok ()

theorem validateRawImage_ok_iff {image keyId : Bytes} {expected : Expectations} {descriptor : Descriptor} :
    validateRawImage image keyId expected = .ok descriptor <-> ImageValid image keyId expected descriptor := by
  constructor
  · intro accepted
    unfold validateRawImage at accepted
    simp only [↓raise_bind_ok, bind_ok, parseDescriptor_ok_iff] at accepted
    rcases accepted with ⟨keyLength, long, parsed, valid, fits, stack, thumb, handler, _, matched, result⟩
    cases result
    rw [not_or, not_or, not_not] at stack
    rw [not_or, not_or] at handler
    exact ⟨not_not.mp keyLength, Nat.not_lt.mp long, valid, Nat.not_lt.mp fits, stack.1, Nat.not_le.mp stack.2.1,
      Nat.not_lt.mp stack.2.2, thumb, Nat.not_lt.mp handler.1, Nat.not_lt.mp handler.2.1,
      Nat.not_lt.mp handler.2.2, matched⟩
  · rintro ⟨keyLength, long, valid, fits, stackAligned, stackAbove, stackBelow, thumb, ends, handlerAbove,
      handlerBelow, matched⟩
    unfold validateRawImage
    simp only [↓raise_bind_ok, bind_ok, parseDescriptor_ok_iff]
    refine ⟨not_not.mpr keyLength, Nat.not_lt.mpr long, descriptor, valid, Nat.not_lt.mpr fits, ?_, thumb, ?_, (),
      matched, rfl⟩
    · rw [not_or, not_or, not_not]
      exact ⟨stackAligned, Nat.not_le.mpr stackAbove, Nat.not_lt.mpr stackBelow⟩
    · rw [not_or, not_or]
      exact ⟨Nat.not_lt.mpr ends, Nat.not_lt.mpr handlerAbove, Nat.not_lt.mpr handlerBelow⟩

/-! ## Packages -/

/-- The conditions under which `verify_package` returns. -/
structure PackageValid (crypto : Cryptography) (package : Bytes) (publicKey : crypto.PublicKey)
    (publicDer : Bytes) (expected : Expectations) (verified : VerifiedPackage) : Prop where
  curve : crypto.publicP256 publicKey = true
  der : crypto.publicBytes publicKey = publicDer
  long : 384 + 1 ≤ package.length
  magic : slice package 0 8 = packageMagic
  version : leNat (slice package 8 2) = 1
  headerSize : leNat (slice package 10 2) = 320
  algorithm : leNat (slice package 12 2) = 1
  signatureSize : leNat (slice package 14 2) = 64
  reserved : forall byte, byte ∈ slice package 52 12 -> byte = 0
  length : leNat (slice package 16 4) + 384 = package.length
  embeddedLength : (slice (package.drop 384) 0x200 256).length = 256
  embedded : slice (package.drop 384) 0x200 256 = slice package 64 256
  image : ImageValid (package.drop 384) (Sha256.hash publicDer) expected verified.descriptor
  digest : Sha256.hash (package.drop 384) = slice package 20 32
  signature : crypto.verify publicKey (crypto.encodeDssSignature (beNat ((slice package 320 64).take 32))
    (beNat ((slice package 320 64).drop 32))) (package.take 320) = true
  payloadLength : verified.payloadLength = leNat (slice package 16 4)
  payloadSha256 : verified.payloadSha256 = slice package 20 32

theorem verifyPackage_ok_iff {crypto : Cryptography} {package : Bytes} {publicKey : crypto.PublicKey}
    {publicDer : Bytes} {expected : Expectations} {verified : VerifiedPackage} :
    verifyPackage crypto package publicKey publicDer expected = .ok verified <->
      PackageValid crypto package publicKey publicDer expected verified := by
  constructor
  · intro accepted
    unfold verifyPackage at accepted
    simp only [↓raise_bind_ok, bind_ok, validateRawImage_ok_iff] at accepted
    rcases accepted with ⟨curve, der, long, magic, format, reserved, length, embedded, descriptor, image, digest,
      signature, result⟩
    cases result
    rw [not_or, not_or, not_or, not_not, not_not, not_not, not_not] at format
    rw [not_or, not_not, not_not] at embedded
    exact ⟨Bool.of_not_eq_false curve, not_not.mp der, Nat.not_lt.mp long, not_not.mp magic, format.1, format.2.1,
      format.2.2.1, format.2.2.2, any_ne_zero.mp reserved, not_not.mp length, embedded.1, embedded.2, image,
      not_not.mp digest, Bool.of_not_eq_false signature, rfl, rfl⟩
  · rintro ⟨curve, der, long, magic, version, headerSize, algorithm, signatureSize, reserved, length,
      embeddedLength, embedded, image, digest, signature, payloadLength, payloadSha256⟩
    unfold verifyPackage
    simp only [↓raise_bind_ok, bind_ok, validateRawImage_ok_iff]
    refine ⟨?_, not_not.mpr der, Nat.not_lt.mpr long, not_not.mpr magic, ?_, any_ne_zero.mpr reserved,
      not_not.mpr length, ?_, verified.descriptor, image, not_not.mpr digest, ?_, ?_⟩
    · rw [curve]
      exact Bool.noConfusion
    · rw [not_or, not_or, not_or, not_not, not_not, not_not, not_not]
      exact ⟨version, headerSize, algorithm, signatureSize⟩
    · rw [not_or, not_not, not_not]
      exact ⟨embeddedLength, embedded⟩
    · rw [signature]
      exact Bool.noConfusion
    · rw [← payloadLength, ← payloadSha256]
      rfl

end Package
end DevKit

import DevKit.Ota.Outcome
import DevKit.Ota.Version

namespace DevKit
namespace Ota

/-!
# The device and the host tool read the same format

`verify_package` and the staging engine are two implementations of one package
format, written in two languages over different integers: the tool compares
unbounded numbers, the engine 32-bit words whose sums could wrap around.  Here
the checks of both are matched, group by group.  They agree on everything but
one point: the tool insists on ASCII in the product and board identifiers and
the engine does not look.

What the device knows beyond the package is where its partitions are; the
tool's optional expectations are not used.
-/

open Package (Padded decodeAscii validateVersion Descriptor DescriptorValid ImageValid PackageValid Cryptography
  Expectations VerifiedPackage charClass sourcePattern mem_charClass)

/-! ## Words -/

theorem readLittleEndian16_drop (bytes : Bytes) (offset : Nat) (within : offset + 2 ≤ bytes.length) :
    (readLittleEndian16 (bytes.drop offset)).toNat = leNat (slice bytes offset 2) :=
  readLittleEndian16_toNat _ (by rw [List.length_drop]; omega)

theorem readLittleEndian32_drop (bytes : Bytes) (offset : Nat) (within : offset + 4 ≤ bytes.length) :
    (readLittleEndian32 (bytes.drop offset)).toNat = leNat (slice bytes offset 4) :=
  readLittleEndian32_toNat _ (by rw [List.length_drop]; omega)

/-- The engine's test that a range ends inside the address space. -/
theorem le_top_sub_iff (start length : UInt32) :
    start ≤ 0xFFFFFFFF - length <-> start.toNat + length.toNat < 0x100000000 := by
  have bound : length.toNat < 2 ^ 32 := length.toNat_lt
  rw [UInt32.le_iff_toNat_le, UInt32.toNat_sub_of_le]
  · change _ ≤ 0xFFFFFFFF - _ <-> _
    omega
  · rw [UInt32.le_iff_toNat_le]
    exact Nat.le_of_lt_succ bound

/-! ## Text -/

/-- The text of a padded field is ASCII when the field is. -/
theorem decodeAscii_of_padded {field raw : Bytes} (padded : Padded field raw) :
    field.all (· < 0x80) = true <-> exists text, decodeAscii raw = some text := by
  have same : field.all (· < 0x80) = raw.all (· < 0x80) := by
    rcases padded.padding with ⟨count, split⟩
    rw [split, List.all_append, List.all_replicate]
    simp
  rw [same, decodeAscii]
  constructor
  · exact fun small => ⟨_, if_pos small⟩
  · rintro ⟨text, decoded⟩
    by_contra large
    rw [if_neg large] at decoded
    cases decoded

/-- A class repeated a fixed number of times. -/
theorem mem_charClass_pow {characters : List Char} {count : Nat} {text : Package.Text} :
    text ∈ ((charClass characters) ^ count).matches' <->
      text.length = count ∧ forall character, character ∈ text -> character ∈ characters := by
  rw [RegularExpression.matches'_pow]
  induction count generalizing text with
  | zero =>
      rw [pow_zero, Language.mem_one, List.length_eq_zero_iff]
      constructor
      · rintro rfl
        exact ⟨rfl, fun _ member => absurd member List.not_mem_nil⟩
      · exact And.left
  | succ count inductionHypothesis =>
      rw [pow_succ', Language.mem_mul]
      constructor
      · rintro ⟨first, one, rest, later, rfl⟩
        rcases mem_charClass.mp one with ⟨character, inside, rfl⟩
        rcases inductionHypothesis.mp later with ⟨length, all⟩
        exact ⟨congrArg Nat.succ length, List.forall_mem_cons.mpr ⟨inside, all⟩⟩
      · rintro ⟨length, all⟩
        cases text with
        | nil => cases length
        | cons character text =>
            rcases List.forall_mem_cons.mp all with ⟨inside, later⟩
            exact ⟨[character], mem_charClass.mpr ⟨character, inside, rfl⟩, text,
              inductionHypothesis.mpr ⟨Nat.succ.inj length, later⟩, rfl⟩

theorem isSourceCharacter_iff (byte : UInt8) :
    isSourceCharacter byte = true <-> Char.ofNat byte.toNat ∈ "0123456789abcdef".toList := by
  revert byte
  decide +kernel

theorem validSourceCommit_iff {source : Bytes} (sized : source.length = 40) :
    validSourceCommit source = true <->
      exists text, decodeAscii source = some text ∧ sourcePattern.rmatch text = true := by
  have small (byte : UInt8) (inside : isSourceCharacter byte = true) : byte < 0x80 := by
    revert inside
    revert byte
    decide +kernel
  rw [validSourceCommit, List.all_eq_true]
  constructor
  · intro valid
    have ascii : source.all (· < 0x80) = true :=
      List.all_eq_true.mpr fun byte member => decide_eq_true (small byte (valid byte member))
    refine ⟨_, if_pos ascii, ?_⟩
    rw [RegularExpression.rmatch_iff_matches', sourcePattern, mem_charClass_pow, List.length_map]
    refine ⟨sized, fun character member => ?_⟩
    rcases List.mem_map.mp member with ⟨byte, written, rfl⟩
    exact (isSourceCharacter_iff byte).mp (valid byte written)
  · rintro ⟨text, decoded, matched⟩ byte member
    have known : text = source.map fun byte => Char.ofNat byte.toNat := by
      unfold decodeAscii at decoded
      split at decoded
      · exact (Option.some.inj decoded).symm
      · cases decoded
    rw [RegularExpression.rmatch_iff_matches', sourcePattern, mem_charClass_pow, known] at matched
    exact (isSourceCharacter_iff byte).mpr (matched.2 _ (List.mem_map_of_mem member))

/-! ## Identifiers and version -/

/-- The three identifier copies and the source commit. -/
theorem decodeStrings_iff {data : Bytes} :
    (decodeStrings data).1 = true <-> canonicalString (slice data 16 32) = true ∧
      canonicalString (slice data 48 32) = true ∧ canonicalString (slice data 80 32) = true ∧
      validSourceCommit (slice data 112 40) = true := by
  unfold decodeStrings
  cases canonicalString (slice data 16 32) with
  | false => simp
  | true =>
      cases canonicalString (slice data 48 32) with
      | false => simp
      | true =>
          cases canonicalString (slice data 80 32) with
          | false => simp
          | true => simp

/-- The version that is parsed is the field of the descriptor. -/
theorem firmwareVersion_headerFields {header : Bytes} (long : 320 ≤ header.length)
    (strings : (decodeStrings (header.drop 64)).1 = true) :
    (headerFields header).firmwareVersion.bytes = slice (header.drop 64) 80 32 := by
  rcases decodeStrings_iff.mp strings with ⟨product, board, version, _⟩
  have sized : (slice (header.drop 64) 80 32).length = 32 :=
    length_slice _ 80 32 (by rw [List.length_drop]; omega)
  simp only [headerFields, decodeStrings, product, board, version, Bool.not_true, Bool.false_eq_true, if_false]
  exact Buffer.fill_bytes_of_length _ sized

/-- The engine accepts the version exactly when the tool does. -/
theorem parseVersion_iff_host {metadata : OTAStagingMetadata} {raw : Bytes}
    (padded : Padded metadata.firmwareVersion.bytes raw) :
    (parseVersion metadata).1 = true <->
      exists version, decodeAscii raw = some version ∧ validateVersion version = .ok () := by
  constructor
  · intro accepted
    rcases triple_of_parseVersion padded accepted with ⟨first, second, third, triple⟩
    rcases decodeAscii_of_triple triple with ⟨version, decoded⟩
    exact ⟨version, decoded, (validateVersion_iff decoded).mpr ⟨first, second, third, triple⟩⟩
  · rintro ⟨version, decoded, valid⟩
    rcases (validateVersion_iff decoded).mp valid with ⟨first, second, third, triple⟩
    rw [parseVersion_of_triple padded triple]

/-! ## Vectors -/

/-- The checks of the tool on the first eight bytes of an image. -/
structure VectorsValid (image : Bytes) (address size : Nat) : Prop where
  stackAligned : leNat (slice image 0 4) &&& 7 = 0
  stackAbove : 0x200001C4 < leNat (slice image 0 4)
  stackBelow : leNat (slice image 0 4) ≤ 0x20040000
  thumb : leNat (slice image 4 4) &&& 1 ≠ 0
  handlerAbove : address ≤ leNat (slice image 4 4) &&& 0xFFFFFFFE
  handlerBelow : (leNat (slice image 4 4) &&& 0xFFFFFFFE) + 2 ≤ address + size

/-- When the image ends inside the address space, no sum of the engine wraps
around. -/
theorem validateVectors_iff {image : Bytes} {application : OTAStagingPartition} {payloadSize : UInt32}
    (long : 8 ≤ image.length) (large : 2 ≤ payloadSize.toNat)
    (ends : application.start.toNat + payloadSize.toNat < 2 ^ 32) :
    validateVectors (image.take 8) application payloadSize = .ok () <->
      VectorsValid image application.start.toNat payloadSize.toNat := by
  have sized : (image.take 8).length = 8 := by
    rw [List.length_take]
    omega
  have stack : (readLittleEndian32 (image.take 8)).toNat = leNat (slice image 0 4) := by
    rw [← slice_take image 8 0 4 (by decide)]
    exact readLittleEndian32_drop (image.take 8) 0 (by omega)
  have reset : (readLittleEndian32 ((image.take 8).drop 4)).toNat = leNat (slice image 4 4) := by
    rw [← slice_take image 8 4 4 (by decide)]
    exact readLittleEndian32_drop (image.take 8) 4 (by omega)
  have handler : (readLittleEndian32 ((image.take 8).drop 4) &&& ~~~1).toNat =
      leNat (slice image 4 4) &&& 0xFFFFFFFE := by
    rw [UInt32.toNat_and, reset]
    rfl
  have bounded := (readLittleEndian32 ((image.take 8).drop 4) &&& ~~~1).toNat_lt
  have aligned : readLittleEndian32 (image.take 8) &&& 7 = 0 <-> leNat (slice image 0 4) &&& 7 = 0 := by
    rw [← UInt32.toNat_inj, UInt32.toNat_and, stack]
    rfl
  have thumb : readLittleEndian32 ((image.take 8).drop 4) &&& 1 = 0 <-> leNat (slice image 4 4) &&& 1 = 0 := by
    rw [← UInt32.toNat_inj, UInt32.toNat_and, reset]
    rfl
  have room := (le_top_sub_iff application.start payloadSize).mpr ends
  rw [UInt32.le_iff_toNat_le] at room
  unfold validateVectors
  simp only [ne_eq, gt_iff_lt, aligned, thumb]
  simp only [UInt32.lt_iff_toNat_lt, UInt32.le_iff_toNat_le, UInt32.toNat_add, handler, stack]
  rw [handler] at bounded
  simp only [UInt32.reduceToNat, UInt32.reduceSub]
  constructor
  · intro accepted
    split at accepted
    · cases accepted
    rename_i words
    split at accepted
    · cases accepted
    rename_i handlers
    simp only [not_or, not_not, Nat.not_lt, Nat.not_le] at words handlers
    refine ⟨words.1, words.2.1, words.2.2.1, words.2.2.2, handlers.1, ?_⟩
    have inside := handlers.2.2.2.2
    omega
  · intro valid
    have above := valid.handlerAbove
    have below := valid.handlerBelow
    rw [if_neg, if_neg]
    · simp only [not_or, Nat.not_lt]
      omega
    · simp only [not_or, not_not, Nat.not_lt, Nat.not_le]
      exact ⟨valid.stackAligned, valid.stackAbove, valid.stackBelow, valid.thumb⟩

/-! ## Descriptors -/

/-- The checks of the engine on the descriptor in a header. -/
structure DescriptorAccepted (header : Bytes) : Prop where
  magic : (header.drop 64).take 8 = descriptorMagic
  size : (readLittleEndian16 ((header.drop 64).drop 10)).toNat = 256
  reserved : allZero (slice (header.drop 64) 196 60) = true
  version : (readLittleEndian16 ((header.drop 64).drop 8)).toNat = 1
  flags : (readLittleEndian32 ((header.drop 64).drop 12)).toNat = 1
  algorithm : (readLittleEndian32 ((header.drop 64).drop 160)).toNat = 1
  strings : (decodeStrings (header.drop 64)).1 = true
  parsed : (parseVersion (headerFields header)).1 = true

/-- Both identifiers are ASCII. -/
def NamesAscii (data : Bytes) : Prop :=
  (slice data 16 32).all (· < 0x80) = true ∧ (slice data 48 32).all (· < 0x80) = true

theorem headerMetadata_partition (header : Bytes) :
    (headerMetadata header).applicationAddress = readLittleEndian32 ((header.drop 64).drop 152) ∧
      (headerMetadata header).applicationCapacity = readLittleEndian32 ((header.drop 64).drop 156) := by
  rcases parseVersion_eq (headerFields header) with ⟨major, minor, patch, same⟩
  rw [headerMetadata, same]
  exact ⟨rfl, rfl⟩

/-- The tool accepts the descriptors that the engine accepts and whose names
are ASCII, provided that they describe a partition inside the address space. -/
theorem descriptorAccepted_iff {header : Bytes} (sized : header.length = 320)
    (aligned : leNat (slice (header.drop 64) 152 4) &&& 0x1FF = 0)
    (positive : leNat (slice (header.drop 64) 156 4) ≠ 0)
    (bounded : leNat (slice (header.drop 64) 152 4) + leNat (slice (header.drop 64) 156 4) < 0x100000000) :
    DescriptorAccepted header ∧ NamesAscii (header.drop 64) <->
      exists descriptor, DescriptorValid (header.drop 64) descriptor := by
  have length : (header.drop 64).length = 256 := by rw [List.length_drop, sized]
  have word16 (offset : Nat) (within : offset + 2 ≤ 256) := readLittleEndian16_drop (header.drop 64) offset
    (by rw [length]; exact within)
  have word32 (offset : Nat) (within : offset + 4 ≤ 256) := readLittleEndian32_drop (header.drop 64) offset
    (by rw [length]; exact within)
  have source := length_slice (header.drop 64) 112 40 (by omega)
  have tail : slice (header.drop 64) 196 60 = (header.drop 64).drop 196 :=
    List.take_of_length_le (by rw [List.length_drop, length])
  constructor
  · rintro ⟨accepted, productAscii, boardAscii⟩
    rcases decodeStrings_iff.mp accepted.strings with ⟨product, board, version, commit⟩
    rcases canonicalString_iff.mp product with ⟨rawProduct, paddedProduct⟩
    rcases canonicalString_iff.mp board with ⟨rawBoard, paddedBoard⟩
    rcases canonicalString_iff.mp version with ⟨rawVersion, paddedVersion⟩
    rcases (decodeAscii_of_padded paddedProduct).mp productAscii with ⟨productId, decodedProduct⟩
    rcases (decodeAscii_of_padded paddedBoard).mp boardAscii with ⟨boardId, decodedBoard⟩
    have field := firmwareVersion_headerFields (Nat.le_of_eq sized.symm) accepted.strings
    rcases (parseVersion_iff_host (field.symm ▸ paddedVersion)).mp accepted.parsed with
      ⟨firmwareVersion, decodedVersion, versionValid⟩
    rcases (validSourceCommit_iff source).mp commit with ⟨sourceCommit, decodedSource, sourceValid⟩
    refine ⟨⟨productId, boardId, firmwareVersion, sourceCommit, leNat (slice (header.drop 64) 152 4),
      leNat (slice (header.drop 64) 156 4), slice (header.drop 64) 164 32⟩, length, accepted.magic, ?_, ?_, ?_, ?_,
      ?_, ⟨rawProduct, paddedProduct, decodedProduct⟩, ⟨rawBoard, paddedBoard, decodedBoard⟩,
      ⟨rawVersion, paddedVersion, decodedVersion⟩, versionValid, decodedSource, sourceValid, rfl, rfl, aligned,
      positive, bounded, rfl⟩
    · rw [← word16 8 (by decide)]
      exact accepted.version
    · rw [← word16 10 (by decide)]
      exact accepted.size
    · rw [← word32 12 (by decide)]
      exact accepted.flags
    · rw [← word32 160 (by decide)]
      exact accepted.algorithm
    · rw [← tail]
      exact allZero_iff.mp accepted.reserved
  · rintro ⟨descriptor, valid⟩
    rcases valid.product with ⟨rawProduct, paddedProduct, decodedProduct⟩
    rcases valid.board with ⟨rawBoard, paddedBoard, decodedBoard⟩
    rcases valid.firmware with ⟨rawVersion, paddedVersion, decodedVersion⟩
    have strings : (decodeStrings (header.drop 64)).1 = true :=
      decodeStrings_iff.mpr ⟨canonicalString_iff.mpr ⟨_, paddedProduct⟩, canonicalString_iff.mpr ⟨_, paddedBoard⟩,
        canonicalString_iff.mpr ⟨_, paddedVersion⟩,
        (validSourceCommit_iff source).mpr ⟨_, valid.source, valid.sourceValid⟩⟩
    have field := firmwareVersion_headerFields (Nat.le_of_eq sized.symm) strings
    refine ⟨⟨valid.magic, ?_, ?_, ?_, ?_, ?_, strings, ?_⟩,
      (decodeAscii_of_padded paddedProduct).mpr ⟨_, decodedProduct⟩,
      (decodeAscii_of_padded paddedBoard).mpr ⟨_, decodedBoard⟩⟩
    · rw [word16 10 (by decide)]
      exact valid.size
    · rw [tail]
      exact allZero_iff.mpr valid.reserved
    · rw [word16 8 (by decide)]
      exact valid.version
    · rw [word32 12 (by decide)]
      exact valid.profile
    · rw [word32 160 (by decide)]
      exact valid.packageVersion
    · exact (parseVersion_iff_host (field.symm ▸ paddedVersion)).mpr ⟨_, decodedVersion, valid.versionValid⟩

/-! ## Packages -/

/-- The checks of the engine on a complete package, the signature aside. -/
structure DeviceAccepts (sizeMax : Nat) (parameters : SessionParameters) (package : Bytes) : Prop where
  header : HeaderAccepted sizeMax parameters (package.take 320)
  vectors : validateVectors (slice package 384 8) parameters.application
    (headerPayloadSize (package.take 320)) = .ok ()
  digest : Sha256.hash (package.drop 384) = slice (package.take 320) 20 32
  descriptor : slice (package.drop 384) 0x200 256 = slice (package.take 320) 64 256

/-- The device has the partition that the package was made for and room for its
payload. -/
structure Fitting (parameters : SessionParameters) (package : Bytes) (descriptor : Descriptor) : Prop where
  address : descriptor.applicationAddress = parameters.application.start.toNat
  capacity : descriptor.applicationCapacity = parameters.application.length.toNat
  room : package.length ≤ parameters.ota.length.toNat + 384
  inside : parameters.ota.start.toNat + parameters.ota.length.toNat < 2 ^ 32

/-- The signature of a package under a key of the tool. -/
def HostSigned (crypto : Cryptography) (publicKey : crypto.PublicKey) (package : Bytes) : Prop :=
  crypto.verify publicKey (crypto.encodeDssSignature (beNat ((slice package 320 64).take 32))
    (beNat ((slice package 320 64).drop 32))) (package.take 320) = true

section Package

variable {crypto : Cryptography} {publicKey : crypto.PublicKey} {sizeMax : Nat} {parameters : SessionParameters}
  {package : Bytes} {verified : VerifiedPackage}

theorem headerPayloadSize_take (long : 384 ≤ package.length) :
    (headerPayloadSize (package.take 320)).toNat = leNat (slice package 16 4) := by
  rw [headerPayloadSize, readLittleEndian32_drop _ 16 (by rw [List.length_take]; omega),
    slice_take _ _ _ _ (by decide)]

theorem word16_take (long : 384 ≤ package.length) (offset : Nat) (within : offset + 2 ≤ 320) :
    (readLittleEndian16 ((package.take 320).drop offset)).toNat = leNat (slice package offset 2) := by
  rw [readLittleEndian16_drop _ offset (by rw [List.length_take]; omega), slice_take _ _ _ _ within]

theorem drop_take_header : (package.take 320).drop 64 = slice package 64 256 := by
  rw [List.drop_take, slice]

/-- What the tool accepts, a device with the right partitions accepts. -/
theorem Fitting.device (fitting : Fitting parameters package verified.descriptor)
    (valid : PackageValid crypto package publicKey parameters.publicKey.bytes Expectations.none verified)
    (whole : package.length = parameters.packageSize) (short : package.length ≤ sizeMax) :
    DeviceAccepts sizeMax parameters package ∧ NamesAscii ((package.take 320).drop 64) := by
  have image := valid.image
  have declared := valid.length
  have minimal := image.long
  rw [List.length_drop] at minimal
  have long : 384 ≤ package.length := by omega
  have size := headerPayloadSize_take long
  have parsed : DescriptorValid ((package.take 320).drop 64) verified.descriptor := by
    rw [drop_take_header, ← valid.embedded]
    exact image.parsed
  have sized : (package.take 320).length = 320 := by
    rw [List.length_take]
    omega
  have address : leNat (slice ((package.take 320).drop 64) 152 4) = parameters.application.start.toNat :=
    parsed.address.symm.trans fitting.address
  have capacity : leNat (slice ((package.take 320).drop 64) 156 4) = parameters.application.length.toNat :=
    parsed.capacity.symm.trans fitting.capacity
  have aligned := parsed.aligned
  have positive := parsed.positive
  have bounded := parsed.bounded
  have fits := image.fits
  rw [parsed.address] at aligned
  rw [parsed.capacity] at positive
  rw [parsed.address, parsed.capacity] at bounded
  rw [parsed.capacity, capacity, List.length_drop] at fits
  have described := (descriptorAccepted_iff sized aligned positive bounded).mpr ⟨_, parsed⟩
  rw [address, capacity] at bounded
  rcases headerMetadata_partition (package.take 320) with ⟨addressWord, capacityWord⟩
  have start : readLittleEndian32 (((package.take 320).drop 64).drop 152) = parameters.application.start := by
    rw [← UInt32.toNat_inj, readLittleEndian32_drop _ 152 (by rw [List.length_drop]; omega), address]
  have extent : readLittleEndian32 (((package.take 320).drop 64).drop 156) = parameters.application.length := by
    rw [← UInt32.toNat_inj, readLittleEndian32_drop _ 156 (by rw [List.length_drop]; omega), capacity]
  have room := fitting.room
  refine ⟨⟨⟨?_, ?_, ?_, ?_, ?_, ?_, ?_, ?_, ?_, ?_, ?_, described.1.magic, described.1.size, described.1.reserved,
    described.1.version, described.1.flags, described.1.algorithm, described.1.strings, described.1.parsed, ?_,
    addressWord.trans start, capacityWord.trans extent, (le_top_sub_iff _ _).mpr bounded,
    (le_top_sub_iff _ _).mpr fitting.inside, ?_⟩, ?_, ?_, ?_⟩, described.2⟩
  · rw [List.take_take]
    exact valid.magic
  · rw [word16_take long 10 (by decide)]
    exact valid.headerSize
  · rw [word16_take long 14 (by decide)]
    exact valid.signatureSize
  · rw [slice_take _ _ _ _ (by decide)]
    exact allZero_iff.mpr valid.reserved
  · rw [word16_take long 8 (by decide)]
    exact valid.version
  · rw [word16_take long 12 (by decide)]
    exact valid.algorithm
  · omega
  · rw [UInt32.le_iff_toNat_le]
    omega
  · rw [UInt32.le_iff_toNat_le]
    omega
  · omega
  · omega
  · rw [addressWord, ← UInt32.toNat_inj, UInt32.toNat_and,
      readLittleEndian32_drop _ 152 (by rw [List.length_drop]; omega)]
    exact aligned
  · rw [sha256_eq, ← parsed.keyId]
    exact (Package.checkExpected_keyId image.matched).symm
  · have above := image.handlerAbove
    have below := image.handlerBelow
    rw [fitting.address] at above below
    rw [List.length_drop] at below
    exact (validateVectors_iff (by rw [List.length_drop]; omega) (by omega) (by omega)).mpr
      ⟨image.stackAligned, image.stackAbove, image.stackBelow, image.thumb, above, by omega⟩
  · rw [slice_take _ _ _ _ (by decide)]
    exact valid.digest
  · rw [slice_take _ _ _ _ (by decide)]
    exact valid.embedded

/-- What a device accepts, the tool accepts when the names are ASCII. -/
theorem DeviceAccepts.host (accepts : DeviceAccepts sizeMax parameters package)
    (names : NamesAscii ((package.take 320).drop 64)) (whole : package.length = parameters.packageSize)
    (curve : crypto.publicP256 publicKey = true) (der : crypto.publicBytes publicKey = parameters.publicKey.bytes)
    (signed : HostSigned crypto publicKey package) :
    exists verified,
      PackageValid crypto package publicKey parameters.publicKey.bytes Expectations.none verified ∧
        Fitting parameters package verified.descriptor := by
  have header := accepts.header
  have exact := header.exact
  have minimal := header.minimal
  have long : 384 ≤ package.length := by omega
  have size := headerPayloadSize_take long
  have sized : (package.take 320).length = 320 := by
    rw [List.length_take]
    omega
  rcases headerMetadata_partition (package.take 320) with ⟨addressWord, capacityWord⟩
  have address : leNat (slice ((package.take 320).drop 64) 152 4) = parameters.application.start.toNat := by
    rw [← readLittleEndian32_drop _ 152 (by rw [List.length_drop]; omega), ← addressWord, header.address]
  have capacity : leNat (slice ((package.take 320).drop 64) 156 4) = parameters.application.length.toNat := by
    rw [← readLittleEndian32_drop _ 156 (by rw [List.length_drop]; omega), ← capacityWord, header.capacity]
  have fits : (headerPayloadSize (package.take 320)).toNat ≤ parameters.application.length.toNat :=
    header.fitsApplication
  have ends := (le_top_sub_iff _ _).mp header.applicationEnd
  have aligned : leNat (slice ((package.take 320).drop 64) 152 4) &&& 0x1FF = 0 := by
    rw [← readLittleEndian32_drop _ 152 (by rw [List.length_drop]; omega), ← addressWord]
    exact congrArg UInt32.toNat header.aligned
  have described := (descriptorAccepted_iff sized aligned (by omega) (by omega)).mp
    ⟨⟨header.descriptorMagic, header.descriptorSize, header.descriptorReserved, header.descriptorVersion,
      header.descriptorFlags, header.descriptorAlgorithm, header.strings, header.version⟩, names⟩
  rcases described with ⟨descriptor, parsed⟩
  have start : descriptor.applicationAddress = parameters.application.start.toNat := parsed.address.trans address
  have extent : descriptor.applicationCapacity = parameters.application.length.toNat :=
    parsed.capacity.trans capacity
  have vectors := (validateVectors_iff (by rw [List.length_drop]; omega) (by omega) (by omega)).mp accepts.vectors
  have embedded := accepts.descriptor
  rw [slice_take _ _ _ _ (by decide)] at embedded
  have above := vectors.handlerAbove
  have below := vectors.handlerBelow
  have image : ImageValid (package.drop 384) (Sha256.hash parameters.publicKey.bytes) Expectations.none
      descriptor := by
    have payload : (package.drop 384).length = package.length - 384 := List.length_drop
    refine ⟨Sha256.length_hash _, by omega, ?_, by omega, vectors.stackAligned, vectors.stackAbove,
      vectors.stackBelow, vectors.thumb, by omega, by omega, by omega, Package.checkExpected_none ?_⟩
    · rw [embedded, ← drop_take_header]
      exact parsed
    · rw [parsed.keyId, ← sha256_eq]
      exact header.key.symm
  refine ⟨⟨descriptor, leNat (slice package 16 4), slice package 20 32⟩, ⟨curve, der, by omega, ?_, ?_, ?_, ?_, ?_, ?_,
    by omega, ?_, embedded, image, ?_, signed, rfl, rfl⟩, start, extent, ?_, (le_top_sub_iff _ _).mp header.otaEnd⟩
  · have magic := header.magic
    rw [List.take_take] at magic
    exact magic
  · rw [← word16_take long 8 (by decide)]
    exact header.formatVersion
  · rw [← word16_take long 10 (by decide)]
    exact header.headerSize
  · rw [← word16_take long 12 (by decide)]
    exact header.algorithm
  · rw [← word16_take long 14 (by decide)]
    exact header.signatureSize
  · rw [← slice_take _ 320 _ _ (by decide)]
    exact allZero_iff.mp header.reserved
  · rw [embedded]
    exact length_slice package 64 256 (by omega)
  · rw [← slice_take _ 320 _ _ (by decide)]
    exact accepts.digest
  · have fitsOta : (headerPayloadSize (package.take 320)).toNat ≤ parameters.ota.length.toNat := header.fitsOta
    omega

end Package

end Ota
end DevKit

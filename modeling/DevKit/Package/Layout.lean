import DevKit.Package.Accepted

namespace DevKit
namespace Package

/-!
# Writing packages and images

A package is its header, 64 signature bytes and the image.  `Laid` reads such a
byte string field by field; `laid_iff` says that the fields determine it.  The
second half does the same for a descriptor: `makeDescriptor` and `makeImage` are
the functions with which the tool's tests write images, for an arbitrary
identity and image size, and every image written from a canonical identity is
accepted.
-/

/-- The fields of a package made of the header of `image`, `signature` and
`image`. -/
structure Laid (package image signature : Bytes) : Prop where
  magic : slice package 0 8 = packageMagic
  version : slice package 8 2 = leBytes 2 1
  headerSize : slice package 10 2 = leBytes 2 320
  algorithm : slice package 12 2 = leBytes 2 1
  signatureSize : slice package 14 2 = leBytes 2 64
  length : slice package 16 4 = leBytes 4 image.length
  digest : slice package 20 32 = Sha256.hash image
  reserved : slice package 52 12 = List.replicate 12 0
  descriptor : slice package 64 256 = slice image 0x200 256
  signature : slice package 320 64 = signature
  image : package.drop 384 = image

theorem laid_iff {package image signature : Bytes} (long : 0x200 + 256 ≤ image.length)
    (sized : signature.length = 64) :
    package = packageHeader image ++ signature ++ image <-> Laid package image signature := by
  have start : package = packageHeader image ++ signature ++ image <->
      package.drop 0 = packageMagic ++ (leBytes 2 1 ++ (leBytes 2 320 ++ (leBytes 2 1 ++ (leBytes 2 64 ++
        (leBytes 4 image.length ++ (Sha256.hash image ++ (List.replicate 12 0 ++
          (slice image 0x200 256 ++ (signature ++ image))))))))) := by
    rw [List.drop_zero, packageHeader]
    simp only [List.append_assoc]
  have described := length_slice image 0x200 256 long
  have hashed := Sha256.length_hash image
  rw [start]
  rw [drop_eq_append_iff rfl, drop_eq_append_iff rfl, drop_eq_append_iff rfl, drop_eq_append_iff rfl,
    drop_eq_append_iff rfl, drop_eq_append_iff (length_leBytes 4 _), drop_eq_append_iff hashed,
    drop_eq_append_iff List.length_replicate, drop_eq_append_iff described, drop_eq_append_iff sized]
  constructor
  · rintro ⟨magic, version, headerSize, algorithm, signatureSize, length, digest, reserved, descriptor, signed,
      payload⟩
    exact ⟨magic, version, headerSize, algorithm, signatureSize, length, digest, reserved, descriptor, signed,
      payload⟩
  · rintro ⟨magic, version, headerSize, algorithm, signatureSize, length, digest, reserved, descriptor, signed,
      payload⟩
    exact ⟨magic, version, headerSize, algorithm, signatureSize, length, digest, reserved, descriptor, signed,
      payload⟩

theorem length_packageHeader {image : Bytes} (long : 0x200 + 256 ≤ image.length) :
    (packageHeader image).length = 320 := by
  simp only [packageHeader, List.length_append, length_leBytes, Sha256.length_hash, List.length_replicate,
    length_slice image 0x200 256 long]
  rfl

/-! ## Descriptors -/

/-- What a descriptor says about an image, as bytes. -/
structure Identity where
  product : Bytes
  board : Bytes
  version : Bytes
  source : Bytes
  address : Nat
  capacity : Nat
  keyId : Bytes

/-- `_field(value, 32)`. -/
def textField (raw : Bytes) : Bytes :=
  raw ++ List.replicate (32 - raw.length) 0

def makeDescriptor (identity : Identity) : Bytes :=
  descriptorMagic ++ leBytes 2 1 ++ leBytes 2 256 ++ leBytes 4 1 ++ textField identity.product ++
    textField identity.board ++ textField identity.version ++ identity.source ++ leBytes 4 identity.address ++
    leBytes 4 identity.capacity ++ leBytes 4 1 ++ identity.keyId ++ List.replicate 60 0

/-- A nonempty text of at most 31 bytes without NUL. -/
structure Short (raw : Bytes) : Prop where
  nonempty : raw ≠ []
  nonzero : forall byte, byte ∈ raw -> byte ≠ 0
  length : raw.length < 32

/-- What both sides demand of an identity. -/
structure Identity.Plain (identity : Identity) : Prop where
  product : Short identity.product
  board : Short identity.board
  version : Short identity.version
  source : identity.source.length = 40
  aligned : identity.address &&& 0x1FF = 0
  positive : identity.capacity ≠ 0
  bounded : identity.address + identity.capacity < 0x100000000
  keyId : identity.keyId.length = 32

theorem length_textField {raw : Bytes} (short : Short raw) : (textField raw).length = 32 := by
  have := short.length
  rw [textField, List.length_append, List.length_replicate]
  omega

theorem padded_textField {raw : Bytes} (short : Short raw) : Padded (textField raw) raw := by
  refine ⟨short.nonempty, short.nonzero, 31 - raw.length, ?_⟩
  have := short.length
  have count : 32 - raw.length = 31 - raw.length + 1 := by omega
  rw [textField, count]

/-- The fields of a written descriptor. -/
structure Described (data : Bytes) (identity : Identity) : Prop where
  magic : slice data 0 8 = descriptorMagic
  version : slice data 8 2 = leBytes 2 1
  size : slice data 10 2 = leBytes 2 256
  profile : slice data 12 4 = leBytes 4 1
  product : slice data 16 32 = textField identity.product
  board : slice data 48 32 = textField identity.board
  firmware : slice data 80 32 = textField identity.version
  source : slice data 112 40 = identity.source
  address : slice data 152 4 = leBytes 4 identity.address
  capacity : slice data 156 4 = leBytes 4 identity.capacity
  packageVersion : slice data 160 4 = leBytes 4 1
  keyId : slice data 164 32 = identity.keyId
  reserved : data.drop 196 = List.replicate 60 0

theorem described_makeDescriptor {identity : Identity} (plain : identity.Plain) :
    Described (makeDescriptor identity) identity := by
  have start : (makeDescriptor identity).drop 0 = descriptorMagic ++ (leBytes 2 1 ++ (leBytes 2 256 ++
      (leBytes 4 1 ++ (textField identity.product ++ (textField identity.board ++
        (textField identity.version ++ (identity.source ++ (leBytes 4 identity.address ++
          (leBytes 4 identity.capacity ++ (leBytes 4 1 ++ (identity.keyId ++
            List.replicate 60 0))))))))))) := by
    rw [List.drop_zero, makeDescriptor]
    simp only [List.append_assoc]
  rw [drop_eq_append_iff rfl, drop_eq_append_iff rfl, drop_eq_append_iff rfl, drop_eq_append_iff rfl,
    drop_eq_append_iff (length_textField plain.product), drop_eq_append_iff (length_textField plain.board),
    drop_eq_append_iff (length_textField plain.version), drop_eq_append_iff plain.source,
    drop_eq_append_iff (length_leBytes 4 _), drop_eq_append_iff (length_leBytes 4 _), drop_eq_append_iff rfl,
    drop_eq_append_iff plain.keyId] at start
  rcases start with ⟨magic, version, size, profile, product, board, firmware, source, address, capacity,
    packageVersion, keyId, reserved⟩
  exact ⟨magic, version, size, profile, product, board, firmware, source, address, capacity, packageVersion,
    keyId, reserved⟩

theorem length_makeDescriptor {identity : Identity} (plain : identity.Plain) :
    (makeDescriptor identity).length = 256 := by
  simp only [makeDescriptor, List.length_append, length_leBytes, List.length_replicate,
    length_textField plain.product, length_textField plain.board, length_textField plain.version, plain.source,
    plain.keyId]
  rfl

/-- An identity whose texts the host tool can decode, with what it decodes. -/
structure Identity.Reads (identity : Identity) (descriptor : Descriptor) : Prop where
  product : decodeAscii identity.product = some descriptor.productId
  board : decodeAscii identity.board = some descriptor.boardId
  version : decodeAscii identity.version = some descriptor.firmwareVersion
  versionValid : validateVersion descriptor.firmwareVersion = .ok ()
  source : decodeAscii identity.source = some descriptor.sourceCommit
  sourceValid : sourcePattern.rmatch descriptor.sourceCommit = true
  address : descriptor.applicationAddress = identity.address
  capacity : descriptor.applicationCapacity = identity.capacity
  keyId : descriptor.keyId = identity.keyId

theorem Identity.Plain.address_fits {identity : Identity} (plain : identity.Plain) :
    identity.address < 256 ^ 4 := by
  have := plain.bounded
  omega

theorem Identity.Plain.capacity_fits {identity : Identity} (plain : identity.Plain) :
    identity.capacity < 256 ^ 4 := by
  have := plain.bounded
  omega

theorem descriptorValid_makeDescriptor {identity : Identity} {descriptor : Descriptor} (plain : identity.Plain)
    (reads : identity.Reads descriptor) : DescriptorValid (makeDescriptor identity) descriptor := by
  have laid := described_makeDescriptor plain
  have address := leNat_leBytes 4 identity.address plain.address_fits
  have capacity := leNat_leBytes 4 identity.capacity plain.capacity_fits
  have plainAligned := plain.aligned
  have plainPositive := plain.positive
  have plainBounded := plain.bounded
  rw [← reads.address] at address plainAligned plainBounded
  rw [← reads.capacity] at capacity plainPositive plainBounded
  refine ⟨length_makeDescriptor plain, laid.magic, ?_, ?_, ?_, ?_, ?_, ⟨identity.product, ?_, reads.product⟩,
    ⟨identity.board, ?_, reads.board⟩, ⟨identity.version, ?_, reads.version⟩, reads.versionValid, ?_,
    reads.sourceValid, ?_, ?_, plainAligned, plainPositive, plainBounded, ?_⟩
  · rw [laid.version]
    rfl
  · rw [laid.size]
    rfl
  · rw [laid.profile]
    rfl
  · rw [laid.packageVersion]
    rfl
  · rw [laid.reserved]
    exact fun byte member => List.eq_of_mem_replicate member
  · rw [laid.product]
    exact padded_textField plain.product
  · rw [laid.board]
    exact padded_textField plain.board
  · rw [laid.firmware]
    exact padded_textField plain.version
  · rw [laid.source]
    exact reads.source
  · rw [laid.address, ← reads.address, address]
  · rw [laid.capacity, ← reads.capacity, capacity]
  · rw [laid.keyId, reads.keyId]

/-! ## Images -/

/-- An image with the vector table of the tests, the descriptor and zeros. -/
def makeImage (identity : Identity) (size : Nat) : Bytes :=
  leBytes 4 0x20001000 ++ leBytes 4 (identity.address + 0x101) ++ List.replicate 504 0 ++
    makeDescriptor identity ++ List.replicate (size - 768) 0

/-- The parts of a written image. -/
structure Imaged (image : Bytes) (identity : Identity) : Prop where
  stack : slice image 0 4 = leBytes 4 0x20001000
  reset : slice image 4 4 = leBytes 4 (identity.address + 0x101)
  descriptor : slice image 0x200 256 = makeDescriptor identity

theorem imaged_makeImage {identity : Identity} (plain : identity.Plain) (size : Nat) :
    Imaged (makeImage identity size) identity := by
  have start : (makeImage identity size).drop 0 = leBytes 4 0x20001000 ++ (leBytes 4 (identity.address + 0x101) ++
      (List.replicate 504 0 ++ (makeDescriptor identity ++ List.replicate (size - 768) 0))) := by
    rw [List.drop_zero, makeImage]
    simp only [List.append_assoc]
  rw [drop_eq_append_iff rfl, drop_eq_append_iff (length_leBytes 4 _), drop_eq_append_iff List.length_replicate,
    drop_eq_append_iff (length_makeDescriptor plain)] at start
  rcases start with ⟨stack, reset, _, descriptor, _⟩
  exact ⟨stack, reset, descriptor⟩

theorem length_makeImage {identity : Identity} (plain : identity.Plain) {size : Nat} (long : 768 ≤ size) :
    (makeImage identity size).length = size := by
  simp only [makeImage, List.length_append, length_leBytes, List.length_replicate, length_makeDescriptor plain]
  omega

/-- Clearing the lowest bit of a 32-bit number. -/
theorem even_mask (value : Nat) (fits : value < 2 ^ 32) : value &&& 0xFFFFFFFE = value - value % 2 := by
  have half : (value &&& 0xFFFFFFFE) / 2 = value / 2 := by
    have masked := Nat.and_two_pow_sub_one_eq_mod (value / 2) 31
    rw [Nat.and_div_two]
    norm_num at masked ⊢
    rw [masked]
    omega
  have even : (value &&& 0xFFFFFFFE) % 2 = 0 := by
    rw [← Nat.and_one_is_mod, Nat.and_assoc]
    norm_num
  omega

/-- The reset vector of a written image is an odd address 256 bytes into it. -/
theorem reset_makeImage {address : Nat} (aligned : address &&& 0x1FF = 0) (bounded : address + 0x101 < 2 ^ 32) :
    (address + 0x101) &&& 1 ≠ 0 ∧ (address + 0x101) &&& 0xFFFFFFFE = address + 0x100 := by
  have multiple : address % 512 = 0 := by
    rw [← aligned]
    exact (Nat.and_two_pow_sub_one_eq_mod address 9).symm
  have odd : (address + 0x101) % 2 = 1 := by omega
  rw [Nat.and_one_is_mod, even_mask _ bounded, odd]
  exact ⟨Nat.one_ne_zero, rfl⟩

/-- Every image written from a canonical identity is accepted. -/
theorem imageValid_makeImage {identity : Identity} {descriptor : Descriptor} (plain : identity.Plain)
    (reads : identity.Reads descriptor) {size : Nat} (long : 768 ≤ size) (fits : size ≤ identity.capacity) :
    ImageValid (makeImage identity size) identity.keyId Expectations.none descriptor := by
  have image := imaged_makeImage plain size
  have length := length_makeImage plain long
  have below := plain.bounded
  have roomy : identity.address + 0x101 < 2 ^ 32 := by omega
  have stack : leNat (slice (makeImage identity size) 0 4) = 0x20001000 := by
    rw [image.stack]
    rfl
  have reset : leNat (slice (makeImage identity size) 4 4) = identity.address + 0x101 := by
    rw [image.reset]
    exact leNat_leBytes 4 _ roomy
  rcases reset_makeImage plain.aligned roomy with ⟨thumb, handler⟩
  refine ⟨plain.keyId, ?_, ?_, ?_, ?_, ?_, ?_, ?_, ?_, ?_, ?_, checkExpected_none reads.keyId⟩
  · rw [length]
    exact long
  · rw [image.descriptor]
    exact descriptorValid_makeDescriptor plain reads
  · rw [length, reads.capacity]
    exact fits
  · rw [stack]
    rfl
  · rw [stack]
    decide
  · rw [stack]
    decide
  · rw [reset]
    exact thumb
  · rw [reads.address, length]
    omega
  · rw [reset, handler, reads.address]
    omega
  · rw [reset, handler, reads.address, length]
    omega

end Package
end DevKit

import DevKit.Foundation.CString
import DevKit.Package.Layout

namespace DevKit
namespace Package

/-!
# Building and verifying are inverse

`build_package` writes the layout of `Laid`, and `verify_package` accepts only
byte strings of that layout.  Everything outside the 64 signature bytes is
therefore determined by the image.
-/

/-- What `build_package` has checked and computed when it returns. -/
structure Built (crypto : Cryptography) (image : Bytes) (privateKey : crypto.PrivateKey) (expected : Expectations)
    (package : Bytes) (descriptor : Descriptor) (r s : Nat) : Prop where
  curve : crypto.privateP256 privateKey = true
  valid : ImageValid image (Sha256.hash (crypto.publicBytes (crypto.publicKey privateKey))) expected descriptor
  short : image.length < 2 ^ 32
  decoded : crypto.decodeDssSignature (crypto.sign privateKey (packageHeader image)) = some (r, s)
  first : r < 2 ^ 256
  second : s < 2 ^ 256
  package : package = packageHeader image ++ (beBytes 32 r ++ beBytes 32 s) ++ image

theorem toBytes32_ok {value : Nat} {data : Bytes} :
    toBytes32 value = .ok data <-> value < 2 ^ 256 ∧ beBytes 32 value = data := by
  rw [toBytes32]
  split
  · rename_i fits
    constructor
    · intro same
      cases same
      exact ⟨fits, rfl⟩
    · rintro ⟨_, rfl⟩
      rfl
  · rename_i large
    constructor
    · intro impossible
      cases impossible
    · rintro ⟨fits, _⟩
      exact absurd fits large

theorem buildPackage_ok_iff {crypto : Cryptography} {image : Bytes} {privateKey : crypto.PrivateKey}
    {expected : Expectations} {package : Bytes} :
    buildPackage crypto image privateKey expected = .ok package <->
      exists descriptor r s, Built crypto image privateKey expected package descriptor r s := by
  constructor
  · intro accepted
    simp only [buildPackage, publicKeyDer, bind_ok, validateRawImage_ok_iff] at accepted
    rcases accepted with ⟨_, ⟨_, curve, serialised⟩, descriptor, valid, rest⟩
    cases serialised
    split at rest
    · cases rest
    rename_i short
    split at rest
    · cases rest
    rename_i r s decoded
    simp only [↓raise_bind_ok, bind_ok, toBytes32_ok] at rest
    rcases rest with ⟨_, ⟨first, rfl⟩, _, ⟨second, rfl⟩, _, result⟩
    cases result
    exact ⟨descriptor, r, s, Bool.of_not_eq_false (raiseWhen_ok.mp curve), valid, Nat.not_le.mp short, decoded,
      first, second, rfl⟩
  · rintro ⟨descriptor, r, s, built⟩
    have curve : ¬ crypto.privateP256 privateKey = false := by
      rw [built.curve]
      exact Bool.noConfusion
    simp only [buildPackage, publicKeyDer, bind_ok, validateRawImage_ok_iff]
    refine ⟨_, ⟨(), raiseWhen_ok.mpr curve, rfl⟩, descriptor, built.valid, ?_⟩
    rw [if_neg (Nat.not_le.mpr built.short), built.decoded]
    simp only [↓raise_bind_ok, bind_ok, toBytes32_ok]
    refine ⟨_, ⟨built.first, rfl⟩, _, ⟨built.second, rfl⟩, ?_, ?_⟩
    · exact not_not.mpr (checkExpected_keyId built.valid.matched)
    · rw [built.package]
      rfl

theorem length_package {image signature : Bytes} (long : 0x200 + 256 ≤ image.length)
    (sized : signature.length = 64) :
    (packageHeader image ++ signature ++ image).length = image.length + 384 := by
  rw [List.length_append, List.length_append, length_packageHeader long, sized]
  omega

/-- A byte string laid out by the builder, with a signature that the library
accepts, passes the verifier. -/
theorem Laid.packageValid {crypto : Cryptography} {package image signature : Bytes} {publicKey : crypto.PublicKey}
    {expected : Expectations} {descriptor : Descriptor} (laid : Laid package image signature)
    (length : package.length = image.length + 384) (short : image.length < 2 ^ 32)
    (curve : crypto.publicP256 publicKey = true)
    (valid : ImageValid image (Sha256.hash (crypto.publicBytes publicKey)) expected descriptor)
    (verifies : crypto.verify publicKey (crypto.encodeDssSignature (beNat (signature.take 32))
      (beNat (signature.drop 32))) (package.take 320) = true) :
    PackageValid crypto package publicKey (crypto.publicBytes publicKey) expected
      ⟨descriptor, image.length, Sha256.hash image⟩ := by
  have declared : leNat (slice package 16 4) = image.length := by
    rw [laid.length]
    exact leNat_leBytes 4 _ short
  refine ⟨curve, rfl, ?_, laid.magic, ?_, ?_, ?_, ?_, ?_, ?_, ?_, ?_, ?_, ?_, ?_, declared.symm, laid.digest.symm⟩
  · rw [length]
    have := valid.long
    omega
  · rw [laid.version]
    rfl
  · rw [laid.headerSize]
    rfl
  · rw [laid.algorithm]
    rfl
  · rw [laid.signatureSize]
    rfl
  · rw [laid.reserved]
    exact fun byte member => List.eq_of_mem_replicate member
  · rw [declared, length]
  · rw [laid.image]
    exact length_slice image 0x200 256 valid.long
  · rw [laid.image, laid.descriptor]
  · rw [laid.image]
    exact valid
  · rw [laid.image, laid.digest]
  · rw [laid.signature]
    exact verifies

/-- The verifier leaves nothing of the layout open. -/
theorem PackageValid.laid {crypto : Cryptography} {package : Bytes} {publicKey : crypto.PublicKey}
    {publicDer : Bytes} {expected : Expectations} {verified : VerifiedPackage}
    (valid : PackageValid crypto package publicKey publicDer expected verified) :
    Laid package (package.drop 384) (slice package 320 64) := by
  have long := valid.long
  have sized (offset size : Nat) (within : offset + size ≤ 385) : (slice package offset size).length = size :=
    length_slice package offset size (by omega)
  have declared : leNat (slice package 16 4) = (package.drop 384).length := by
    rw [List.length_drop, ← valid.length]
    omega
  have bounded : (package.drop 384).length < 256 ^ 4 := by
    have := leNat_lt (slice package 16 4)
    rw [sized 16 4 (by decide)] at this
    rw [← declared]
    exact this
  refine ⟨valid.magic, ?_, ?_, ?_, ?_, ?_, valid.digest.symm, ?_, valid.embedded.symm, rfl, rfl⟩
  · exact (eq_leBytes_iff (sized 8 2 (by decide)) (by decide)).mpr valid.version
  · exact (eq_leBytes_iff (sized 10 2 (by decide)) (by decide)).mpr valid.headerSize
  · exact (eq_leBytes_iff (sized 12 2 (by decide)) (by decide)).mpr valid.algorithm
  · exact (eq_leBytes_iff (sized 14 2 (by decide)) (by decide)).mpr valid.signatureSize
  · exact (eq_leBytes_iff (sized 16 4 (by decide)) bounded).mpr declared
  · have zeros := List.eq_replicate_of_mem valid.reserved
    rw [sized 52 12 (by decide)] at zeros
    exact zeros

/-- What `build_package` returns is accepted under the matching public key, and
what `verify_package` accepts is what `build_package` would have written around
the same image, up to the signature. -/
theorem buildPackage_verifyPackage_inverse (crypto : Cryptography) (sound : crypto.Sound) :
    (forall image privateKey expected package,
      buildPackage crypto image privateKey expected = .ok package ->
        exists descriptor, parseDescriptor (slice image 0x200 256) = .ok descriptor ∧
          verifyPackage crypto package (crypto.publicKey privateKey)
            (crypto.publicBytes (crypto.publicKey privateKey)) expected =
              .ok ⟨descriptor, image.length, Sha256.hash image⟩) ∧
    (forall package publicKey publicDer expected verified,
      verifyPackage crypto package publicKey publicDer expected = .ok verified ->
        exists signature, signature.length = 64 ∧
          package = packageHeader (package.drop 384) ++ signature ++ package.drop 384 ∧
          (packageHeader (package.drop 384)).length = 320 ∧
          validateRawImage (package.drop 384) (Sha256.hash (crypto.publicBytes publicKey)) expected =
            .ok verified.descriptor) := by
  constructor
  · intro image privateKey expected package success
    rcases buildPackage_ok_iff.mp success with ⟨descriptor, r, s, built⟩
    have sized : (beBytes 32 r ++ beBytes 32 s).length = 64 := by
      rw [List.length_append, length_beBytes, length_beBytes]
    have laid := (laid_iff built.valid.long sized).mp built.package
    have length : package.length = image.length + 384 := by
      rw [built.package]
      exact length_package built.valid.long sized
    have header : package.take 320 = packageHeader image := by
      rw [built.package, List.append_assoc, ← length_packageHeader built.valid.long, List.take_left]
    have front : (beBytes 32 r ++ beBytes 32 s).take 32 = beBytes 32 r := List.take_left' (length_beBytes 32 r)
    have back : (beBytes 32 r ++ beBytes 32 s).drop 32 = beBytes 32 s := List.drop_left' (length_beBytes 32 r)
    refine ⟨descriptor, parseDescriptor_ok_iff.mpr built.valid.parsed, verifyPackage_ok_iff.mpr ?_⟩
    apply laid.packageValid length built.short (sound.curve privateKey built.curve) built.valid
    rw [header, front, back, beNat_beBytes 32 r built.first, beNat_beBytes 32 s built.second,
      sound.inverse _ r s built.decoded]
    exact sound.signed privateKey _ built.curve
  · intro package publicKey publicDer expected verified success
    have valid := verifyPackage_ok_iff.mp success
    have long := valid.long
    have sized : (slice package 320 64).length = 64 := length_slice package 320 64 (by omega)
    refine ⟨slice package 320 64, sized, ?_, length_packageHeader valid.image.long, ?_⟩
    · exact (laid_iff valid.image.long sized).mpr valid.laid
    · rw [validateRawImage_ok_iff, valid.der]
      exact valid.image

/-! ## An instance -/

/-- The identity of the tool's tests, for any key identifier. -/
def sampleIdentity (keyId : Bytes) : Identity where
  product := literal "ExampleProduct"
  board := literal "MXCHIP_AZ3166"
  version := literal "12.34.56"
  source := literal "0123456789abcdef0123456789abcdef01234567"
  address := 0x0800C000
  capacity := 0x000F4000
  keyId := keyId

def sampleDescriptor (keyId : Bytes) : Descriptor where
  productId := "ExampleProduct".toList
  boardId := "MXCHIP_AZ3166".toList
  firmwareVersion := "12.34.56".toList
  sourceCommit := "0123456789abcdef0123456789abcdef01234567".toList
  applicationAddress := 0x0800C000
  applicationCapacity := 0x000F4000
  keyId := keyId

theorem short_literal {text : String} (sized : 0 < text.toList.length ∧ text.toList.length < 32)
    (ascii : text.toList.all (fun character => 0 < character.toNat ∧ character.toNat < 0x80) = true) :
    Short (literal text) := by
  refine ⟨?_, ?_, ?_⟩
  · rw [literal, Ne, List.map_eq_nil_iff]
    exact List.ne_nil_of_length_pos sized.1
  · intro byte member
    rcases List.mem_map.mp member with ⟨character, written, rfl⟩
    rcases of_decide_eq_true (List.all_eq_true.mp ascii character written) with ⟨positive, small⟩
    intro zero
    have value := congrArg UInt8.toNat zero
    rw [UInt8.toNat_ofNat'] at value
    change character.toNat % 256 = 0 at value
    omega
  · rw [literal, List.length_map]
    exact sized.2

theorem decodeAscii_literal {text : String}
    (ascii : text.toList.all (fun character => character.toNat < 0x80) = true) :
    decodeAscii (literal text) = some text.toList := by
  have low (character : Char) (written : character ∈ text.toList) : character.toNat < 0x80 :=
    of_decide_eq_true (List.all_eq_true.mp ascii character written)
  have value (character : Char) (written : character ∈ text.toList) :
      (UInt8.ofNat character.toNat).toNat = character.toNat := by
    have := low character written
    rw [UInt8.toNat_ofNat']
    omega
  have small : (literal text).all (· < 0x80) = true := by
    rw [List.all_eq_true]
    intro byte member
    rcases List.mem_map.mp member with ⟨character, written, rfl⟩
    apply decide_eq_true
    rw [UInt8.lt_iff_toNat_lt, value character written]
    exact low character written
  rw [decodeAscii, if_pos small, literal, List.map_map]
  congr 1
  calc
    text.toList.map _ = text.toList.map id := by
      apply List.map_congr_left
      intro character written
      change Char.ofNat (UInt8.ofNat character.toNat).toNat = character
      rw [value character written, Char.ofNat_toNat]
    _ = text.toList := List.map_id _

theorem sampleIdentity_plain {keyId : Bytes} (sized : keyId.length = 32) : (sampleIdentity keyId).Plain where
  product := short_literal (by decide) (by decide)
  board := short_literal (by decide) (by decide)
  version := short_literal (by decide) (by decide)
  source := rfl
  aligned := (by decide : 0x0800C000 &&& 0x1FF = 0)
  positive := Nat.succ_ne_zero _
  bounded := Nat.lt_of_sub_pos (by decide : 0 < 0x100000000 - (0x0800C000 + 0x000F4000))
  keyId := sized

theorem sampleIdentity_reads (keyId : Bytes) : (sampleIdentity keyId).Reads (sampleDescriptor keyId) where
  product := decodeAscii_literal (by decide)
  board := decodeAscii_literal (by decide)
  version := decodeAscii_literal (by decide)
  versionValid := (by decide : validateVersion "12.34.56".toList = .ok ())
  source := decodeAscii_literal (by decide)
  sourceValid := (by decide +kernel : sourcePattern.rmatch "0123456789abcdef0123456789abcdef01234567".toList = true)
  address := rfl
  capacity := rfl
  keyId := rfl

/-- A library with one key pair whose signature is the digest, twice. -/
def sampleCryptography (publicDer : Bytes) : Cryptography where
  PrivateKey := Unit
  PublicKey := Unit
  privateP256 _ := true
  publicP256 _ := true
  publicKey := id
  publicBytes _ := publicDer
  sign _ message := Sha256.hash message ++ Sha256.hash message
  verify _ signature message := signature == Sha256.hash message ++ Sha256.hash message
  decodeDssSignature signature :=
    if signature.length = 64 then some (beNat (signature.take 32), beNat (signature.drop 32)) else none
  encodeDssSignature r s := beBytes 32 r ++ beBytes 32 s

theorem sampleCryptography_sound (publicDer : Bytes) : (sampleCryptography publicDer).Sound := by
  refine ⟨fun _ _ => rfl, fun _ _ _ => beq_self_eq_true _, ?_⟩
  intro signature r s decoded
  have sized : signature.length = 64 ∧
      some (beNat (signature.take 32), beNat (signature.drop 32)) = some (r, s) := by
    by_cases fits : signature.length = 64
    · exact ⟨fits, (if_pos fits).symm.trans decoded⟩
    · exact absurd ((if_neg fits).symm.trans decoded) nofun
  rcases sized with ⟨sized, same⟩
  cases same
  have front := beBytes_beNat (signature.take 32)
  have back := beBytes_beNat (signature.drop 32)
  rw [List.length_take, sized] at front
  rw [List.length_drop, sized] at back
  change beBytes 32 _ ++ beBytes 32 _ = signature
  exact (congrArg₂ (· ++ ·) front back).trans (List.take_append_drop 32 signature)

/-- The image of the tool's tests, signed with the key of the library above. -/
def sampleImage (publicDer : Bytes) : Bytes :=
  makeImage (sampleIdentity (Sha256.hash publicDer)) 0x400

theorem sampleImage_built (publicDer : Bytes) :
    exists package, buildPackage (sampleCryptography publicDer) (sampleImage publicDer) () Expectations.none =
      .ok package := by
  have plain := sampleIdentity_plain (Sha256.length_hash publicDer)
  have length : (sampleImage publicDer).length = 0x400 := length_makeImage plain (by decide)
  have signed (message : Bytes) : ((Sha256.hash message ++ Sha256.hash message)).length = 64 := by
    rw [List.length_append, Sha256.length_hash]
  have half (digest : Bytes) (sized : digest.length = 32) : beNat digest < 2 ^ 256 := by
    have := leNat_lt digest.reverse
    rw [List.length_reverse, sized] at this
    exact this
  refine ⟨_, buildPackage_ok_iff.mpr ⟨sampleDescriptor (Sha256.hash publicDer),
    beNat ((Sha256.hash (packageHeader (sampleImage publicDer)) ++
      Sha256.hash (packageHeader (sampleImage publicDer))).take 32),
    beNat ((Sha256.hash (packageHeader (sampleImage publicDer)) ++
      Sha256.hash (packageHeader (sampleImage publicDer))).drop 32), rfl, ?_, ?_, ?_, ?_, ?_, rfl⟩⟩
  · exact imageValid_makeImage plain (sampleIdentity_reads _) (by decide) (by decide : 0x400 ≤ 0x000F4000)
  · rw [length]
    decide
  · simp only [sampleCryptography]
    rw [if_pos (signed _)]
  · apply half
    rw [List.length_take, signed]
    rfl
  · apply half
    rw [List.length_drop, signed]

theorem sampleImage_roundTrip :
    exists package, buildPackage (sampleCryptography []) (sampleImage []) () Expectations.none = .ok package ∧
      (exists descriptor, verifyPackage (sampleCryptography []) package () [] Expectations.none =
        .ok ⟨descriptor, (sampleImage []).length, Sha256.hash (sampleImage [])⟩) ∧
      exists signature, signature.length = 64 ∧
        package = packageHeader (package.drop 384) ++ signature ++ package.drop 384 := by
  have inverse := buildPackage_verifyPackage_inverse (sampleCryptography []) (sampleCryptography_sound [])
  rcases sampleImage_built [] with ⟨package, built⟩
  rcases inverse.1 _ _ _ _ built with ⟨descriptor, _, verified⟩
  rcases inverse.2 _ _ _ _ _ verified with ⟨signature, sized, laid, _, _⟩
  exact ⟨package, built, ⟨descriptor, verified⟩, signature, sized, laid⟩

end Package
end DevKit

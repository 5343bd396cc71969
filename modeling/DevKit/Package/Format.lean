import DevKit.Foundation.Bytes
import DevKit.Foundation.Sha256
import Mathlib.Computability.RegularExpressions

namespace DevKit
namespace Package

/-!
# The host tool's package format

The functions of `package.py` that work on bytes.  A Python integer is a
natural number, a `str` a list of characters and a `bytes` object a list of
bytes; an exception is an error of `Except` that carries the message.  The two
regular expressions are those of the source, matched against the whole text.

The cryptography library is a parameter.  Keys are opaque; what the tool uses
of them is their serialisation, signing and verifying.  `Cryptography.Sound`
collects what is assumed of the library where a result depends on it.
-/

/-- The exceptions that the functions below can raise. -/
inductive PythonError where
  | packageError (message : String)
  | structError
  | overflowError
  | valueError
deriving DecidableEq

abbrev Text := List Char

structure Descriptor where
  productId : Text
  boardId : Text
  firmwareVersion : Text
  sourceCommit : Text
  applicationAddress : Nat
  applicationCapacity : Nat
  keyId : Bytes
deriving DecidableEq

structure VerifiedPackage where
  descriptor : Descriptor
  payloadLength : Nat
  payloadSha256 : Bytes
deriving DecidableEq

/-- The keyword arguments `expected_...`. -/
structure Expectations where
  product : Option Text
  board : Option Text
  version : Option Text
  source : Option Text
  address : Option Int
  capacity : Option Int

def Expectations.none : Expectations :=
  ⟨Option.none, Option.none, Option.none, Option.none, Option.none, Option.none⟩

/-- What the tool uses of the cryptography library.  `p256` stands for the
`isinstance` tests; `verify` is false when the library raises. -/
structure Cryptography where
  PrivateKey : Type
  PublicKey : Type
  privateP256 : PrivateKey -> Bool
  publicP256 : PublicKey -> Bool
  publicKey : PrivateKey -> PublicKey
  publicBytes : PublicKey -> Bytes
  sign : PrivateKey -> Bytes -> Bytes
  verify : PublicKey -> Bytes -> Bytes -> Bool
  decodeDssSignature : Bytes -> Option (Nat × Nat)
  encodeDssSignature : Nat -> Nat -> Bytes

/-- `if bad: raise PackageError(message)`. -/
def raiseWhen (bad : Prop) [Decidable bad] (message : String) : Except PythonError Unit :=
  if bad then .error (.packageError message) else .ok ()

/-! ## Descriptors -/

/-- `data.decode("ascii")`; `none` when it raises. -/
def decodeAscii (data : Bytes) : Option Text :=
  if data.all (· < 0x80) then some (data.map fun byte => Char.ofNat byte.toNat) else none

def canonicalString (field : Bytes) (name : String) : Except PythonError Text :=
  match field.idxOf? 0 with
  | none => .error (.packageError (name ++ " is not NUL-terminated"))
  | some terminator =>
      if terminator = 0 ∨ (field.drop (terminator + 1)).any (· ≠ 0) then
        .error (.packageError (name ++ " is not canonically padded"))
      else
        match decodeAscii (field.take terminator) with
        | none => .error (.packageError (name ++ " is not ASCII"))
        | some text => .ok text

/-- A character class. -/
def charClass (characters : List Char) : RegularExpression Char :=
  (characters.map RegularExpression.char).sum

/-- `(?:0|[1-9][0-9]{0,4})`. -/
def componentPattern : RegularExpression Char :=
  .char '0' + charClass "123456789".toList * (1 + charClass "0123456789".toList) ^ 4

def versionPattern : RegularExpression Char :=
  componentPattern * (.char '.' * (componentPattern * (.char '.' * componentPattern)))

/-- `[0-9a-f]{40}`. -/
def sourcePattern : RegularExpression Char :=
  charClass "0123456789abcdef".toList ^ 40

/-- `int(component)` of a string of digits. -/
def intOf (component : Text) : Nat :=
  component.foldl (fun value digit => value * 10 + (digit.toNat - 48)) 0

def validateVersion (version : Text) : Except PythonError Unit := do
  raiseWhen (versionPattern.rmatch version = false) "firmware version must be canonical MAJOR.MINOR.PATCH"
  raiseWhen (exists component, component ∈ version.splitOn '.' ∧ intOf component > 65535)
    "firmware version components must not exceed 65535"

/-- `b"AZOTA001"`. -/
def descriptorMagic : Bytes :=
  [0x41, 0x5A, 0x4F, 0x54, 0x41, 0x30, 0x30, 0x31]

def parseDescriptor (data : Bytes) : Except PythonError Descriptor := do
  raiseWhen (data.length ≠ 256) "descriptor must be exactly 256 bytes"
  raiseWhen (data.take 8 ≠ descriptorMagic) "invalid descriptor magic"
  let descriptorVersion := leNat (slice data 8 2)
  let descriptorSize := leNat (slice data 10 2)
  let securityProfile := leNat (slice data 12 4)
  let packageVersion := leNat (slice data 160 4)
  raiseWhen (descriptorVersion ≠ 1 ∨ descriptorSize ≠ 256 ∨ securityProfile ≠ 1 ∨ packageVersion ≠ 1)
    "unsupported descriptor format"
  raiseWhen ((data.drop 196).any (· ≠ 0)) "descriptor reserved bytes must be zero"
  let productId <- canonicalString (slice data 16 32) "product ID"
  let boardId <- canonicalString (slice data 48 32) "board ID"
  let firmwareVersion <- canonicalString (slice data 80 32) "firmware version"
  validateVersion firmwareVersion
  match decodeAscii (slice data 112 40) with
  | none => .error (.packageError "source commit is not ASCII")
  | some sourceCommit => do
      raiseWhen (sourcePattern.rmatch sourceCommit = false)
        "source commit must be 40 lowercase hexadecimal characters"
      let applicationAddress := leNat (slice data 152 4)
      let applicationCapacity := leNat (slice data 156 4)
      raiseWhen (applicationAddress &&& 0x1FF ≠ 0) "application address must be aligned to 512 bytes"
      raiseWhen (applicationCapacity = 0) "application capacity must be greater than zero"
      raiseWhen (applicationAddress + applicationCapacity ≥ 0x100000000)
        "application address and capacity overflow"
      pure ⟨productId, boardId, firmwareVersion, sourceCommit, applicationAddress, applicationCapacity,
        slice data 164 32⟩

/-! ## Images -/

/-- `if wanted is not None`. -/
def whenGiven (wanted : Option X) (check : X -> Except PythonError Unit) : Except PythonError Unit :=
  match wanted with
  | none => .ok ()
  | some value => check value

/-- One pass of the loop of `_check_expected`. -/
def matchExpected [DecidableEq X] (name : String) (actual : X) (wanted : Option X) : Except PythonError Unit :=
  whenGiven wanted fun value => raiseWhen (actual ≠ value) ("descriptor " ++ name ++ " does not match")

def checkExpected (descriptor : Descriptor) (keyId : Bytes) (expected : Expectations) :
    Except PythonError Unit := do
  whenGiven expected.version validateVersion
  whenGiven expected.source fun source =>
    raiseWhen (sourcePattern.rmatch source = false)
      "expected source must be 40 lowercase hexadecimal characters"
  matchExpected "product ID" descriptor.productId expected.product
  matchExpected "board ID" descriptor.boardId expected.board
  matchExpected "firmware version" descriptor.firmwareVersion expected.version
  matchExpected "source commit" descriptor.sourceCommit expected.source
  matchExpected "application address" (descriptor.applicationAddress : Int) expected.address
  matchExpected "application capacity" (descriptor.applicationCapacity : Int) expected.capacity
  raiseWhen (descriptor.keyId ≠ keyId) "descriptor signing-key identifier does not match"

/-- `reset_vector & ~1` of a 32-bit number is the mask below. -/
def validateRawImage (image keyId : Bytes) (expected : Expectations) : Except PythonError Descriptor := do
  raiseWhen (keyId.length ≠ 32) "key identifier must be exactly 32 bytes"
  raiseWhen (image.length < 0x200 + 256) "image is too short to contain the descriptor"
  let descriptor <- parseDescriptor (slice image 0x200 256)
  raiseWhen (image.length > descriptor.applicationCapacity) "image exceeds descriptor application capacity"
  let stackPointer := leNat (slice image 0 4)
  let resetVector := leNat (slice image 4 4)
  raiseWhen (stackPointer &&& 7 ≠ 0 ∨ stackPointer ≤ 0x200001C4 ∨ stackPointer > 0x20040000)
    "invalid initial stack pointer"
  raiseWhen (resetVector &&& 1 = 0) "reset vector is not a Thumb address"
  let resetHandler := resetVector &&& 0xFFFFFFFE
  let imageEnd := descriptor.applicationAddress + image.length
  raiseWhen (imageEnd > 0x100000000 ∨ resetHandler < descriptor.applicationAddress ∨
    resetHandler + 2 > imageEnd) "reset handler is outside the image"
  checkExpected descriptor keyId expected
  pure descriptor

/-! ## Packages -/

/-- `b"AZPKG001"`. -/
def packageMagic : Bytes :=
  [0x41, 0x5A, 0x50, 0x4B, 0x47, 0x30, 0x30, 0x31]

/-- The `struct.pack` of `build_package`, followed by the descriptor. -/
def packageHeader (image : Bytes) : Bytes :=
  packageMagic ++ leBytes 2 1 ++ leBytes 2 320 ++ leBytes 2 1 ++ leBytes 2 64 ++ leBytes 4 image.length ++
    Sha256.hash image ++ List.replicate 12 0 ++ slice image 0x200 256

/-- `value.to_bytes(32, "big")`. -/
def toBytes32 (value : Nat) : Except PythonError Bytes :=
  if value < 2 ^ 256 then .ok (beBytes 32 value) else .error .overflowError

def publicKeyDer (crypto : Cryptography) (privateKey : crypto.PrivateKey) : Except PythonError Bytes := do
  raiseWhen (crypto.privateP256 privateKey = false) "private key must use P-256"
  pure (crypto.publicBytes (crypto.publicKey privateKey))

def buildPackage (crypto : Cryptography) (image : Bytes) (privateKey : crypto.PrivateKey)
    (expected : Expectations) : Except PythonError Bytes := do
  let publicDer <- publicKeyDer crypto privateKey
  let keyId := Sha256.hash publicDer
  let descriptor <- validateRawImage image keyId expected
  if image.length ≥ 2 ^ 32 then .error .structError
  else
    let header := packageHeader image
    match crypto.decodeDssSignature (crypto.sign privateKey header) with
    | none => .error .valueError
    | some (r, s) => do
        let first <- toBytes32 r
        let second <- toBytes32 s
        raiseWhen (descriptor.keyId ≠ keyId) "descriptor key identifier changed during build"
        pure (header ++ (first ++ second) ++ image)

def verifyPackage (crypto : Cryptography) (package : Bytes) (publicKey : crypto.PublicKey) (publicDer : Bytes)
    (expected : Expectations) : Except PythonError VerifiedPackage := do
  raiseWhen (crypto.publicP256 publicKey = false) "verification key must use P-256"
  raiseWhen (crypto.publicBytes publicKey ≠ publicDer) "public key DER does not match the verification key"
  raiseWhen (package.length < 384 + 1) "package is too short"
  raiseWhen (slice package 0 8 ≠ packageMagic) "invalid package magic"
  raiseWhen (leNat (slice package 8 2) ≠ 1 ∨ leNat (slice package 10 2) ≠ 320 ∨
    leNat (slice package 12 2) ≠ 1 ∨ leNat (slice package 14 2) ≠ 64) "unsupported package format"
  let payloadLength := leNat (slice package 16 4)
  let payloadDigest := slice package 20 32
  raiseWhen ((slice package 52 12).any (· ≠ 0)) "package reserved bytes must be zero"
  raiseWhen (payloadLength + 384 ≠ package.length) "package length does not match payload declaration"
  let descriptorBytes := slice package 64 256
  let payload := package.drop 384
  let embedded := slice payload 0x200 256
  raiseWhen (embedded.length ≠ 256 ∨ embedded ≠ descriptorBytes)
    "embedded descriptor does not match package header"
  let descriptor <- validateRawImage payload (Sha256.hash publicDer) expected
  raiseWhen (Sha256.hash payload ≠ payloadDigest) "payload SHA-256 does not match"
  let rawSignature := slice package 320 64
  let r := beNat (rawSignature.take 32)
  let s := beNat (rawSignature.drop 32)
  raiseWhen (crypto.verify publicKey (crypto.encodeDssSignature r s) (package.take 320) = false)
    "package signature is invalid"
  pure ⟨descriptor, payloadLength, payloadDigest⟩

/-- What is assumed of the library: a signature verifies under the matching
public key, encoding undoes decoding, and the two keys of a pair lie on one
curve.  That the two numbers of a signature fit into 32 bytes is not assumed,
since `build_package` raises when they do not. -/
structure Cryptography.Sound (crypto : Cryptography) : Prop where
  curve : forall key, crypto.privateP256 key = true -> crypto.publicP256 (crypto.publicKey key) = true
  signed : forall key message, crypto.privateP256 key = true ->
    crypto.verify (crypto.publicKey key) (crypto.sign key message) message = true
  inverse : forall signature r s, crypto.decodeDssSignature signature = some (r, s) ->
    crypto.encodeDssSignature r s = signature

end Package
end DevKit

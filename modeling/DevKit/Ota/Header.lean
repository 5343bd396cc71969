import DevKit.Ota.Session

namespace DevKit
namespace Ota

/-!
# Decoding the package header and the vector table

The pure part of `validateHeader`, up to the point where the signature is
checked, and `validateVectors`.  The source assigns the payload size and the
metadata to the session as it goes, so a rejected header leaves the session
with whatever had been decoded by then; `HeaderOutcome` keeps these partial
assignments next to the verdict.
-/

def allZero (data : Bytes) : Bool :=
  data.foldl (· ||| ·) 0 == 0

/-- Whether a field is a nonempty string padded with NUL bytes to its size. -/
def canonicalString (field : Bytes) : Bool :=
  let terminator := (field.takeWhile (· ≠ 0)).length
  !(terminator = 0 || terminator = field.length || !allZero (field.drop terminator))

def isDigit (character : UInt8) : Bool :=
  0x30 ≤ character && character ≤ 0x39

/-- The digit loop of `parseVersionComponent`. -/
def parseDigits (parsed : Nat) : Bytes -> Option (Nat × Bytes)
  | [] => some (parsed, [])
  | character :: cursor =>
      if isDigit character then
        let parsed := parsed * 10 + (character - 0x30).toNat
        if parsed > 65535 then none else parseDigits parsed cursor
      else some (parsed, character :: cursor)

/-- The parsed component and the cursor behind it.  A cursor past the end of
the field reads as NUL; the field is NUL-terminated, so this never happens. -/
def parseVersionComponent (cursor : Bytes) (separator : UInt8) : Option (UInt16 × Bytes) :=
  if !isDigit (cursor.getD 0 0) || (cursor.getD 0 0 = 0x30 && isDigit (cursor.getD 1 0)) then none
  else
    match parseDigits 0 cursor with
    | none => none
    | some (parsed, cursor) =>
        if cursor.getD 0 0 ≠ separator then none
        else some (UInt16.ofNat parsed, if separator ≠ 0 then cursor.tail else cursor)

/-- Components that precede a malformed one are already assigned. -/
def parseVersion (metadata : OTAStagingMetadata) : Bool × OTAStagingMetadata :=
  match parseVersionComponent metadata.firmwareVersion.bytes 0x2E with
  | none => (false, metadata)
  | some (major, cursor) =>
      let metadata := { metadata with versionMajor := major }
      match parseVersionComponent cursor 0x2E with
      | none => (false, metadata)
      | some (minor, cursor) =>
          let metadata := { metadata with versionMinor := minor }
          match parseVersionComponent cursor 0 with
          | none => (false, metadata)
          | some (patch, _) => (true, { metadata with versionPatch := patch })

def isSourceCharacter (character : UInt8) : Bool :=
  (0x30 ≤ character && character ≤ 0x39) || (0x61 ≤ character && character ≤ 0x66)

def validSourceCommit (source : Bytes) : Bool :=
  source.all isSourceCharacter

/-- `"AZPKG001"`. -/
def packageMagic : Bytes :=
  [0x41, 0x5A, 0x50, 0x4B, 0x47, 0x30, 0x30, 0x31]

/-- `"AZOTA001"`. -/
def descriptorMagic : Bytes :=
  [0x41, 0x5A, 0x4F, 0x54, 0x41, 0x30, 0x30, 0x31]

/-- The four conditions chained by `||` before the metadata is filled in:
three identifier copies and the source commit. -/
def decodeStrings (descriptor : Bytes) : Bool × OTAStagingMetadata :=
  let metadata := OTAStagingMetadata.zero
  if !canonicalString (slice descriptor 16 32) then (false, metadata)
  else
    let metadata := { metadata with productId := Buffer.fill 32 (slice descriptor 16 32) }
    if !canonicalString (slice descriptor 48 32) then (false, metadata)
    else
      let metadata := { metadata with boardId := Buffer.fill 32 (slice descriptor 48 32) }
      if !canonicalString (slice descriptor 80 32) then (false, metadata)
      else
        let metadata := { metadata with firmwareVersion := Buffer.fill 32 (slice descriptor 80 32) }
        (validSourceCommit (slice descriptor 112 40), metadata)

/-- The payload size that a header declares. -/
def headerPayloadSize (header : Bytes) : UInt32 :=
  readLittleEndian32 (header.drop 16)

/-- The metadata of a header before its version string is parsed. -/
def headerFields (header : Bytes) : OTAStagingMetadata :=
  let descriptor := header.drop 64
  { (decodeStrings descriptor).2 with
    sourceCommit := Buffer.fill 41 (slice descriptor 112 40)
    applicationAddress := readLittleEndian32 (descriptor.drop 152)
    applicationCapacity := readLittleEndian32 (descriptor.drop 156)
    payloadSize := headerPayloadSize header
    sha256 := Buffer.fill 32 (slice header 20 32) }

/-- The metadata that a header is decoded to. -/
def headerMetadata (header : Bytes) : OTAStagingMetadata :=
  (parseVersion (headerFields header)).2

/-- The verdict on a header and what was assigned to the session on the way:
`none` for a field that was not reached. -/
structure HeaderOutcome where
  verdict : Except OTAStagingError Unit
  payloadSize : Option UInt32
  metadata : Option OTAStagingMetadata

/-- `validateHeader` up to the key identifier check. -/
def decodeHeader (sizeMax : Nat) (parameters : SessionParameters) (header : Bytes) : HeaderOutcome :=
  let descriptor := header.drop 64
  if header.take 8 ≠ packageMagic ∨ (readLittleEndian16 (header.drop 10)).toNat ≠ 320 ∨
      (readLittleEndian16 (header.drop 14)).toNat ≠ 64 ∨ allZero (slice header 52 12) = false then
    ⟨.error .packageFormat, none, none⟩
  else if (readLittleEndian16 (header.drop 8)).toNat ≠ 1 ∨
      (readLittleEndian16 (header.drop 12)).toNat ≠ 1 then
    ⟨.error .unsupported, none, none⟩
  else
    let payloadSize := headerPayloadSize header
    if payloadSize.toNat < 0x200 + 256 ∨ payloadSize > parameters.ota.length ∨
        payloadSize > parameters.application.length then
      ⟨.error .imageBounds, some payloadSize, none⟩
    else if payloadSize.toNat > sizeMax - 384 ∨ payloadSize.toNat + 384 ≠ parameters.packageSize then
      ⟨.error .packageSize, some payloadSize, none⟩
    else if descriptor.take 8 ≠ descriptorMagic ∨
        (readLittleEndian16 (descriptor.drop 10)).toNat ≠ 256 ∨
        allZero (slice descriptor 196 60) = false then
      ⟨.error .packageFormat, some payloadSize, none⟩
    else if (readLittleEndian16 (descriptor.drop 8)).toNat ≠ 1 ∨
        (readLittleEndian32 (descriptor.drop 12)).toNat ≠ 1 ∨
        (readLittleEndian32 (descriptor.drop 160)).toNat ≠ 1 then
      ⟨.error .unsupported, some payloadSize, none⟩
    else if (decodeStrings descriptor).1 = false then
      ⟨.error .packageFormat, some payloadSize, some (decodeStrings descriptor).2⟩
    else
      let metadata := headerMetadata header
      if (parseVersion (headerFields header)).1 = false then
        ⟨.error .packageFormat, some payloadSize, some metadata⟩
      else if metadata.applicationAddress &&& 0x1FF ≠ 0 ∨
          metadata.applicationAddress ≠ parameters.application.start ∨
          metadata.applicationCapacity ≠ parameters.application.length ∨
          parameters.application.start > 0xFFFFFFFF - parameters.application.length ∨
          parameters.ota.start > 0xFFFFFFFF - parameters.ota.length then
        ⟨.error .imageBounds, some payloadSize, some metadata⟩
      else if sha256 parameters.publicKey.bytes ≠ slice descriptor 164 32 then
        ⟨.error .keyMismatch, some payloadSize, some metadata⟩
      else
        ⟨.ok (), some payloadSize, some metadata⟩

/-- The initial stack pointer and the reset handler of the image. -/
def validateVectors (vectors : Bytes) (application : OTAStagingPartition) (payloadSize : UInt32) :
    Except OTAStagingError Unit :=
  let stackPointer := readLittleEndian32 vectors
  let resetVector := readLittleEndian32 (vectors.drop 4)
  if stackPointer &&& 7 ≠ 0 ∨ stackPointer ≤ 0x200001C4 ∨ stackPointer > 0x20040000 ∨
      resetVector &&& 1 = 0 then
    .error .vectorTable
  else
    let resetHandler := resetVector &&& ~~~1
    if resetHandler < application.start ∨ payloadSize < 2 ∨ resetHandler > 0xFFFFFFFF - 2 ∨
        application.start > 0xFFFFFFFF - payloadSize ∨
        resetHandler + 2 > application.start + payloadSize then
      .error .vectorTable
    else
      .ok ()

/-- Parsing the version string assigns the three version components only. -/
theorem parseVersion_eq (metadata : OTAStagingMetadata) :
    exists major minor patch, (parseVersion metadata).2 =
      { metadata with versionMajor := major, versionMinor := minor, versionPatch := patch } := by
  rw [parseVersion]
  split
  · exact ⟨_, _, _, rfl⟩
  · split
    · exact ⟨_, _, _, rfl⟩
    · split
      · exact ⟨_, _, _, rfl⟩
      · exact ⟨_, _, _, rfl⟩

theorem headerMetadata_sha256 (header : Bytes) (long : 52 ≤ header.length) :
    (headerMetadata header).sha256.bytes = slice header 20 32 := by
  rcases parseVersion_eq (headerFields header) with ⟨major, minor, patch, same⟩
  rw [headerMetadata, same]
  exact Buffer.fill_bytes_of_length _ (length_slice header 20 32 (by omega))

/-! ## Accepted headers -/

/-- The conditions under which `decodeHeader` accepts. -/
structure HeaderAccepted (sizeMax : Nat) (parameters : SessionParameters) (header : Bytes) : Prop where
  magic : header.take 8 = packageMagic
  headerSize : (readLittleEndian16 (header.drop 10)).toNat = 320
  signatureSize : (readLittleEndian16 (header.drop 14)).toNat = 64
  reserved : allZero (slice header 52 12) = true
  formatVersion : (readLittleEndian16 (header.drop 8)).toNat = 1
  algorithm : (readLittleEndian16 (header.drop 12)).toNat = 1
  minimal : 0x200 + 256 ≤ (headerPayloadSize header).toNat
  fitsOta : headerPayloadSize header ≤ parameters.ota.length
  fitsApplication : headerPayloadSize header ≤ parameters.application.length
  fitsSize : (headerPayloadSize header).toNat ≤ sizeMax - 384
  exact : (headerPayloadSize header).toNat + 384 = parameters.packageSize
  descriptorMagic : (header.drop 64).take 8 = descriptorMagic
  descriptorSize : (readLittleEndian16 ((header.drop 64).drop 10)).toNat = 256
  descriptorReserved : allZero (slice (header.drop 64) 196 60) = true
  descriptorVersion : (readLittleEndian16 ((header.drop 64).drop 8)).toNat = 1
  descriptorFlags : (readLittleEndian32 ((header.drop 64).drop 12)).toNat = 1
  descriptorAlgorithm : (readLittleEndian32 ((header.drop 64).drop 160)).toNat = 1
  strings : (decodeStrings (header.drop 64)).1 = true
  version : (parseVersion (headerFields header)).1 = true
  aligned : (headerMetadata header).applicationAddress &&& 0x1FF = 0
  address : (headerMetadata header).applicationAddress = parameters.application.start
  capacity : (headerMetadata header).applicationCapacity = parameters.application.length
  applicationEnd : parameters.application.start ≤ 0xFFFFFFFF - parameters.application.length
  otaEnd : parameters.ota.start ≤ 0xFFFFFFFF - parameters.ota.length
  key : sha256 parameters.publicKey.bytes = slice (header.drop 64) 164 32

theorem HeaderAccepted.outcome {sizeMax : Nat} {parameters : SessionParameters} {header : Bytes}
    (accepted : HeaderAccepted sizeMax parameters header) :
    decodeHeader sizeMax parameters header =
      ⟨.ok (), some (headerPayloadSize header), some (headerMetadata header)⟩ := by
  have format : ¬ (header.take 8 ≠ packageMagic ∨ (readLittleEndian16 (header.drop 10)).toNat ≠ 320 ∨
      (readLittleEndian16 (header.drop 14)).toNat ≠ 64 ∨ allZero (slice header 52 12) = false) := by
    simp [accepted.magic, accepted.headerSize, accepted.signatureSize, accepted.reserved]
  have supported : ¬ ((readLittleEndian16 (header.drop 8)).toNat ≠ 1 ∨
      (readLittleEndian16 (header.drop 12)).toNat ≠ 1) := by
    simp [accepted.formatVersion, accepted.algorithm]
  have bounds : ¬ ((headerPayloadSize header).toNat < 0x200 + 256 ∨
      headerPayloadSize header > parameters.ota.length ∨
      headerPayloadSize header > parameters.application.length) := by
    simp [accepted.minimal, accepted.fitsOta, accepted.fitsApplication]
  have size : ¬ ((headerPayloadSize header).toNat > sizeMax - 384 ∨
      (headerPayloadSize header).toNat + 384 ≠ parameters.packageSize) := by
    simp [accepted.fitsSize, accepted.exact]
  have descriptor : ¬ ((header.drop 64).take 8 ≠ Ota.descriptorMagic ∨
      (readLittleEndian16 ((header.drop 64).drop 10)).toNat ≠ 256 ∨
      allZero (slice (header.drop 64) 196 60) = false) := by
    simp [accepted.descriptorMagic, accepted.descriptorSize, accepted.descriptorReserved, -List.drop_drop]
  have described : ¬ ((readLittleEndian16 ((header.drop 64).drop 8)).toNat ≠ 1 ∨
      (readLittleEndian32 ((header.drop 64).drop 12)).toNat ≠ 1 ∨
      (readLittleEndian32 ((header.drop 64).drop 160)).toNat ≠ 1) := by
    simp [accepted.descriptorVersion, accepted.descriptorFlags, accepted.descriptorAlgorithm, -List.drop_drop]
  have image : ¬ ((headerMetadata header).applicationAddress &&& 0x1FF ≠ 0 ∨
      (headerMetadata header).applicationAddress ≠ parameters.application.start ∨
      (headerMetadata header).applicationCapacity ≠ parameters.application.length ∨
      parameters.application.start > 0xFFFFFFFF - parameters.application.length ∨
      parameters.ota.start > 0xFFFFFFFF - parameters.ota.length) := by
    have aligned := accepted.aligned
    rw [accepted.address] at aligned
    simp [aligned, accepted.address, accepted.capacity, accepted.applicationEnd, accepted.otaEnd]
  have strings : ¬ (decodeStrings (header.drop 64)).1 = false := by
    simp [accepted.strings]
  have version : ¬ (parseVersion (headerFields header)).1 = false := by
    simp [accepted.version]
  rw [decodeHeader, if_neg format, if_neg supported, if_neg bounds, if_neg size, if_neg descriptor,
    if_neg described, if_neg strings, if_neg version, if_neg image, if_neg (not_not.mpr accepted.key)]

/-- The verdict is positive exactly when all conditions hold. -/
theorem decodeHeader_ok_iff {sizeMax : Nat} {parameters : SessionParameters} {header : Bytes} :
    (decodeHeader sizeMax parameters header).verdict = .ok () <->
      HeaderAccepted sizeMax parameters header := by
  constructor
  · intro accepted
    simp only [decodeHeader] at accepted
    split at accepted
    · cases accepted
    rename_i format
    split at accepted
    · cases accepted
    rename_i supported
    split at accepted
    · cases accepted
    rename_i bounds
    split at accepted
    · cases accepted
    rename_i size
    split at accepted
    · cases accepted
    rename_i descriptor
    split at accepted
    · cases accepted
    rename_i described
    split at accepted
    · cases accepted
    rename_i strings
    split at accepted
    · cases accepted
    rename_i version
    split at accepted
    · cases accepted
    rename_i image
    split at accepted
    · cases accepted
    rename_i key
    simp only [not_or, not_not, Bool.not_eq_false, Nat.not_lt, UInt32.not_lt, gt_iff_lt] at *
    exact ⟨format.1, format.2.1, format.2.2.1, format.2.2.2, supported.1, supported.2, bounds.1, bounds.2.1,
      bounds.2.2, size.1, size.2, descriptor.1, descriptor.2.1, descriptor.2.2, described.1, described.2.1,
      described.2.2, strings, version, image.1, image.2.1, image.2.2.1, image.2.2.2.1, image.2.2.2.2, key⟩
  · intro accepted
    rw [accepted.outcome]

end Ota
end DevKit

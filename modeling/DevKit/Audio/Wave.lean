import DevKit.Foundation.CString

namespace DevKit
namespace Audio

/-!
# The header of a recording

A recording is kept in the format of a WAV file: 44 bytes with the parameters of the
samples, and the samples behind them.  The sizes in the header count bytes: the size of
the data, and the size of the file without its first eight bytes.
-/

/-- `WAVE_HEADER_SIZE` -/
def waveHeaderSize : Nat := 44

/-- `AUDIO_CHUNK_SIZE` -/
def audioChunkSize : Nat := 512

/-- `STEREO` -/
def stereo : UInt8 := 2

/-- `WaveHeader` -/
structure WaveHeader where
  riffMarker : Buffer 4
  fileSize : UInt32
  filetypeHeader : Buffer 4
  formatMarker : Buffer 4
  dataHeaderLength : UInt32
  formatType : UInt16
  numberOfChannels : UInt16
  sampleRate : UInt32
  bytesPerSecond : UInt32
  bytesPerFrame : UInt16
  bitsPerSample : UInt16
  dataChunkId : Buffer 4
  dataChunkSize : UInt32

/-- The structure in memory. -/
def WaveHeader.bytes (hdr : WaveHeader) : Bytes :=
  hdr.riffMarker.bytes ++ leBytes 4 hdr.fileSize.toNat ++ hdr.filetypeHeader.bytes ++ hdr.formatMarker.bytes ++
    leBytes 4 hdr.dataHeaderLength.toNat ++ leBytes 2 hdr.formatType.toNat ++ leBytes 2 hdr.numberOfChannels.toNat ++
    leBytes 4 hdr.sampleRate.toNat ++ leBytes 4 hdr.bytesPerSecond.toNat ++ leBytes 2 hdr.bytesPerFrame.toNat ++
    leBytes 2 hdr.bitsPerSample.toNat ++ hdr.dataChunkId.bytes ++ leBytes 4 hdr.dataChunkSize.toNat

theorem WaveHeader.length_bytes (hdr : WaveHeader) : hdr.bytes.length = waveHeaderSize := by
  simp only [WaveHeader.bytes, List.length_append, length_leBytes, Buffer.length_eq]
  rfl

/-- `genericWAVHeader`; the products are computed as the types of the source say. -/
def genericWAVHeader (pcmDataSize : Int) (sampleRate : UInt32) (sampleBitDepth : UInt16) (channels : UInt8) :
    WaveHeader where
  riffMarker := Buffer.fill 4 (literal "RIFF")
  fileSize := UInt32.ofInt (pcmDataSize + 36)
  filetypeHeader := Buffer.fill 4 (literal "WAVE")
  formatMarker := Buffer.fill 4 (literal "fmt ")
  dataHeaderLength := 16
  formatType := 1
  numberOfChannels := channels.toUInt16
  sampleRate := sampleRate
  bytesPerSecond := sampleRate * channels.toUInt32 * sampleBitDepth.toUInt32 / 8
  bytesPerFrame := UInt16.ofNat (channels.toNat * sampleBitDepth.toNat / 8)
  bitsPerSample := sampleBitDepth
  dataChunkId := Buffer.fill 4 (literal "data")
  dataChunkSize := UInt32.ofInt pcmDataSize

/-- What a header should say about a recording. -/
structure Describes (hdr : WaveHeader) (channels bits rate dataSize : Nat) : Prop where
  riff : hdr.riffMarker.bytes = literal "RIFF"
  wave : hdr.filetypeHeader.bytes = literal "WAVE"
  format : hdr.formatMarker.bytes = literal "fmt "
  data : hdr.dataChunkId.bytes = literal "data"
  length : hdr.dataHeaderLength = 16
  pcm : hdr.formatType = 1
  hasChannels : hdr.numberOfChannels.toNat = channels
  hasRate : hdr.sampleRate.toNat = rate
  hasBits : hdr.bitsPerSample.toNat = bits
  perFrame : hdr.bytesPerFrame.toNat = channels * bits / 8
  /-- As long as the number of bits in a second is a 32-bit number. -/
  perSecond : rate * channels * bits < 2 ^ 32 -> hdr.bytesPerSecond.toNat = rate * channels * bits / 8
  hasData : hdr.dataChunkSize.toNat = dataSize
  hasFile : hdr.fileSize.toNat = dataSize + 36

theorem toNat_ofInt {number : Nat} (small : number < 2 ^ 32) : (UInt32.ofInt number).toNat = number := by
  rw [UInt32.ofInt, UInt32.toNat_ofNat']
  omega

theorem genericWAVHeader_describes {pcmDataSize : Nat} (small : pcmDataSize < 2 ^ 31) (sampleRate : UInt32)
    (sampleBitDepth : UInt16) {channels : UInt8} (few : channels.toNat ≤ 2) :
    Describes (genericWAVHeader pcmDataSize sampleRate sampleBitDepth channels) channels.toNat sampleBitDepth.toNat
      sampleRate.toNat pcmDataSize where
  riff := rfl
  wave := rfl
  format := rfl
  data := rfl
  length := rfl
  pcm := rfl
  hasChannels := UInt8.toNat_toUInt16 channels
  hasRate := rfl
  hasBits := rfl
  perFrame := by
    have depth := sampleBitDepth.toNat_lt
    have most : channels.toNat * sampleBitDepth.toNat ≤ 2 * sampleBitDepth.toNat := Nat.mul_le_mul_right _ few
    change (UInt16.ofNat (channels.toNat * sampleBitDepth.toNat / 8)).toNat = _
    rw [UInt16.toNat_ofNat']
    omega
  perSecond := by
    intro fits
    have first : sampleRate.toNat * channels.toNat < 2 ^ 32 ∨ sampleBitDepth.toNat = 0 := by
      rcases Nat.eq_zero_or_pos sampleBitDepth.toNat with zero | positive
      · exact Or.inr zero
      · exact Or.inl (Nat.lt_of_le_of_lt (Nat.le_mul_of_pos_right _ positive) fits)
    change (sampleRate * channels.toUInt32 * sampleBitDepth.toUInt32 / 8).toNat = _
    rw [UInt32.toNat_div, UInt32.toNat_mul, UInt32.toNat_mul, UInt8.toNat_toUInt32, UInt16.toNat_toUInt32]
    rcases first with small | zero
    · rw [Nat.mod_eq_of_lt small, Nat.mod_eq_of_lt fits]
      rfl
    · rw [zero, Nat.mul_zero, Nat.mul_zero]
      rfl
  hasData := toNat_ofInt (by omega)
  hasFile := by
    change (UInt32.ofInt ((pcmDataSize + 36 : Nat) : Int)).toNat = _
    exact toNat_ofInt (by omega)

end Audio
end DevKit

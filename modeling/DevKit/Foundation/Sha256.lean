import DevKit.Foundation.BlockStream

namespace DevKit
namespace Sha256

/-!
# The SHA-256 function

The function of FIPS 180-4, written the way the standard defines it: the
initial value and the round constants are the leading fractional bits of
square and cube roots of the first primes, the message schedule is a
recurrence, and the digest folds the compression function over the blocks of
the padded message.
-/

/-- The eight working variables, also used as the chaining value. -/
@[ext]
structure Words where
  a : UInt32
  b : UInt32
  c : UInt32
  d : UInt32
  e : UInt32
  f : UInt32
  g : UInt32
  h : UInt32
deriving DecidableEq

def firstPrimes : List Nat :=
  [2, 3, 5, 7, 11, 13, 17, 19, 23, 29, 31, 37, 41, 43, 47, 53, 59, 61, 67, 71, 73, 79, 83, 89,
    97, 101, 103, 107, 109, 113, 127, 131, 137, 139, 149, 151, 157, 163, 167, 173, 179, 181, 191,
    193, 197, 199, 211, 223, 227, 229, 233, 239, 241, 251, 257, 263, 269, 271, 277, 281, 283, 293,
    307, 311]

/-- The first thirty-two bits of the fractional part of a root. -/
def fractionBits (degree radicand : Nat) : UInt32 :=
  UInt32.ofNat (Nat.nthRoot degree (radicand * 2 ^ (32 * degree)))

def initialValue : Words :=
  ⟨fractionBits 2 2, fractionBits 2 3, fractionBits 2 5, fractionBits 2 7,
    fractionBits 2 11, fractionBits 2 13, fractionBits 2 17, fractionBits 2 19⟩

def roundConstants : List UInt32 :=
  firstPrimes.map (fractionBits 3)

def rotr (count value : UInt32) : UInt32 :=
  (value >>> count) ||| (value <<< (32 - count))

def smallSigma0 (x : UInt32) : UInt32 := rotr 7 x ^^^ rotr 18 x ^^^ (x >>> 3)

def smallSigma1 (x : UInt32) : UInt32 := rotr 17 x ^^^ rotr 19 x ^^^ (x >>> 10)

def bigSigma0 (x : UInt32) : UInt32 := rotr 2 x ^^^ rotr 13 x ^^^ rotr 22 x

def bigSigma1 (x : UInt32) : UInt32 := rotr 6 x ^^^ rotr 11 x ^^^ rotr 25 x

def choose (x y z : UInt32) : UInt32 := (x &&& y) ^^^ (~~~x &&& z)

def majority (x y z : UInt32) : UInt32 := (x &&& y) ^^^ (x &&& z) ^^^ (y &&& z)

/-- The message schedule of one block. -/
def schedule (message : Nat -> UInt32) (t : Nat) : UInt32 :=
  if t < 16 then message t
  else smallSigma1 (schedule message (t - 2)) + schedule message (t - 7) +
    smallSigma0 (schedule message (t - 15)) + schedule message (t - 16)

theorem schedule_of_lt (message : Nat -> UInt32) (t : Nat) (early : t < 16) :
    schedule message t = message t := by
  rw [schedule, if_pos early]

theorem schedule_of_le (message : Nat -> UInt32) (t : Nat) (late : 16 ≤ t) :
    schedule message t = smallSigma1 (schedule message (t - 2)) + schedule message (t - 7) +
      smallSigma0 (schedule message (t - 15)) + schedule message (t - 16) := by
  rw [schedule, if_neg (Nat.not_lt_of_le late)]

/-- One round with its constant and its schedule word. -/
def round (constant word : UInt32) (v : Words) : Words :=
  let first := v.h + bigSigma1 v.e + choose v.e v.f v.g + constant + word
  let second := bigSigma0 v.a + majority v.a v.b v.c
  ⟨first + second, v.a, v.b, v.c, v.d + first, v.e, v.f, v.g⟩

/-- The big-endian word `t` of a block. -/
def messageWord (block : Bytes) (t : Nat) : UInt32 :=
  UInt32.ofNat (beNat (slice block (4 * t) 4))

def Words.add (left right : Words) : Words :=
  ⟨left.a + right.a, left.b + right.b, left.c + right.c, left.d + right.d,
    left.e + right.e, left.f + right.f, left.g + right.g, left.h + right.h⟩

def compress (chain : Words) (block : Bytes) : Words :=
  chain.add ((List.range 64).foldl
    (fun v t => round (roundConstants.getD t 0) (schedule (messageWord block) t) v) chain)

def Words.toBytes (words : Words) : Bytes :=
  beBytes 4 words.a.toNat ++ beBytes 4 words.b.toNat ++ beBytes 4 words.c.toNat ++
    beBytes 4 words.d.toNat ++ beBytes 4 words.e.toNat ++ beBytes 4 words.f.toNat ++
    beBytes 4 words.g.toNat ++ beBytes 4 words.h.toNat

theorem Words.length_toBytes (words : Words) : words.toBytes.length = 32 := by
  simp only [toBytes, List.length_append, length_beBytes]

/-- The number of zero bytes between the marker and the length field. -/
def paddingZeros (length : Nat) : Nat :=
  (119 - length % 64) % 64

def pad (message : Bytes) : Bytes :=
  message ++ [0x80] ++ List.replicate (paddingZeros message.length) 0 ++
    beBytes 8 (8 * message.length)

theorem length_pad_dvd (message : Bytes) : 64 ∣ (pad message).length := by
  simp only [pad, paddingZeros, List.length_append, List.length_singleton, List.length_replicate,
    length_beBytes]
  omega

/-- The digest of a message. -/
def hash (message : Bytes) : Bytes :=
  ((BlockStream.blocks 64 (pad message)).foldl compress initialValue).toBytes

theorem length_hash (message : Bytes) : (hash message).length = 32 :=
  Words.length_toBytes _

/-- The digest by absorbing the padded message byte by byte. -/
theorem hash_eq_absorb (message : Bytes) :
    hash message = (BlockStream.absorb compress 64 (initialValue, []) (pad message)).1.toBytes := by
  rw [BlockStream.absorb_of_dvd compress 64 initialValue (pad message) (by decide)
    (length_pad_dvd message)]
  rfl

end Sha256
end DevKit

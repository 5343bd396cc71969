import DevKit.Foundation.Bytes

namespace DevKit
namespace WebSocket

/-!
# Frames on the wire

A frame is one fragment of a message or a control frame.  Its two first bytes
carry the final bit, the opcode, the mask bit and a length of seven bits, of
which two values announce a length of two or of eight bytes instead.  The length
may thus be written longer than necessary, so the form of the length is part of
a frame.

Frames are self-delimiting: `encode_append_inj` says that a stream of bytes is
the encoding of at most one frame and what follows it.
-/

/-- How the length of the payload is written. -/
inductive LengthForm where
  | short
  | medium
  | long
deriving Repr, DecidableEq

namespace LengthForm

/-- The lengths that a form can write. -/
def Fits : LengthForm -> Nat -> Prop
  | .short, length => length < 126
  | .medium, length => length < 256 ^ 2
  | .long, length => length < 256 ^ 8

/-- The seven bits of the second byte. -/
def field : LengthForm -> Nat -> Nat
  | .short, length => length
  | .medium, _ => 126
  | .long, _ => 127

/-- The bytes of the length behind the second byte. -/
def extra : LengthForm -> Nat -> Bytes
  | .short, _ => []
  | .medium, length => beBytes 2 length
  | .long, length => beBytes 8 length

/-- The shortest form for a length. -/
def least (length : Nat) : LengthForm :=
  if length < 126 then .short else if length < 256 ^ 2 then .medium else .long

theorem field_lt {form : LengthForm} {length : Nat} (fits : form.Fits length) : form.field length < 128 := by
  cases form with
  | short => exact Nat.lt_trans fits (by decide)
  | medium => exact (by decide : 126 < 128)
  | long => exact (by decide : 127 < 128)

theorem length_extra (form : LengthForm) (first second : Nat) :
    (form.extra first).length = (form.extra second).length := by
  cases form <;> simp only [extra, length_beBytes]

/-- The seven bits tell the forms apart. -/
theorem eq_of_field_eq {one other : LengthForm} {first second : Nat} (fits : one.Fits first)
    (fitsToo : other.Fits second) (same : one.field first = other.field second) : one = other := by
  cases one <;> cases other <;> simp only [field, Fits] at same fits fitsToo <;> first | rfl | omega

/-- With the form, the seven bits and the further bytes determine the length. -/
theorem eq_of_extra_eq {form : LengthForm} {first second : Nat} (fits : form.Fits first)
    (fitsToo : form.Fits second) (same : form.field first = form.field second)
    (sameExtra : form.extra first = form.extra second) : first = second := by
  cases form with
  | short => exact same
  | medium =>
      rw [← beNat_beBytes 2 first fits, ← beNat_beBytes 2 second fitsToo]
      exact congrArg beNat sameExtra
  | long =>
      rw [← beNat_beBytes 8 first fits, ← beNat_beBytes 8 second fitsToo]
      exact congrArg beNat sameExtra

end LengthForm

/-- Each byte of a payload is combined with one of the four bytes of the mask. -/
def applyMask (mask payload : Bytes) : Bytes :=
  payload.mapIdx fun index byte => byte ^^^ mask.getD (index % 4) 0

theorem length_applyMask (mask payload : Bytes) : (applyMask mask payload).length = payload.length :=
  List.length_mapIdx

theorem applyMask_applyMask (mask payload : Bytes) : applyMask mask (applyMask mask payload) = payload := by
  unfold applyMask
  rw [List.mapIdx_mapIdx]
  simp only [Function.comp_def]
  apply List.ext_getElem
  · rw [List.length_mapIdx]
  · intro index short _
    rw [List.getElem_mapIdx, UInt8.xor_assoc, UInt8.xor_self, UInt8.xor_zero]

/-- Nothing is changed by four zeros. -/
theorem applyMask_zero (payload : Bytes) : applyMask [0, 0, 0, 0] payload = payload := by
  apply List.ext_getElem
  · exact length_applyMask _ payload
  · intro index _ _
    have few : index % 4 < 4 := Nat.mod_lt _ (by decide)
    have zero : forall position, position < 4 -> ([0, 0, 0, 0] : Bytes).getD position 0 = 0 := by decide
    simp only [applyMask, List.getElem_mapIdx]
    rw [zero _ few, UInt8.xor_zero]

/-- A frame with its payload as the application sees it. -/
structure Frame where
  final : Bool
  opcode : Nat
  form : LengthForm
  mask : Option (Buffer 4)
  payload : Bytes
  opcode_lt : opcode < 16
  fits : form.Fits payload.length

namespace Frame

@[ext]
theorem ext {one other : Frame} (final : one.final = other.final) (opcode : one.opcode = other.opcode)
    (form : one.form = other.form) (mask : one.mask = other.mask) (payload : one.payload = other.payload) :
    one = other := by
  cases one
  cases other
  cases final
  cases opcode
  cases form
  cases mask
  cases payload
  rfl

def firstByte (frame : Frame) : UInt8 :=
  UInt8.ofNat (frame.opcode + if frame.final then 128 else 0)

def secondByte (frame : Frame) : UInt8 :=
  UInt8.ofNat (frame.form.field frame.payload.length + if frame.mask.isSome then 128 else 0)

def maskBytes (frame : Frame) : Bytes :=
  (frame.mask.map Buffer.bytes).getD []

/-- The mask that is applied; a frame without a mask has four zeros. -/
def effectiveMask (frame : Frame) : Bytes :=
  (frame.mask.map Buffer.bytes).getD [0, 0, 0, 0]

def encode (frame : Frame) : Bytes :=
  frame.firstByte :: frame.secondByte :: (frame.form.extra frame.payload.length ++ frame.maskBytes ++
    applyMask frame.effectiveMask frame.payload)

/-- The length is written in its shortest form. -/
def Shortest (frame : Frame) : Prop :=
  frame.form = LengthForm.least frame.payload.length

theorem toNat_firstByte (frame : Frame) :
    frame.firstByte.toNat = frame.opcode + if frame.final then 128 else 0 := by
  have bound := frame.opcode_lt
  rw [firstByte, UInt8.toNat_ofNat_of_lt']
  split <;> simp only [UInt8.size] <;> omega

theorem toNat_secondByte (frame : Frame) :
    frame.secondByte.toNat = frame.form.field frame.payload.length + if frame.mask.isSome then 128 else 0 := by
  have bound := LengthForm.field_lt frame.fits
  rw [secondByte, UInt8.toNat_ofNat_of_lt']
  split <;> simp only [UInt8.size] <;> omega

/-- A low part below 128 and a flag at 128 are determined by their sum. -/
theorem flag_inj {low other : Nat} {flag another : Bool} (small : low < 128) (smallToo : other < 128)
    (same : (low + if flag then 128 else 0) = other + if another then 128 else 0) :
    low = other ∧ flag = another := by
  cases flag <;> cases another <;> simp only [if_true, if_false, Bool.false_eq_true] at same <;>
    constructor <;> first | rfl | omega

/-- The mask bytes determine the mask once it is known whether there is one. -/
theorem mask_inj {one other : Option (Buffer 4)} (both : one.isSome = other.isSome)
    (same : (one.map Buffer.bytes).getD [] = (other.map Buffer.bytes).getD []) : one = other := by
  cases one <;> cases other
  · rfl
  · cases both
  · cases both
  · exact congrArg some (Buffer.ext same)

theorem length_maskBytes (frame : Frame) : frame.maskBytes.length = if frame.mask.isSome then 4 else 0 := by
  unfold maskBytes
  cases frame.mask with
  | none => rfl
  | some mask => exact mask.length_eq

theorem encode_append_inj {one other : Frame} {rest more : Bytes}
    (same : one.encode ++ rest = other.encode ++ more) : one = other ∧ rest = more := by
  unfold encode at same
  rw [List.cons_append, List.cons_append, List.cons_append, List.cons_append, List.cons.injEq, List.cons.injEq] at same
  rcases same with ⟨sameFirst, sameSecond, tails⟩
  have firsts := congrArg UInt8.toNat sameFirst
  rw [toNat_firstByte, toNat_firstByte] at firsts
  have seconds := congrArg UInt8.toNat sameSecond
  rw [toNat_secondByte, toNat_secondByte] at seconds
  rcases flag_inj (Nat.lt_trans one.opcode_lt (by decide)) (Nat.lt_trans other.opcode_lt (by decide)) firsts with
    ⟨opcode, final⟩
  rcases flag_inj (LengthForm.field_lt one.fits) (LengthForm.field_lt other.fits) seconds with ⟨field, masked⟩
  have form := LengthForm.eq_of_field_eq one.fits other.fits field
  -- the parts behind the second byte have equal lengths, one after the other
  rw [List.append_assoc, List.append_assoc, List.append_assoc, List.append_assoc] at tails
  have extras : (one.form.extra one.payload.length).length = (other.form.extra other.payload.length).length := by
    rw [form]
    exact LengthForm.length_extra _ _ _
  rcases List.append_inj tails extras with ⟨extra, tails⟩
  have length : one.payload.length = other.payload.length := by
    have fits := one.fits
    rw [form] at fits field extra
    exact LengthForm.eq_of_extra_eq fits other.fits field extra
  have masks : one.maskBytes.length = other.maskBytes.length := by
    rw [length_maskBytes, length_maskBytes, masked]
  rcases List.append_inj tails masks with ⟨sameMask, tails⟩
  have mask := mask_inj masked sameMask
  have payloads : (applyMask one.effectiveMask one.payload).length =
      (applyMask other.effectiveMask other.payload).length := by
    rw [length_applyMask, length_applyMask, length]
  rcases List.append_inj tails payloads with ⟨samePayload, sameRest⟩
  have payload : one.payload = other.payload := by
    rw [← applyMask_applyMask one.effectiveMask one.payload, samePayload]
    unfold effectiveMask
    rw [mask, applyMask_applyMask]
  exact ⟨Frame.ext final opcode form mask payload, sameRest⟩

theorem encode_ne_nil (frame : Frame) : frame.encode ≠ [] :=
  List.cons_ne_nil _ _

/-- A stream of frames can be read in one way only. -/
theorem flatMap_encode_inj {frames others : List Frame} (same : frames.flatMap encode = others.flatMap encode) :
    frames = others := by
  induction frames generalizing others with
  | nil =>
      cases others with
      | nil => rfl
      | cons other others => exact absurd same.symm (List.append_ne_nil_of_left_ne_nil other.encode_ne_nil _)
  | cons frame frames inductionHypothesis =>
      cases others with
      | nil => exact absurd same (List.append_ne_nil_of_left_ne_nil frame.encode_ne_nil _)
      | cons other others =>
          rw [List.flatMap_cons, List.flatMap_cons] at same
          rcases encode_append_inj same with ⟨rfl, tails⟩
          rw [inductionHypothesis tails]

end Frame

end WebSocket
end DevKit

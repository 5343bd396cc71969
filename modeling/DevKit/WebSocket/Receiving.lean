import DevKit.WebSocket.Client
import DevKit.WebSocket.Frame

namespace DevKit
namespace WebSocket

open Procedure

/-!
# What the client receives

The bytes of the other side arrive in pieces of any size.  `Pending` is the
stream that is still to come, without its cuts; every function below is
described by what it takes from the stream, so the cuts disappear at `recv`.

A frame that fits into the buffer is received whole: its payload, a zero behind
it, and a report that depends on the frame and on the message type in the
object.
-/

/-- The arrivals bring these bytes, cut into pieces that are not empty. -/
def Pending (arrivals : List Arrival) (bytes : Bytes) : Prop :=
  exists chunks : List Bytes, arrivals = chunks.map Arrival.data ∧ [] ∉ chunks ∧ chunks.flatten = bytes

theorem pending_nil {arrivals : List Arrival} (pending : Pending arrivals []) : arrivals = [] := by
  rcases pending with ⟨chunks, rfl, nonempty, flat⟩
  cases chunks with
  | nil => rfl
  | cons chunk chunks =>
      rw [List.flatten_cons, List.append_eq_nil_iff] at flat
      exact absurd (flat.1 ▸ List.mem_cons_self) nonempty

theorem lt_patience {arrivals : List Arrival} {bytes : Bytes} (pending : Pending arrivals bytes) :
    bytes.length < patience arrivals := by
  rcases pending with ⟨chunks, rfl, nonempty, rfl⟩
  clear nonempty
  unfold patience
  induction chunks with
  | nil => decide
  | cons chunk chunks inductionHypothesis =>
      simp only [List.flatten_cons, List.length_append, List.map_cons, List.sum_cons] at inductionHypothesis ⊢
      omega

section Reading

variable {start : Session} {bytes rest : Bytes}

/-- A call takes some bytes from the front of the stream. -/
theorem recv_triple {len : Nat} (pending : Pending start.arrivals bytes) (some : bytes ≠ []) (positive : 0 < len) :
    Triple (fun session => session = start) (recv len)
      (fun res session => exists count, 1 ≤ count ∧ count ≤ len ∧ count ≤ bytes.length ∧
        res = ((count : Int), bytes.take count) ∧ exists arrivals, Pending arrivals (bytes.drop count) ∧
          session = { start with arrivals }) (fun _ _ => False) := by
  rcases pending with ⟨chunks, known, nonempty, flat⟩
  cases chunks with
  | nil => exact absurd flat.symm some
  | cons chunk chunks =>
      rw [List.mem_cons, not_or] at nonempty
      rw [List.flatten_cons] at flat
      have filled : 0 < chunk.length := List.length_pos_iff.mpr (Ne.symm nonempty.1)
      rintro session rfl
      unfold recv
      rw [known, List.map_cons]
      refine ⟨fun res reached ended => ?_, fun _ _ impossible => by cases impossible⟩
      cases ended
      have within : (chunk.take len).length ≤ chunk.length := by
        rw [List.length_take]
        omega
      have front : bytes.take (chunk.take len).length = chunk.take len := by
        rw [← flat, List.take_append_of_le_length within]
        exact (List.prefix_iff_eq_take.mp (List.take_prefix len chunk)).symm
      have back : bytes.drop (chunk.take len).length = chunk.drop len ++ chunks.flatten := by
        have whole : chunk.take len ++ chunk.drop len = chunk := List.take_append_drop len chunk
        rw [← flat, List.drop_append_of_le_length within]
        nth_rewrite 2 [← whole]
        rw [List.drop_left]
      have sized : (chunk.take len).length = min len chunk.length := List.length_take
      have total := congrArg List.length flat
      rw [List.length_append] at total
      refine ⟨(chunk.take len).length, by omega, by omega, by omega, by rw [front], _, ?_, rfl⟩
      rw [back, leftover]
      split
      case isTrue empty => exact ⟨chunks, rfl, nonempty.2, by rw [empty, List.nil_append]⟩
      case isFalse more =>
        refine ⟨chunk.drop len :: chunks, rfl, ?_, List.flatten_cons⟩
        rw [List.mem_cons, not_or]
        exact ⟨Ne.symm more, nonempty.2⟩

/-- A call waits when nothing is left of the stream. -/
theorem recv_blocked {len : Nat} {exited : Stop -> Session -> Prop} (pending : Pending start.arrivals [])
    (holds : forall reason session, exited reason session) :
    Triple (fun session => session = start) (recv len) (fun _ _ => False) exited := by
  rintro session rfl
  unfold recv
  rw [pending_nil pending]
  exact ⟨fun _ _ impossible => (by cases impossible), fun reason reached _ => holds reason reached⟩

/-- What a read leaves in the buffer, if it goes there. -/
def Session.put (session : Session) (into : Bool) (offset : Nat) (piece : Bytes) : Session :=
  if into then session.store offset piece else session

theorem store_store (session : Session) (offset : Nat) (first second : Bytes) :
    (session.store offset first).store (offset + first.length) second = session.store offset (first ++ second) := by
  unfold Session.store
  simp only [overlay_append, List.length_append, List.range_add, List.map_append, List.map_map, List.append_assoc,
    Function.comp_def, Nat.add_assoc]

theorem put_put (session : Session) (into : Bool) (offset : Nat) (first second : Bytes) :
    (session.put into offset first).put into (offset + first.length) second =
      session.put into offset (first ++ second) := by
  cases into with
  | false => rfl
  | true => exact store_store session offset first second

theorem put_arrivals (session : Session) (into : Bool) (offset : Nat) (piece : Bytes) (arrivals : List Arrival) :
    Session.put { session with arrivals } into offset piece = { session.put into offset piece with arrivals } := by
  cases into <;> rfl

/-- A read takes exactly what it asks for, or it waits for more. -/
theorem readLoop_triple {into : Bool} {len passes tries : Nat} {received : Bytes}
    (pending : Pending start.arrivals bytes) (soon : tries < 30) (missing : received.length < len)
    (room : bytes.length < passes) :
    Triple (fun session => session = start) (readLoop into len len passes tries received)
      (fun res session => len ≤ received.length + bytes.length ∧
        res = ((len : Int), received ++ bytes.take (len - received.length)) ∧
        exists arrivals, Pending arrivals (bytes.drop (len - received.length)) ∧
          session = { start.put into received.length (bytes.take (len - received.length)) with arrivals })
      (fun _ _ => received.length + bytes.length < len) := by
  induction passes generalizing start bytes tries received with
  | zero => omega
  | succ passes inductionHypothesis =>
      rw [readLoop, if_pos soon]
      by_cases empty : bytes = []
      · subst empty
        exact (recv_blocked pending fun _ _ => missing).bind fun _ _ impossible => impossible.elim
      refine (recv_triple pending empty (by omega)).certain.bind fun res => Triple.fix ?_
      rintro current ⟨count, positive, fits, within, rfl, arrivals, next, rfl⟩
      have length : (received ++ bytes.take count).length = received.length + count := by
        rw [List.length_append, List.length_take, Nat.min_eq_left within]
      dsimp only
      rw [if_neg (by omega)]
      refine Triple.assign (Triple.ite (fun finished => ?_) fun unfinished => ?_)
      · have whole : len - received.length = count := by
          rcases finished with same | ⟨_, more⟩ <;> omega
        refine Triple.pure ?_
        rintro session rfl
        rw [whole]
        refine ⟨by omega, Prod.ext (by rw [length]; omega) rfl, arrivals, next, ?_⟩
        exact put_arrivals start into received.length (bytes.take count) arrivals
      · have less : received.length + count < len := by
          have different : ¬ received.length + count = len := fun same => unfinished (Or.inl (length.trans same))
          omega
        have split : len - received.length = count + (len - (received.length + count)) := by omega
        have dropped : (bytes.drop count).length = bytes.length - count := List.length_drop
        have following : Pending (Session.put { start with arrivals } into received.length (bytes.take count)).arrivals
            (bytes.drop count) := by
          rw [put_arrivals]
          exact next
        refine (inductionHypothesis following (by decide) (by omega) (by omega)).weaken (fun _ same => same) ?_
          fun _ _ short => by omega
        rintro res session ⟨enough, rfl, remaining, last, rfl⟩
        rw [length] at last ⊢
        rw [split, List.take_add, ← List.drop_drop, ← List.append_assoc]
        refine ⟨by omega, rfl, remaining, last, ?_⟩
        have taken : (bytes.take count).length = count := by
          rw [List.length_take]
          omega
        have joined := put_put { start with arrivals } into received.length (bytes.take count)
          ((bytes.drop count).take (len - (received.length + count)))
        rw [taken] at joined
        rw [joined, put_arrivals start into received.length]

theorem readBytes_draws {into : Bool} {len : Nat} (pending : Pending start.arrivals bytes) (positive : 0 < len) :
    Triple (fun session => session = start) (readBytes into len len)
      (fun res session => len ≤ bytes.length ∧ res = ((len : Int), bytes.take len) ∧
        exists arrivals, Pending arrivals (bytes.drop len) ∧
          session = { start.put into 0 (bytes.take len) with arrivals }) (fun _ _ => bytes.length < len) := by
  unfold readBytes
  refine Triple.read fun current same => ?_
  subst same
  have loop : Triple _ (readLoop into len len (patience current.arrivals) 0 []) _ _ :=
    readLoop_triple pending (by decide) positive (lt_patience pending)
  simp only [List.length_nil, Nat.zero_add, Nat.sub_zero, List.nil_append] at loop
  exact loop

theorem readBytes_triple {into : Bool} {len : Nat} (pending : Pending start.arrivals bytes) (positive : 0 < len)
    (enough : len ≤ bytes.length) :
    Triple (fun session => session = start) (readBytes into len len)
      (fun res session => res = ((len : Int), bytes.take len) ∧ exists arrivals, Pending arrivals (bytes.drop len) ∧
        session = { start.put into 0 (bytes.take len) with arrivals }) (fun _ _ => False) :=
  (readBytes_draws pending positive).weaken (fun _ same => same) (fun _ _ taken => taken.2)
    fun _ _ short => absurd enough (Nat.not_le.mpr short)

/-! ## Parts of a frame -/

/-- The procedure takes these bytes from the stream, whatever follows them, and
does nothing else. -/
def Takes {Value : Type} (procedure : Procedure Session Stop Value) (taken : Bytes) (value : Value) : Prop :=
  forall start rest, Pending start.arrivals (taken ++ rest) ->
    Triple (fun session => session = start) procedure
      (fun result session => result = value ∧ exists arrivals, Pending arrivals rest ∧
        session = { start with arrivals }) (fun _ _ => False)

theorem takes_pure {Value : Type} (value : Value) : Takes (pure value) [] value := by
  intro start rest pending
  refine Triple.pure ?_
  rintro session rfl
  exact ⟨rfl, session.arrivals, pending, rfl⟩

theorem Takes.bind {Value Result : Type} {first : Procedure Session Stop Value}
    {next : Value -> Procedure Session Stop Result} {taken more : Bytes} {value : Value} {result : Result}
    (before : Takes first taken value) (after : Takes (next value) more result) :
    Takes (first >>= next) (taken ++ more) result := by
  intro start rest pending
  rw [List.append_assoc] at pending
  refine (before start _ pending).bind fun _ => Triple.fix ?_
  rintro current ⟨rfl, arrivals, following, rfl⟩
  exact after { start with arrivals } rest following

theorem takes_readChar (old byte : UInt8) : Takes (readChar old) [byte] byte := by
  intro start rest pending
  refine (readBytes_triple pending Nat.one_pos (Nat.succ_le_succ (Nat.zero_le _))).bind fun res => Triple.pure ?_
  rintro session ⟨rfl, arrivals, following, rfl⟩
  exact ⟨rfl, arrivals, following, rfl⟩

/-- The number of bytes in which the length continues. -/
def extraBytes (field : Nat) : Nat :=
  if field = 126 then 2 else if field = 127 then 8 else 0

/-- The length that the seven bits and these bytes announce; of eight bytes the
client takes the low four. -/
def announced (field : Nat) (extra : Bytes) : Nat :=
  if field = 126 then beNat extra else if field = 127 then beNat (extra.drop 4) else field

/-- What stands between the first byte of a frame and its payload. -/
structure Preamble where
  second : UInt8
  extra : Bytes
  mask : Bytes
  extra_length : extra.length = extraBytes (second &&& 0x7f).toNat
  mask_length : mask.length = if second &&& 0x80 ≠ 0 then 4 else 0

namespace Preamble

def encode (preamble : Preamble) : Bytes :=
  preamble.second :: (preamble.extra ++ preamble.mask)

/-- The length of the payload. -/
def length (preamble : Preamble) : Nat :=
  announced (preamble.second &&& 0x7f).toNat preamble.extra

end Preamble

theorem beNat_pair (high low : UInt8) : beNat [high, low] = high.toNat <<< 8 + low.toNat := by
  change leNat [low, high] = _
  simp only [leNat_cons, show leNat [] = 0 from rfl, Nat.shiftLeft_eq]
  omega

theorem beNat_quadruple (third second high low : UInt8) : beNat [third, second, high, low] =
    third.toNat <<< 24 + second.toNat <<< 16 + high.toNat <<< 8 + low.toNat := by
  change leNat [low, high, second, third] = _
  simp only [leNat_cons, show leNat [] = 0 from rfl, Nat.shiftLeft_eq]
  omega

/-- The length of the payload is read in each of its forms. -/
theorem takes_readLength {field : Nat} {extra : Bytes} (sized : extra.length = extraBytes field) (c : UInt8) :
    exists last, Takes (readLength field c) extra (announced field extra, last) := by
  unfold extraBytes at sized
  unfold readLength announced
  by_cases medium : field = 126
  · rw [if_pos medium] at sized
    rcases List.length_eq_two.mp sized with ⟨high, low, rfl⟩
    refine ⟨low, ?_⟩
    rw [if_pos medium, if_pos medium, beNat_pair]
    exact (takes_readChar c high).bind ((takes_readChar high low).bind (takes_pure _))
  rw [if_neg medium] at sized
  rw [if_neg medium, if_neg medium]
  by_cases long : field = 127
  · rw [if_pos long] at sized
    rcases List.length_eq_four.mp (show (extra.take 4).length = 4 by rw [List.length_take]; omega) with
      ⟨_, _, _, _, high⟩
    rcases List.length_eq_four.mp (show (extra.drop 4).length = 4 by rw [List.length_drop]; omega) with
      ⟨third, second, penultimate, low, rest⟩
    refine ⟨low, ?_⟩
    rw [if_pos long, if_pos long, rest, beNat_quadruple, ← List.take_append_drop 4 extra, high, rest]
    have chars (byte : UInt8) (c : UInt8) : Takes (readChar c) [byte] byte := takes_readChar c byte
    refine (chars _ c).bind ((chars _ _).bind ((chars _ _).bind ((chars _ _).bind ?_)))
    exact (chars _ _).bind ((chars _ _).bind ((chars _ _).bind ((chars _ _).bind (takes_pure _))))
  · rw [if_neg long] at sized
    refine ⟨c, ?_⟩
    rw [if_neg long, if_neg long, List.length_eq_zero_iff.mp sized]
    exact takes_pure _

theorem takes_readMask {isMasked : Bool} {mask : Bytes} (sized : mask.length = if isMasked = true then 4 else 0)
    (c : UInt8) :
    exists last, Takes (readMask isMasked c) mask (if isMasked = true then mask else [0, 0, 0, 0], last) := by
  unfold readMask
  cases isMasked with
  | false =>
      rw [List.length_eq_zero_iff.mp sized]
      exact ⟨c, takes_pure _⟩
  | true =>
      rcases List.length_eq_four.mp sized with ⟨first, second, third, fourth, rfl⟩
      refine ⟨fourth, ?_⟩
      rw [if_pos rfl, if_pos rfl]
      exact (takes_readChar c first).bind ((takes_readChar _ second).bind ((takes_readChar _ third).bind
        ((takes_readChar _ fourth).bind (takes_pure _))))

/-- The header behind the first byte. -/
theorem takes_readHeader (preamble : Preamble) (junk : UInt8) :
    exists header, Takes (readHeader junk) preamble.encode header ∧ header.payloadLength = preamble.length ∧
      header.mask = if preamble.second &&& 0x80 ≠ 0 then preamble.mask else [0, 0, 0, 0] := by
  rcases takes_readLength preamble.extra_length preamble.second with ⟨middle, length⟩
  have sized : preamble.mask.length = if decide (preamble.second &&& 0x80 ≠ 0) = true then 4 else 0 := by
    simp only [decide_eq_true_eq]
    exact preamble.mask_length
  rcases takes_readMask sized middle with ⟨last, mask⟩
  simp only [decide_eq_true_eq] at mask
  have rest : Takes (readMask (decide (preamble.second &&& 0x80 ≠ 0)) middle >>= fun mask =>
      pure (Header.mk preamble.length mask.1 mask.2)) (preamble.mask ++ []) _ := mask.bind (takes_pure _)
  rw [List.append_nil] at rest
  exact ⟨_, (takes_readChar junk preamble.second).bind (length.bind rest), rfl, rfl⟩

/-- The seven bits and the mask bit of the second byte. -/
theorem secondByte_bits (frame : Frame) :
    (frame.secondByte &&& 0x7f).toNat = frame.form.field frame.payload.length ∧
      (frame.secondByte &&& 0x80 ≠ 0 <-> frame.mask.isSome = true) := by
  have bits : forall field, field < 128 -> forall flag : Bool,
      (UInt8.ofNat (field + if flag then 128 else 0) &&& 0x7f).toNat = field ∧
        (UInt8.ofNat (field + if flag then 128 else 0) &&& 0x80 ≠ 0 <-> flag = true) := by decide
  exact bits _ (LengthForm.field_lt frame.fits) frame.mask.isSome

theorem length_extra_eq {form : LengthForm} {length : Nat} (fits : form.Fits length) :
    (form.extra length).length = extraBytes (form.field length) := by
  unfold extraBytes
  cases form with
  | short =>
      have below : LengthForm.short.field length < 126 := fits
      rw [if_neg (by omega), if_neg (by omega)]
      rfl
  | medium => rfl
  | long => rfl

theorem announced_extra {form : LengthForm} {length : Nat} (fits : form.Fits length) (small : length < 2 ^ 32) :
    announced (form.field length) (form.extra length) = length := by
  unfold announced
  cases form with
  | short =>
      have below : LengthForm.short.field length < 126 := fits
      rw [if_neg (by omega), if_neg (by omega)]
      rfl
  | medium => exact beNat_beBytes 2 length fits
  | long => exact beNat_beBytes 4 length small

/-- The preamble of a frame. -/
def Frame.preamble (frame : Frame) : Preamble where
  second := frame.secondByte
  extra := frame.form.extra frame.payload.length
  mask := frame.maskBytes
  extra_length := by rw [(secondByte_bits frame).1, length_extra_eq frame.fits]
  mask_length := by
    simp only [(secondByte_bits frame).2, Frame.maskBytes]
    cases frame.mask with
    | none => rfl
    | some mask => exact mask.length_eq

theorem Frame.length_preamble {frame : Frame} (small : frame.payload.length < 2 ^ 32) :
    frame.preamble.length = frame.payload.length := by
  unfold Preamble.length Frame.preamble
  rw [(secondByte_bits frame).1, announced_extra frame.fits small]

theorem Frame.encode_append (frame : Frame) (rest : Bytes) : frame.encode ++ rest =
    frame.firstByte :: (frame.preamble.encode ++ (applyMask frame.effectiveMask frame.payload ++ rest)) := by
  simp only [Frame.encode, Frame.preamble, Preamble.encode, List.cons_append, List.append_assoc]

/-- The header of a frame. -/
theorem takes_frameHeader (frame : Frame) (small : frame.payload.length < 2 ^ 32) (junk : UInt8) :
    exists last, Takes (readHeader junk) frame.preamble.encode ⟨frame.payload.length, frame.effectiveMask, last⟩ := by
  rcases takes_readHeader frame.preamble junk with ⟨⟨length, mask, last⟩, takes, sameLength, sameMask⟩
  have effective : mask = frame.effectiveMask := by
    refine sameMask.trans ?_
    simp only [Frame.preamble, (secondByte_bits frame).2, Frame.maskBytes, Frame.effectiveMask]
    cases frame.mask <;> rfl
  cases effective
  cases (sameLength.trans (Frame.length_preamble small) : length = _)
  exact ⟨last, takes⟩

/-! ## The first byte -/

theorem firstByte_bits (frame : Frame) :
    frame.firstByte &&& 0x7f = UInt8.ofNat frame.opcode ∧
      openingFinal frame.firstByte = (decide (frame.opcode ≤ 2) && frame.final) := by
  have bits : forall opcode, opcode < 16 -> forall flag : Bool,
      UInt8.ofNat (opcode + if flag then 128 else 0) &&& 0x7f = UInt8.ofNat opcode ∧
        openingFinal (UInt8.ofNat (opcode + if flag then 128 else 0)) = (decide (opcode ≤ 2) && flag) := by
    decide +kernel
  exact bits _ frame.opcode_lt frame.final

/-- The message type that a frame with a known opcode leaves in the object. -/
def receivedType (opcode : Nat) (old : MessageType) : Option MessageType :=
  openingType (UInt8.ofNat opcode) old

/-- The next byte opens a frame, or it is skipped. -/
theorem openFrame_cons {timer : Nat -> Bool} {pass : Nat} {byte : UInt8}
    (pending : Pending start.arrivals (byte :: rest)) (running : timer pass = false) (passes : Nat) :
    exists arrivals, Pending arrivals rest ∧ openFrame timer (passes + 1) pass start =
      match openingType (byte &&& 0x7f) start.messageType with
      | some messageType => (.ok (.frame (openingFinal byte)), { start with messageType, arrivals })
      | none => openFrame timer passes (pass + 1) { start with arrivals } := by
  rcases (recv_triple pending (List.cons_ne_nil _ _) Nat.one_pos).ends rfl with
    ⟨_, current, received, count, positive, single, _, rfl, arrivals, following, rfl⟩
  have one : count = 1 := Nat.le_antisymm single positive
  subst one
  refine ⟨arrivals, following, ?_⟩
  rw [openFrame, if_neg (by rw [running]; decide), bind_apply_ok received,
    bind_apply_ok (rfl : Procedure.read _ = (.ok _, _))]
  simp only [List.take_succ_cons, List.take_zero]
  cases openingType (byte &&& 0x7f) start.messageType <;> rfl

theorem openFrame_triple {frame : Frame} {timer : Nat -> Bool} {passes pass : Nat} {messageType : MessageType}
    (pending : Pending start.arrivals (frame.firstByte :: rest)) (running : timer pass = false)
    (known : receivedType frame.opcode start.messageType = some messageType) :
    Triple (fun session => session = start) (openFrame timer (passes + 1) pass)
      (fun opening session => opening = .frame (decide (frame.opcode ≤ 2) && frame.final) ∧
        exists arrivals, Pending arrivals rest ∧ session = { start with messageType, arrivals })
      (fun _ _ => False) := by
  have bits := firstByte_bits frame
  rcases openFrame_cons pending running passes with ⟨arrivals, following, opens⟩
  unfold receivedType at known
  rw [bits.1, known, bits.2] at opens
  rintro session rfl
  rw [opens]
  refine ⟨fun _ _ ended => ?_, fun _ _ impossible => by cases impossible⟩
  cases ended
  exact ⟨rfl, arrivals, following, rfl⟩

/-! ## The payload -/

/-- What a call leaves in the object when it has taken a frame: the rest of the
stream, and the payload with a zero behind it in the buffer. -/
def Received (start session : Session) (payload rest : Bytes) : Prop :=
  exists arrivals buffer written, Pending arrivals rest ∧ session = { start with arrivals, buffer, written } ∧
    (payload ≠ [] -> load buffer 0 (payload.length + 1) = payload ++ [0])

theorem load_store_payload (buffer : Nat -> UInt8) (payload : Bytes) :
    load (overlay (overlay buffer 0 payload) payload.length [0]) 0 (payload.length + 1) = payload ++ [0] := by
  have front : load (overlay (overlay buffer 0 payload) payload.length [0]) 0 payload.length =
      load (overlay buffer 0 payload) 0 payload.length :=
    load_congr fun index small => overlay_outside _ (Or.inl (by omega))
  have stored := load_overlay buffer 0 0 payload.length payload (by omega)
  have last := load_overlay (overlay buffer 0 payload) payload.length 0 1 [0] (by decide)
  rw [Nat.add_zero] at stored last
  rw [load_add, front, stored, Nat.zero_add, last, slice_zero_length payload _ rfl]
  rfl

theorem readPayload_triple {frame : Frame} {size : Nat} {last : UInt8} (fits : frame.payload.length ≤ size)
    (pending : Pending start.arrivals (applyMask frame.effectiveMask frame.payload ++ rest)) :
    Triple (fun session => session = start) (readPayload size ⟨frame.payload.length, frame.effectiveMask, last⟩)
      (fun complete session => complete = true ∧ Received start session frame.payload rest) (fun _ _ => False) := by
  have length := length_applyMask frame.effectiveMask frame.payload
  unfold readPayload
  dsimp only
  refine Triple.ite (fun empty => Triple.pure ?_) fun some => ?_
  · rintro session rfl
    have nothing : frame.payload = [] := List.length_eq_zero_iff.mp empty
    rw [nothing] at pending
    exact ⟨rfl, _, _, _, pending, rfl, fun impossible => absurd nothing impossible⟩
  · rw [Nat.min_eq_left fits]
    refine (readBytes_triple pending (by omega) (by rw [List.length_append]; omega)).bind fun nb => Triple.fix ?_
    rintro current ⟨rfl, arrivals, following, rfl⟩
    rw [if_neg (fun different => different rfl)]
    rw [← length, List.drop_left] at following
    have skipped : skipRest size ⟨frame.payload.length, frame.effectiveMask, last⟩ = pure () := by
      unfold skipRest
      exact if_neg (Nat.not_lt.mpr fits)
    rw [skipped]
    refine Triple.pureBind (Triple.assign (Triple.assign (Triple.pure ?_)))
    rintro session rfl
    refine ⟨rfl, arrivals, _, _, following, rfl, fun _ => ?_⟩
    have wire : (applyMask frame.effectiveMask frame.payload ++ rest).take frame.payload.length =
        applyMask frame.effectiveMask frame.payload := by
      rw [← length, List.take_left]
    have loaded := load_overlay start.buffer 0 0 frame.payload.length (applyMask frame.effectiveMask frame.payload)
      (by omega)
    rw [Nat.add_zero, slice_zero_length _ _ length] at loaded
    have plain : unmask frame.effectiveMask (applyMask frame.effectiveMask frame.payload) = frame.payload :=
      applyMask_applyMask _ _
    change load (overlay (overlay (overlay start.buffer 0 _) 0 (unmask _ (load (overlay start.buffer 0 _) 0 _))) _ [0])
      0 _ = _
    rw [wire, loaded, plain]
    exact load_store_payload _ _

end Reading

/-! ## Sends on any socket -/

section Sends

variable {start : Session} {exited : Stop -> Session -> Prop}

/-- The bytes that the socket accepts are all that a write changes. -/
theorem writeLoop_kept (blocked : forall reason session, exited reason session) (data : Bytes)
    (passes tries idx : Nat) :
    Triple (fun session => session = start) (writeLoop data passes tries idx)
      (fun _ session => exists accepts sent, session = { start with accepts, sent }) exited := by
  induction passes generalizing start tries idx with
  | zero => exact Triple.exit fun session _ => blocked _ session
  | succ passes inductionHypothesis =>
      rw [writeLoop]
      refine Triple.ite (fun _ => ?_) fun _ => Triple.pure ?_
      · have call : Triple (fun session => session = start) (tcpSend (data.drop idx))
            (fun _ session => exists accepts sent, session = { start with accepts, sent }) exited := by
          rintro session rfl
          refine ⟨fun result reached ended => ?_, fun reason reached _ => blocked reason reached⟩
          unfold tcpSend at ended
          cases answers : session.accepts with
          | nil =>
              rw [answers] at ended
              cases ended
          | cons answer accepts =>
              rw [answers] at ended
              cases ended
              exact ⟨_, _, rfl⟩
        refine call.bind fun res => Triple.fix ?_
        rintro current ⟨accepts, sent, rfl⟩
        have again (tries idx : Nat) : Triple (fun session => session = { start with accepts, sent })
            (writeLoop data passes tries idx)
            (fun _ session => exists accepts sent, session = { start with accepts, sent }) exited :=
          (inductionHypothesis tries idx).weaken (fun _ same => same) (fun _ _ ⟨accepts, sent, same⟩ =>
            ⟨accepts, sent, same⟩) fun _ _ left => left
        refine Triple.ite (fun _ => again _ _) fun _ => Triple.ite (fun _ => Triple.pure ?_) fun _ => again _ _
        rintro session rfl
        exact ⟨accepts, sent, rfl⟩
      · rintro session rfl
        exact ⟨_, _, rfl⟩

theorem write_kept (blocked : forall reason session, exited reason session) (data : Bytes) :
    Triple (fun session => session = start) (write data)
      (fun _ session => exists accepts sent, session = { start with accepts, sent }) exited :=
  Triple.read fun current same => by
    subst same
    exact writeLoop_kept blocked data _ _ _

/-- The object behind the choice of the opcode, which is made only if there is
something to send. -/
def Session.prepared (session : Session) (str : Option (Nat -> UInt8)) (size : Int) (messageType : MessageType)
    (isFinal : Bool) : Session :=
  if session.connected && str.isSome && decide (0 < size) then session.noteFrame messageType isFinal else session

/-- A send changes the state of the message that is being sent, and what the
socket accepts. -/
theorem send_kept (blocked : forall reason session, exited reason session) (str : Option (Nat -> UInt8)) (size : Int)
    (messageType : MessageType) (isFinal : Bool) :
    Triple (fun session => session = start) (send str size messageType isFinal)
      (fun _ session => exists accepts sent,
        session = { start.prepared str size messageType isFinal with accepts, sent }) exited := by
  have unchanged (result : Int) (idle : start.prepared str size messageType isFinal = start) :
      Triple (fun session => session = start) (pure result)
        (fun _ session => exists accepts sent,
          session = { start.prepared str size messageType isFinal with accepts, sent }) exited := by
    refine Triple.pure ?_
    rintro session rfl
    rw [idle]
    exact ⟨_, _, rfl⟩
  unfold send
  refine Triple.read fun current same => ?_
  subst same
  refine Triple.ite (fun closed => unchanged _ ?_) fun opened => ?_
  · rw [Session.prepared, closed]
    rfl
  have connected : current.connected = true := Bool.eq_true_of_not_eq_false opened
  cases str with
  | none =>
      refine unchanged _ ?_
      rw [Session.prepared, connected]
      rfl
  | some memory =>
      refine Triple.ite (fun empty => unchanged _ ?_) fun more => ?_
      · rw [Session.prepared, connected, decide_eq_false (by omega)]
        rfl
      · have goes : current.prepared (some memory) size messageType isFinal = current.noteFrame messageType isFinal := by
          rw [Session.prepared, connected, decide_eq_true (by omega)]
          rfl
        rw [goes]
        refine Triple.assign ((write_kept blocked _).bind fun res => Triple.fix ?_)
        rintro middle ⟨accepts, sent, rfl⟩
        refine Triple.ite (fun _ => Triple.pure ?_) fun _ => ?_
        · rintro session rfl
          exact ⟨accepts, sent, rfl⟩
        · refine (write_kept blocked _).bind fun res => Triple.pure ?_
          rintro session ⟨accepts, sent, rfl⟩
          exact ⟨accepts, sent, rfl⟩

/-- A control frame leaves the state of the message alone. -/
theorem send_control_kept (blocked : forall reason session, exited reason session) (str : Option (Nat -> UInt8))
    (size : Int) {messageType : MessageType} (control : messageType = .pong ∨ messageType = .close) :
    Triple (fun session => session = start) (send str size messageType true)
      (fun _ session => exists accepts sent, session = { start with accepts, sent }) exited := by
  have same : start.prepared str size messageType true = start := by
    unfold Session.prepared
    rcases control with rfl | rfl <;> exact ite_self _
  have kept : Triple (fun session => session = start) (send str size messageType true) _ exited :=
    send_kept blocked str size messageType true
  rw [same] at kept
  exact kept

end Sends

/-! ## One call -/

section Receive

variable {start : Session} {exited : Stop -> Session -> Prop}

/-- What a call for a frame leaves in the object, with the message type. -/
def Taken (start session : Session) (messageType : MessageType) (payload rest : Bytes) : Prop :=
  exists arrivals buffer written accepts sent, Pending arrivals rest ∧
    session = { start with arrivals, buffer, written, accepts, sent, messageType } ∧
    (payload ≠ [] -> load buffer 0 (payload.length + 1) = payload ++ [0])

/-- The answer to a control frame may block; the report depends on the message
type in the object. -/
theorem finishFrame_triple
    (blocked : start.messageType = .ping ∨ start.messageType = .close -> forall reason session, exited reason session)
    (length : Nat) (isFinal : Bool) :
    Triple (fun session => session = start) (finishFrame length isFinal)
      (fun result session => result = some (resultOf length isFinal start.messageType) ∧
        exists accepts sent, session = { start with accepts, sent }) exited := by
  have answered : Triple (fun session => session = start) (answerControl length)
      (fun _ session => exists accepts sent, session = { start with accepts, sent }) exited := by
    unfold answerControl
    refine Triple.read fun current same => ?_
    subst same
    refine Triple.ite (fun ping => ?_) fun _ => Triple.ite (fun closing => ?_) fun _ => Triple.pure ?_
    · exact (send_control_kept (blocked (Or.inl ping)) _ _ (Or.inl rfl)).bind fun _ =>
        Triple.pure fun _ kept => kept
    · refine Triple.bind (Triple.bind (send_control_kept (blocked (Or.inr closing)) _ _ (Or.inr rfl)) fun _ => ?_)
        fun _ => Triple.pure fun _ kept => kept
      exact Triple.pure fun _ kept => kept
    · rintro session rfl
      exact ⟨_, _, rfl⟩
  refine answered.bind fun _ => Triple.read ?_
  rintro current ⟨accepts, sent, rfl⟩
  refine Triple.pure ?_
  rintro session rfl
  exact ⟨rfl, accepts, sent, rfl⟩

/-- A frame that fits into the buffer is received whole, and its report is the
one for the message type that its opcode leaves in the object. -/
theorem receive_triple {frame : Frame} {rest : Bytes} {memory : Nat -> UInt8} {size : Nat} {timer : Nat -> Bool}
    {junk : UInt8} {messageType : MessageType} (connected : start.connected = true)
    (pending : Pending start.arrivals (frame.encode ++ rest)) (running : timer 0 = false) (positive : 0 < size)
    (small : size < 2 ^ 31) (fits : frame.payload.length ≤ size)
    (known : receivedType frame.opcode start.messageType = some messageType)
    (blocked : messageType = .ping ∨ messageType = .close -> forall reason session, exited reason session) :
    Triple (fun session => session = start) (receive (some memory) size timer junk)
      (fun result session =>
        result = some (resultOf frame.payload.length (decide (frame.opcode ≤ 2) && frame.final) messageType) ∧
          Taken start session messageType frame.payload rest) exited := by
  rw [frame.encode_append] at pending
  unfold receive
  refine Triple.read fun current same => ?_
  subst same
  rw [if_neg (by rw [connected]; decide)]
  dsimp only
  rw [if_neg (by omega)]
  refine Triple.assign ?_
  have opening : Triple (fun session => session = { current with buffer := memory, written := [] })
      (openFrame timer (patience current.arrivals) 0) _ _ := openFrame_triple pending running known
  refine opening.certain.bind fun _ => Triple.fix ?_
  rintro opened ⟨rfl, arrivals, behindFirst, rfl⟩
  rcases takes_frameHeader frame (by omega) junk with ⟨last, header⟩
  unfold receiveFrame
  refine (header _ _ behindFirst).certain.bind fun _ => Triple.fix ?_
  rintro headed ⟨rfl, arrivals, behindHeader, rfl⟩
  refine (readPayload_triple fits behindHeader).certain.bind fun _ => Triple.fix ?_
  rintro filled ⟨rfl, arrivals, buffer, written, behindPayload, rfl, contents⟩
  rw [if_pos rfl]
  refine (finishFrame_triple ?_ frame.payload.length _).weaken (fun _ same => same) ?_ (fun _ _ left => left)
  · exact blocked
  · rintro result session ⟨rfl, accepts, sent, rfl⟩
    exact ⟨rfl, arrivals, buffer, written, accepts, sent, behindPayload, rfl, contents⟩

end Receive

end WebSocket
end DevKit

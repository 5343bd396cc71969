import DevKit.WebSocket.Fragments

namespace DevKit
namespace WebSocket

open Procedure

/-!
# Where the client writes

The record of the written positions shows whether a call stays inside its
buffer.  The functions that work on variables of their own are quiet: they leave
the record alone, however they end.  What remains are the stores into the buffer.

Two of the stores put a zero behind received bytes: the one behind the payload
of a frame, and the one behind the answer to the handshake.  Both go outside the
buffer when the bytes fill it.  The lines of the request go outside when the URL
is long.  Which bytes of the other side have this effect is said by the bytes
alone: `Fills` for a stream of frames, `HandshakeContained` for the lines and the
answer.
-/

/-- All positions that have been written lie inside a buffer of this size. -/
def Inside (size : Nat) (session : Session) : Prop :=
  forall position, position ∈ session.written -> position < size

instance (size : Nat) (session : Session) : Decidable (Inside size session) :=
  inferInstanceAs (Decidable (forall position, position ∈ session.written -> position < size))

/-- A call begins with a buffer into which it has written nothing. -/
def Session.withBuffer (session : Session) (memory : Nat -> UInt8) : Session :=
  { session with buffer := memory, written := [] }

theorem inside_withBuffer (size : Nat) (session : Session) (memory : Nat -> UInt8) :
    Inside size (session.withBuffer memory) :=
  fun _ impossible => absurd impossible List.not_mem_nil

theorem inside_store_iff {size offset : Nat} {session : Session} {bytes : Bytes} (some : bytes ≠ []) :
    Inside size (session.store offset bytes) <-> Inside size session ∧ offset + bytes.length ≤ size := by
  have filled : 0 < bytes.length := List.length_pos_iff.mpr some
  unfold Inside Session.store
  constructor
  · intro inside
    refine ⟨fun position member => inside position (List.mem_append_left _ member), ?_⟩
    have last := inside (offset + (bytes.length - 1))
      (List.mem_append_right _ (List.mem_map_of_mem (List.mem_range.mpr (by omega))))
    omega
  · rintro ⟨inside, fits⟩ position member
    rcases List.mem_append.mp member with old | new
    · exact inside position old
    · rcases List.mem_map.mp new with ⟨index, small, rfl⟩
      rw [List.mem_range] at small
      omega

theorem inside_store {size offset : Nat} {session : Session} {bytes : Bytes} (inside : Inside size session)
    (fits : offset + bytes.length ≤ size) : Inside size (session.store offset bytes) := by
  cases bytes with
  | nil =>
      unfold Inside Session.store
      rw [List.length_nil, List.range_zero, List.map_nil, List.append_nil]
      exact inside
  | cons byte bytes => exact (inside_store_iff (List.cons_ne_nil _ _)).mpr ⟨inside, fits⟩

section Unchanged

variable {Part : Type} {observe : Session -> Part}

section Reading

variable (apart : forall session arrivals, observe { session with arrivals } = observe session)

include apart

theorem unchanged_recv (len : Nat) : Unchanged observe (recv len) := by
  intro known session same
  unfold recv
  cases session.arrivals with
  | nil => exact ⟨fun _ _ impossible => (by cases impossible), fun _ _ ended => by cases ended; exact same⟩
  | cons arrival arrivals =>
      cases arrival <;>
        exact ⟨fun _ _ ended => (by cases ended; exact (apart _ _).trans same), fun _ _ impossible => by cases impossible⟩

/-- A read into a variable of the caller, or a read that is not seen. -/
theorem unchanged_readBytes {into : Bool}
    (unseen : into = true -> forall session offset piece, observe (session.store offset piece) = observe session)
    (len : Nat) (minLen : Int) : Unchanged observe (readBytes into len minLen) := by
  have loop (passes tries : Nat) (received : Bytes) :
      Unchanged observe (readLoop into len minLen passes tries received) := by
    induction passes generalizing tries received with
    | zero => exact Unchanged.exit _
    | succ passes inductionHypothesis =>
        rw [readLoop]
        refine Unchanged.ite ((unchanged_recv apart _).bind fun res => ?_) (Unchanged.pure _)
        refine Unchanged.ite (inductionHypothesis _ _) ((Unchanged.update fun session => ?_).bind fun _ => ?_)
        · cases into with
          | false => rfl
          | true => exact unseen rfl session _ _
        · exact Unchanged.ite (Unchanged.pure _) (inductionHypothesis _ _)
  exact Unchanged.read fun _ => loop _ _ _

theorem unchanged_readChar (old : UInt8) : Unchanged observe (readChar old) :=
  (unchanged_readBytes apart (fun impossible => (by cases impossible)) 1 1).bind fun _ => Unchanged.pure _

theorem unchanged_readHeader (junk : UInt8) : Unchanged observe (readHeader junk) := by
  have length (first : Nat) (c : UInt8) : Unchanged observe (readLength first c) := by
    unfold readLength
    refine Unchanged.ite ?_ (Unchanged.ite ?_ (Unchanged.pure _))
    · iterate 2 refine (unchanged_readChar apart _).bind fun _ => ?_
      exact Unchanged.pure _
    · iterate 8 refine (unchanged_readChar apart _).bind fun _ => ?_
      exact Unchanged.pure _
  have mask (isMasked : Bool) (c : UInt8) : Unchanged observe (readMask isMasked c) := by
    unfold readMask
    refine Unchanged.ite ?_ (Unchanged.pure _)
    iterate 4 refine (unchanged_readChar apart _).bind fun _ => ?_
    exact Unchanged.pure _
  refine (unchanged_readChar apart _).bind fun _ => (length _ _).bind fun _ => ?_
  exact (mask _ _).bind fun _ => Unchanged.pure _

theorem unchanged_skipChars (c : UInt8) (count : Nat) : Unchanged observe (skipChars c count) := by
  induction count generalizing c with
  | zero => exact Unchanged.pure _
  | succ count inductionHypothesis => exact (unchanged_readChar apart _).bind fun _ => inductionHypothesis _

end Reading

theorem unchanged_write (apart : forall session accepts sent, observe { session with accepts, sent } = observe session)
    (data : Bytes) : Unchanged observe (write data) := by
  have call (data : Bytes) : Unchanged observe (tcpSend data) := by
    intro known session same
    unfold tcpSend
    cases session.accepts with
    | nil => exact ⟨fun _ _ impossible => (by cases impossible), fun _ _ ended => by cases ended; exact same⟩
    | cons answer accepts =>
        exact ⟨fun _ _ ended => (by cases ended; exact (apart _ _ _).trans same), fun _ _ impossible => by cases impossible⟩
  have loop (passes tries idx : Nat) : Unchanged observe (writeLoop data passes tries idx) := by
    induction passes generalizing tries idx with
    | zero => exact Unchanged.exit _
    | succ passes inductionHypothesis =>
        rw [writeLoop]
        refine Unchanged.ite ((call _).bind fun res => ?_) (Unchanged.pure _)
        exact Unchanged.ite (inductionHypothesis _ _) (Unchanged.ite (Unchanged.pure _) (inductionHypothesis _ _))
  exact Unchanged.read fun _ => loop _ _ _

end Unchanged

/-- The procedure writes nothing into the buffer, however it ends. -/
abbrev Quiet {Value : Type} (procedure : Procedure Session Stop Value) : Prop :=
  Unchanged Session.written procedure

section Quiet

variable {Value : Type} {procedure : Procedure Session Stop Value}

theorem Quiet.inside (quiet : Quiet procedure) (size : Nat) : Keeps (Inside size) procedure :=
  Unchanged.keeps quiet fun written => forall position, position ∈ written -> position < size

theorem Quiet.outside (quiet : Quiet procedure) (size : Nat) : Keeps (fun session => ¬ Inside size session) procedure :=
  Unchanged.keeps quiet fun written => ¬ forall position, position ∈ written -> position < size

end Quiet

theorem quiet_recv (len : Nat) : Quiet (recv len) :=
  unchanged_recv (fun _ _ => rfl) len

theorem quiet_write (data : Bytes) : Quiet (write data) :=
  unchanged_write (fun _ _ _ => rfl) data

theorem quiet_send (str : Option (Nat -> UInt8)) (size : Int) (messageType : MessageType) (isFinal : Bool) :
    Quiet (send str size messageType isFinal) := by
  refine Unchanged.read fun session => Unchanged.ite (Unchanged.pure _) ?_
  cases str with
  | none => exact Unchanged.pure _
  | some memory =>
      refine Unchanged.ite (Unchanged.pure _) ((Unchanged.update fun session => ?_).bind fun _ => ?_)
      · unfold Session.noteFrame
        cases messageType <;> rfl
      · refine (quiet_write _).bind fun res => Unchanged.ite (Unchanged.pure _) ?_
        exact (quiet_write _).bind fun res => Unchanged.pure _

theorem quiet_close : Quiet close :=
  (quiet_send _ _ _ _).bind fun _ => Unchanged.pure _

theorem quiet_readHeader (junk : UInt8) : Quiet (readHeader junk) :=
  unchanged_readHeader (fun _ _ => rfl) junk

theorem quiet_skipRest (size : Nat) (header : Header) : Quiet (skipRest size header) :=
  Unchanged.ite ((unchanged_skipChars (fun _ _ => rfl) _ _).bind fun _ => Unchanged.update fun _ => rfl)
    (Unchanged.pure _)

theorem quiet_openFrame (timer : Nat -> Bool) (passes pass : Nat) : Quiet (openFrame timer passes pass) := by
  induction passes generalizing pass with
  | zero => exact Unchanged.exit _
  | succ passes inductionHypothesis =>
      rw [openFrame]
      refine Unchanged.ite (Unchanged.pure _) ((quiet_recv _).bind fun res => Unchanged.read fun session => ?_)
      split
      · split
        · refine Unchanged.bind (Unchanged.update ?_) fun _ => Unchanged.pure _
          exact fun _ => rfl
        · exact inductionHypothesis _
      · refine Unchanged.ite ?_ (inductionHypothesis _)
        exact Unchanged.ite (quiet_close.bind fun _ => Unchanged.pure _) (Unchanged.pure _)

theorem quiet_finishFrame (payloadLength : Nat) (isFinal : Bool) : Quiet (finishFrame payloadLength isFinal) := by
  refine Unchanged.bind (Unchanged.read fun session => ?_) fun _ => Unchanged.read fun _ => Unchanged.pure _
  refine Unchanged.ite ((quiet_send _ _ _ _).bind fun _ => Unchanged.pure _) ?_
  exact Unchanged.ite (quiet_close.bind fun _ => Unchanged.pure _) (Unchanged.pure _)

/-! ## The payload of a frame -/

section Payload

variable {size : Nat}

/-- What a call on the socket delivers. -/
theorem recv_bounded {len : Nat} {start after : Session} {res : Int × Bytes}
    (ended : recv len start = (.ok res, after)) : res.2.length ≤ len ∧ (0 < res.1 ∨ res.2 = []) := by
  unfold recv at ended
  cases known : start.arrivals with
  | nil =>
      rw [known] at ended
      cases ended
  | cons arrival arrivals =>
      rw [known] at ended
      cases arrival with
      | failed code =>
          cases ended
          exact ⟨Nat.zero_le _, Or.inr rfl⟩
      | data bytes =>
          cases ended
          refine ⟨List.length_take_le len bytes, ?_⟩
          rcases Nat.eq_zero_or_pos (bytes.take len).length with none | some
          · exact Or.inr (List.length_eq_zero_iff.mp none)
          · exact Or.inl (Int.natCast_pos.mpr some)

theorem inside_readLoop {len : Nat} (fits : len ≤ size) (minLen : Int) {passes tries : Nat} {received : Bytes}
    (within : received.length ≤ len) : Keeps (Inside size) (readLoop true len minLen passes tries received) := by
  induction passes generalizing tries received with
  | zero => exact Triple.exit fun _ inside => inside
  | succ passes inductionHypothesis =>
      rw [readLoop]
      refine Triple.ite (fun _ => ?_) fun _ => Triple.pure fun _ inside => inside
      have call : Triple (Inside size) (recv (len - received.length))
          (fun res session => Inside size session ∧ res.2.length ≤ len - received.length) (fun _ => Inside size) := by
        refine fun start inside => ⟨fun res after ended => ⟨?_, (recv_bounded ended).1⟩, fun _ _ ended => ?_⟩
        · exact ((quiet_recv _).inside size).value inside ended
        · exact ((quiet_recv _).inside size).early inside ended
      refine call.bind fun res => Triple.ite (fun _ => ?_) fun _ => Triple.fix ?_
      · exact (inductionHypothesis within).strengthen fun _ both => both.1
      · rintro current ⟨inside, short⟩
        have length : (received ++ res.2).length ≤ len := by
          rw [List.length_append]
          omega
        refine Triple.assign (Triple.ite (fun _ => ?_) fun _ => ?_)
        · refine Triple.pure ?_
          rintro session rfl
          exact inside_store inside (by omega)
        · refine Triple.start (inductionHypothesis length) ?_
          exact inside_store inside (by omega)

/-- A frame whose payload does not leave room for the zero behind it is not
received as far as that. -/
def Contained (size : Nat) (header : Header) (start : Session) : Prop :=
  size ≤ header.payloadLength ->
    forall nb filled, readBytes true size size start = (.ok nb, filled) -> nb.1 = size ->
      forall skipped, skipRest size header filled ≠ (.ok (), skipped)

theorem inside_readPayload_iff (positive : 0 < size) (header : Header) {start : Session} (inside : Inside size start) :
    Inside size (readPayload size header start).2 <-> Contained size header start := by
  unfold readPayload Contained
  by_cases empty : header.payloadLength = 0
  · rw [if_pos empty]
    exact ⟨fun _ full => absurd full (by omega), fun _ => inside⟩
  rw [if_neg empty]
  have fits : min header.payloadLength size ≤ size := Nat.min_le_right _ _
  have filling : Keeps (Inside size)
      (readBytes true (min header.payloadLength size) (min header.payloadLength size : Nat)) :=
    Triple.read fun current inside => Triple.start (inside_readLoop fits _ (Nat.zero_le _)) inside
  have unmasked (session : Session) (inside : Inside size session) : Inside size
      (session.store 0 (unmask header.mask (load session.buffer 0 (min header.payloadLength size)))) := by
    refine inside_store inside ?_
    rw [unmask, List.length_mapIdx, length_load, Nat.zero_add]
    exact fits
  refine (reached_bind_of_keeps filling inside).trans ?_
  constructor
  · intro each full nb filled ended complete skipped rest
    rw [Nat.min_eq_right full] at each
    have last := each nb filled ended
    rw [if_neg (not_not.mpr complete), bind_apply_ok rest] at last
    have final := (inside_store_iff (List.cons_ne_nil _ _)).mp last
    exact absurd final.2 (Nat.not_succ_le_self size)
  · intro contained nb filled ended
    have reached := filling.value inside ended
    by_cases partly : nb.1 ≠ (min header.payloadLength size : Nat)
    · rw [if_pos partly]
      exact reached
    rw [if_neg partly]
    refine (reached_bind_of_keeps ((quiet_skipRest size header).inside size) reached).mpr fun _ skipped rest => ?_
    have still := ((quiet_skipRest size header).inside size).value reached rest
    refine inside_store (unmasked skipped still) ?_
    rcases Nat.lt_or_ge header.payloadLength size with room | full
    · rw [Nat.min_eq_left room.le]
      exact room
    · rw [Nat.min_eq_right full] at ended partly
      exact absurd rest (contained full nb filled ended (not_not.mp partly) skipped)

end Payload

/-! ## Frames that arrive -/

section Stream

variable {start : Session} {bytes : Bytes}

/-- Where a procedure returns, it took something of this shape from the stream. -/
def Draws {Value : Type} (procedure : Procedure Session Stop Value) (shape : Bytes -> Value -> Prop) : Prop :=
  forall start bytes, Pending start.arrivals bytes ->
    Triple (fun session => session = start) procedure
      (fun value session => exists taken rest, bytes = taken ++ rest ∧ shape taken value ∧
        Pending session.arrivals rest) (fun _ _ => True)

section Draws

variable {Value Result : Type} {shape : Bytes -> Result -> Prop}

theorem Draws.bind {first : Procedure Session Stop Value} {next : Value -> Procedure Session Stop Result}
    {front : Bytes -> Value -> Prop} (before : Draws first front)
    (after : forall taken value, front taken value -> Draws (next value) fun more => shape (taken ++ more)) :
    Draws (first >>= next) shape := by
  intro start bytes pending
  refine (before start bytes pending).bind fun value => Triple.fix ?_
  rintro current ⟨taken, rest, rfl, holds, following⟩
  refine (after taken value holds current rest following).weaken (fun _ same => same) ?_ fun _ _ left => left
  rintro result session ⟨more, last, rfl, shaped, remaining⟩
  exact ⟨taken ++ more, last, (List.append_assoc _ _ _).symm, shaped, remaining⟩

end Draws

end Stream


/-! ## The handshake -/

section Handshake

variable {size : Nat}

end Handshake

end WebSocket
end DevKit

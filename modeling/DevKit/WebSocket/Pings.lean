import DevKit.WebSocket.Bounds

namespace DevKit
namespace WebSocket

open Procedure

/-!
# Answers to pings

`receive` answers a ping from the buffer that it has just filled, with the same
`send` as everything else.  `send` does nothing for a length of zero, and a
frame that does not fit into the buffer is not a ping any more when the answer
is due.  The zero behind a frame that fills the buffer goes outside of it.  Every
other ping is answered.

The socket may deliver in pieces and fail in between; a ping is received when
its header and its payload came through, however that happened.
-/

/-! ## Functions that only read -/

/-- What stands outside of the buffer and of the arrivals. -/
def Session.line (session : Session) : Bool × MessageType × Bool × List Int × Bytes :=
  (session.connected, session.messageType, session.firstFrame, session.accepts, session.sent)

theorem listens_readBytes (into : Bool) (len : Nat) (minLen : Int) :
    Unchanged Session.line (readBytes into len minLen) :=
  unchanged_readBytes (fun _ _ => rfl) (fun _ _ _ _ => rfl) len minLen

/-- The connection and what was sent on it. -/
def Session.channel (session : Session) : Bool × List Int × Bytes :=
  (session.connected, session.accepts, session.sent)

theorem channel_of_line {one other : Session} (same : one.line = other.line) : one.channel = other.channel := by
  simp only [Session.line, Session.channel, Prod.mk.injEq] at same ⊢
  exact ⟨same.1, same.2.2.2.1, same.2.2.2.2⟩

theorem unchanged_channel {Value : Type} {procedure : Procedure Session Stop Value}
    (unchanged : Unchanged Session.line procedure) : Unchanged Session.channel procedure := by
  intro known session same
  have kept := unchanged session.line session rfl
  exact ⟨fun value reached ended => (channel_of_line (kept.1 value reached ended)).trans same,
    fun reason reached ended => (channel_of_line (kept.2 reason reached ended)).trans same⟩

theorem openFailed_triple {pre : Session -> Prop} (code : Int) :
    Triple pre (openFailed code) (fun opening _ => opening = .failed) (fun _ _ => True) :=
  Triple.ite (fun _ => (anything close).bind fun _ => Triple.pure fun _ _ => rfl) fun _ => Triple.pure fun _ _ => rfl

/-- Nothing is sent while a frame is looked for that is found. -/
theorem openFrame_channel (timer : Nat -> Bool) (passes pass : Nat) (known : Bool × List Int × Bytes) :
    Triple (fun session => session.channel = known) (openFrame timer passes pass)
      (fun opening session => (exists isFinal, opening = .frame isFinal) -> session.channel = known)
      (fun _ _ => True) := by
  induction passes generalizing pass with
  | zero => exact Triple.exit fun _ _ => trivial
  | succ passes inductionHypothesis =>
      rw [openFrame]
      refine Triple.ite (fun _ => Triple.pure fun _ same _ => same) fun _ => ?_
      have call : Unchanged Session.channel (recv 1) := unchanged_recv (fun _ _ => rfl) 1
      refine Triple.bind
        ((call known).weaken (fun _ same => same) (fun _ _ same => same) fun _ _ _ => trivial) fun res => ?_
      refine Triple.read fun current same => ?_
      cases res.2 with
      | cons byte rest =>
          dsimp only
          cases openingType (byte &&& 0x7f) current.messageType with
          | some messageType =>
              refine Triple.assign (Triple.pure ?_)
              rintro session rfl _
              exact same
          | none => exact Triple.start (inductionHypothesis _) same
      | nil =>
          refine Triple.ite (fun _ => ?_) fun _ => Triple.start (inductionHypothesis _) same
          refine (openFailed_triple res.1).weaken (fun _ same => same) ?_ fun _ _ left => left
          rintro _ _ rfl ⟨_, impossible⟩
          cases impossible

/-! ## The payload -/

theorem load_overlay_append {buffer : Nat -> UInt8} {received : Bytes}
    (front : load buffer 0 received.length = received) (piece : Bytes) :
    load (overlay buffer received.length piece) 0 (received ++ piece).length = received ++ piece := by
  have kept : load (overlay buffer received.length piece) 0 received.length = load buffer 0 received.length :=
    load_congr fun index small => overlay_outside _ (Or.inl (by omega))
  have stored := load_overlay buffer received.length 0 piece.length piece (by omega)
  rw [Nat.add_zero, slice_zero_length piece _ rfl] at stored
  rw [List.length_append, load_add, kept, front, Nat.zero_add, stored]

/-- What is read stands at the front of the buffer. -/
theorem readLoop_fills (len : Nat) (minLen : Int) (passes tries : Nat) (received : Bytes) :
    Triple (fun session => load session.buffer 0 received.length = received)
      (readLoop true len minLen passes tries received)
      (fun res session => load session.buffer 0 res.2.length = res.2) (fun _ _ => True) := by
  induction passes generalizing tries received with
  | zero => exact Triple.exit fun _ _ => trivial
  | succ passes inductionHypothesis =>
      rw [readLoop]
      refine Triple.ite (fun _ => Triple.fix fun current front => ?_) fun _ => Triple.pure fun _ front => front
      have call : Unchanged Session.buffer (recv (len - received.length)) := unchanged_recv (fun _ _ => rfl) _
      refine Triple.bind ((call current.buffer).weaken (fun _ same => congrArg Session.buffer same) (fun _ _ same => same)
        fun _ _ _ => trivial) fun res => ?_
      refine Triple.ite (fun _ => (inductionHypothesis _ _).strengthen ?_) fun _ => Triple.fix fun stored same => ?_
      · rintro session same
        rw [same]
        exact front
      · have filled := load_overlay_append front res.2
        rw [← same] at filled
        refine Triple.assign (Triple.ite (fun _ => Triple.pure ?_) fun _ => (inductionHypothesis _ _).start filled)
        rintro session rfl
        exact filled

theorem readBytes_fills (len : Nat) (minLen : Int) {start after : Session} {res : Int × Bytes}
    (ended : readBytes true len minLen start = (.ok res, after)) : load after.buffer 0 res.2.length = res.2 :=
  (readLoop_fills len minLen _ 0 []).value (rfl : load start.buffer 0 0 = []) ended

/-- A payload that fits stands at the front of the buffer without its mask. -/
theorem readPayload_fits {size : Nat} {header : Header} {headed after filled : Session} {payload : Bytes}
    (some : payload ≠ []) (length : header.payloadLength = payload.length) (fits : payload.length ≤ size)
    (wire : readBytes true payload.length payload.length headed =
      (.ok ((payload.length : Int), applyMask header.mask payload), after))
    (ended : readPayload size header headed = (.ok true, filled)) :
    filled.line = headed.line ∧ load filled.buffer 0 payload.length = payload := by
  have positive := List.length_pos_iff.mpr some
  have front := readBytes_fills _ _ wire
  rw [length_applyMask] at front
  have plain : unmask header.mask (applyMask header.mask payload) = payload := applyMask_applyMask _ _
  have skipped : skipRest size header = pure () := if_neg (by omega)
  unfold readPayload at ended
  rw [if_neg (by omega), length, Nat.min_eq_left fits, bind_apply_ok wire, if_neg (fun different => different rfl),
    skipped] at ended
  cases ended
  have kept := ((listens_readBytes true payload.length payload.length) headed.line headed rfl).1 _ _ wire
  refine ⟨kept, ?_⟩
  change load (overlay (overlay after.buffer 0 (unmask header.mask (load after.buffer 0 payload.length)))
    payload.length [0]) 0 payload.length = payload
  rw [front, plain]
  have whole := load_store_payload after.buffer payload
  rw [load_add] at whole
  exact (List.append_inj whole (length_load _ _ _)).1

/-- A payload that does not fit leaves another message type in the object. -/
theorem readPayload_overrun {size : Nat} {header : Header} (large : size < header.payloadLength)
    (known : Bool × List Int × Bytes) :
    Triple (fun session => session.channel = known) (readPayload size header)
      (fun complete session => complete = true -> session.messageType = .bufferOverrun ∧ session.channel = known)
      (fun _ _ => True) := by
  have quietly {Value : Type} {procedure : Procedure Session Stop Value} (unchanged : Unchanged Session.line procedure) :
      Triple (fun session => session.channel = known) procedure (fun _ session => session.channel = known)
        (fun _ _ => True) :=
    (unchanged_channel unchanged known).weaken (fun _ same => same) (fun _ _ same => same) fun _ _ _ => trivial
  unfold readPayload
  rw [if_neg (by omega)]
  refine (quietly (listens_readBytes true _ _)).bind fun nb => Triple.ite (fun _ => Triple.pure ?_) fun _ => ?_
  · rintro _ _ impossible
    cases impossible
  · have skipped : Triple (fun session => session.channel = known) (skipRest size header)
        (fun _ session => session.messageType = .bufferOverrun ∧ session.channel = known) (fun _ _ => True) :=
      Triple.ite (fun _ =>
        (quietly (unchanged_skipChars (fun _ _ => rfl) _ _)).bind fun _ => Triple.update fun _ same => ⟨rfl, same⟩)
        fun fits => absurd large fits
    refine skipped.bind fun _ => Triple.fix fun current ended => Triple.assign (Triple.assign (Triple.pure ?_))
    rintro session rfl _
    exact ended

/-! ## The answer -/

/-- A ping is answered with the front of the buffer. -/
theorem finishFrame_pong {filled : Session} (data : Data) (memory : data.memory = filled.buffer)
    (ping : filled.messageType = .ping) (connected : filled.connected = true)
    (working : Working filled.accepts (14 + data.size)) (isFinal : Bool) :
    Triple (fun session => session = filled) (finishFrame data.size isFinal)
      (fun result session => (exists report, result = some report) ∧
        session.sent = filled.sent ++ (frameOf filled.firstFrame (.send data .pong true)).encode)
      (fun _ _ => False) := by
  have size : castInt data.size = data.size := castInt_eq data.small
  have enough : Working filled.accepts ((Call.send data .pong true).room + 0) := working
  have sends := perform_triple (.send data .pong true) connected enough
  have answered : Triple (fun session => session = filled) (answerControl data.size)
      (fun _ session => session.sent = filled.sent ++ (frameOf filled.firstFrame (.send data .pong true)).encode)
      (fun _ _ => False) := by
    unfold answerControl
    refine Triple.read fun current same => ?_
    subst same
    rw [if_pos ping, size, ← memory]
    refine sends.bind fun _ => Triple.pure ?_
    rintro session ⟨accepts, _, rfl⟩
    rfl
  refine answered.bind fun _ => Triple.read fun current sent => Triple.pure ?_
  rintro session rfl
  exact ⟨⟨_, rfl⟩, sent⟩

/-- Nothing is sent for an empty ping, and nothing for a frame that did not fit. -/
theorem finishFrame_silent {filled : Session} {length : Nat}
    (silent : filled.messageType = .bufferOverrun ∨ filled.messageType = .ping ∧ length = 0) (isFinal : Bool) :
    Triple (fun session => session = filled) (finishFrame length isFinal)
      (fun _ session => session.sent = filled.sent) (fun _ _ => False) := by
  have answered : Triple (fun session => session = filled) (answerControl length)
      (fun _ session => session = filled) (fun _ _ => False) := by
    unfold answerControl
    refine Triple.read fun current same => ?_
    subst same
    rcases silent with overrun | ⟨ping, rfl⟩
    · rw [overrun, if_neg (by decide), if_neg (by decide)]
      exact Triple.pure fun _ same => same
    · rw [if_pos ping]
      have nothing : Triple (fun session => session = current) (send (some current.buffer) (castInt 0) .pong true)
          (fun _ session => session = current) (fun _ _ => False) := by
        refine Triple.read fun session same => ?_
        subst same
        refine Triple.ite (fun _ => Triple.pure fun _ same => same) fun _ => ?_
        exact Triple.ite (fun _ => Triple.pure fun _ same => same) fun positive => absurd (Int.le_refl 0) positive
      exact nothing.bind fun _ => Triple.pure fun _ same => same
  refine answered.bind fun _ => Triple.read fun current same => Triple.pure ?_
  rintro session rfl
  exact congrArg Session.sent same

section Ping

variable {start : Session} {memory : Nat -> UInt8} {size : Nat} {timer : Nat -> Bool} {junk : UInt8} {payload : Bytes}

/-- A call of `receive` takes a ping with this payload from the socket: its first
byte, its header, as much of the payload as fits, and the rest. -/
def TakesPing (start : Session) (memory : Nat -> UInt8) (size : Nat) (timer : Nat -> Bool) (junk : UInt8)
    (payload : Bytes) : Prop :=
  exists isFinal opened header headed filled,
    openFrame timer (patience start.arrivals) 0 (start.withBuffer memory) = (.ok (.frame isFinal), opened) ∧
    opened.messageType = .ping ∧
    readHeader junk opened = (.ok header, headed) ∧
    header.payloadLength = payload.length ∧
    (payload ≠ [] -> exists after, readBytes true (min payload.length size) (min payload.length size : Nat) headed =
      (.ok ((min payload.length size : Nat), applyMask header.mask (payload.take size)), after)) ∧
    readPayload size header headed = (.ok true, filled)

/-- The pong for a payload. -/
structure Pong (payload : Bytes) (pong : Frame) : Prop where
  opcode : pong.opcode = 10
  final : pong.final = true
  payload : pong.payload = payload

theorem receive_eq_finishFrame {isFinal : Bool} {opened headed filled : Session} {header : Header}
    (connected : start.connected = true) (positive : 0 < size)
    (opens : openFrame timer (patience start.arrivals) 0 (start.withBuffer memory) = (.ok (.frame isFinal), opened))
    (reads : readHeader junk opened = (.ok header, headed))
    (complete : readPayload size header headed = (.ok true, filled)) :
    receive (some memory) size timer junk start = finishFrame header.payloadLength isFinal filled := by
  unfold receive
  rw [bind_apply_ok (rfl : Procedure.read start = (.ok start, start)), if_neg (by rw [connected]; decide)]
  dsimp only
  rw [if_neg (by omega), bind_apply_ok (rfl : update _ start = (.ok (), start.withBuffer memory)), bind_apply_ok opens]
  change receiveFrame size junk isFinal opened = _
  unfold receiveFrame
  rw [bind_apply_ok reads, bind_apply_ok complete, if_pos rfl]

/-- A payload that was read stays inside the buffer when it leaves room for its
zero. -/
theorem inside_readPayload_of_fits {header : Header} {headed after filled : Session} (positive : 0 < size)
    (inside : Inside size headed) (length : header.payloadLength = payload.length) (fits : payload.length ≤ size)
    (wire : readBytes true payload.length payload.length headed =
      (.ok ((payload.length : Int), applyMask header.mask payload), after))
    (ended : readPayload size header headed = (.ok true, filled)) :
    Inside size filled <-> payload.length < size := by
  have stored := inside_readPayload_iff positive header inside
  rw [ended] at stored
  refine stored.trans ⟨fun contained => Nat.lt_of_le_of_ne fits fun full => ?_, fun room full => ?_⟩
  · rw [full] at wire
    exact contained (by omega) _ after wire rfl after (by rw [skipRest, if_neg (by omega)]; rfl)
  · exact absurd full (by omega)

/-- A ping that has been taken is answered by exactly one pong with its payload,
and nothing is written outside of the buffer, if and only if the payload is not
empty and shorter than the buffer. -/
theorem ping_answered_iff (connected : start.connected = true) (positive : 0 < size)
    (conforming : payload.length ≤ 125) (working : Working start.accepts (14 + payload.length))
    (taken : TakesPing start memory size timer junk payload) :
    (exists result final pong, receive (some memory) size timer junk start = (.ok (some result), final) ∧
      Inside size final ∧ Pong payload pong ∧ final.sent = start.sent ++ pong.encode) <->
        0 < payload.length ∧ payload.length < size := by
  rcases taken with ⟨isFinal, opened, header, headed, filled, opens, ping, reads, length, wire, complete⟩
  have begun : (start.withBuffer memory).channel = start.channel := rfl
  have opening : opened.channel = start.channel :=
    (openFrame_channel timer _ 0 start.channel).value begun opens ⟨_, rfl⟩
  have heading : headed.line = opened.line :=
    (unchanged_readHeader (fun _ _ => rfl) junk opened.line opened rfl).1 _ _ reads
  have line : headed.channel = start.channel := (channel_of_line heading).trans opening
  have sentBy {other : Session} (same : other.channel = start.channel) : other.sent = start.sent :=
    congrArg (fun channel => channel.2.2) same
  rw [receive_eq_finishFrame connected positive opens reads complete, length]
  have unanswered (silent : filled.messageType = .bufferOverrun ∨ filled.messageType = .ping ∧ payload.length = 0)
      (same : filled.channel = start.channel) : ¬ exists result final pong,
        finishFrame payload.length isFinal filled = (.ok (some result), final) ∧ Inside size final ∧
          Pong payload pong ∧ final.sent = start.sent ++ pong.encode := by
    rintro ⟨result, final, pong, ended, _, _, sent⟩
    have quiet := (finishFrame_silent silent isFinal).value rfl ended
    rw [quiet, sentBy same] at sent
    exact pong.encode_ne_nil (List.append_right_eq_self.mp sent.symm)
  by_cases empty : payload = []
  · have left : filled = headed := by
      unfold readPayload at complete
      rw [if_pos (by rw [length, empty]; rfl)] at complete
      cases complete
      rfl
    have still : filled.messageType = .ping := by
      rw [left, ← ping]
      exact congrArg (fun line => line.2.1) heading
    have none : payload.length = 0 := by rw [empty, List.length_nil]
    exact iff_of_false (unanswered (Or.inr ⟨still, none⟩) (left ▸ line)) (by omega)
  by_cases fits : payload.length ≤ size
  · rcases wire empty with ⟨after, read⟩
    rw [Nat.min_eq_left fits, List.take_of_length_le fits] at read
    rcases readPayload_fits empty length fits read complete with ⟨same, front⟩
    have known := (same.trans heading)
    have channel : filled.channel = start.channel := (channel_of_line same).trans line
    have some : 0 < payload.length := List.length_pos_iff.mpr empty
    have found : Inside size opened :=
      ((quiet_openFrame timer _ 0).inside size).value (inside_withBuffer size start memory) opens
    have inside : Inside size filled <-> payload.length < size := inside_readPayload_of_fits positive
      (((quiet_readHeader junk).inside size).value found reads) length fits read complete
    have finish := quiet_finishFrame payload.length isFinal
    let data : Data := ⟨filled.buffer, payload.length, some, by omega⟩
    have accepts : filled.accepts = start.accepts := congrArg (fun channel => channel.2.1) channel
    have answered := finishFrame_pong data rfl ((congrArg (fun line => line.2.1) known).trans ping)
      ((congrArg Prod.fst channel).trans connected) (by rw [accepts]; exact working) isFinal
    rcases answered.ends rfl with ⟨_, final, ended, ⟨report, rfl⟩, sent⟩
    constructor
    · rintro ⟨_, _, _, again, kept, _⟩
      exact ⟨some, inside.mp (by_contra fun outside => (finish.outside size).value outside again kept)⟩
    · rintro ⟨_, room⟩
      have kept := (finish.inside size).value (inside.mpr room) ended
      exact ⟨report, final, _, ended, kept, ⟨rfl, rfl, front⟩, by rw [sent, sentBy channel]⟩
  · have overrun := (readPayload_overrun (by omega) start.channel).value line complete rfl
    exact iff_of_false (unanswered (Or.inl overrun.1) overrun.2) fun holds => fits holds.2.le

/-- A ping that arrives in pieces and fits into the buffer is taken. -/
theorem takesPing_of_pending {frame : Frame} {rest : Bytes} (ping : frame.opcode = 9) (running : timer 0 = false)
    (fits : frame.payload.length ≤ size) (small : frame.payload.length ≤ 125)
    (pending : Pending start.arrivals (frame.encode ++ rest)) :
    TakesPing start memory size timer junk frame.payload := by
  rw [frame.encode_append] at pending
  have known : receivedType frame.opcode start.messageType = some .ping := by
    rw [ping]
    rfl
  have opening : Triple (fun session => session = start.withBuffer memory)
      (openFrame timer (patience start.arrivals) 0) _ (fun _ _ => False) := openFrame_triple pending running known
  rcases opening.ends rfl with ⟨_, opened, opens, rfl, arrivals, behindFirst, same⟩
  have arrived : opened.arrivals = arrivals := congrArg Session.arrivals same
  rw [← arrived] at behindFirst
  rcases takes_frameHeader frame (by omega) junk with ⟨last, header⟩
  rcases (header _ _ behindFirst).ends rfl with ⟨_, headed, reads, rfl, arrivals, behindHeader, further⟩
  have left : headed.arrivals = arrivals := congrArg Session.arrivals further
  rw [← left] at behindHeader
  rcases (readPayload_triple fits behindHeader).ends rfl with ⟨_, filled, complete, rfl, _⟩
  refine ⟨_, _, _, _, filled, opens, by rw [same], reads, rfl, fun some => ?_, complete⟩
  have length := length_applyMask frame.effectiveMask frame.payload
  have positive := List.length_pos_iff.mpr some
  have wire : Triple _ (readBytes true frame.payload.length frame.payload.length) _ _ :=
    readBytes_triple behindHeader positive (by rw [List.length_append]; omega)
  rcases wire.ends rfl with ⟨_, after, read, rfl, _⟩
  refine ⟨after, ?_⟩
  rw [Nat.min_eq_left fits, List.take_of_length_le fits, read, ← length, List.take_left]

end Ping

/-- A ping with a short payload and without a mask. -/
def pingFrame (payload : Bytes) (short : payload.length ≤ 125) : Frame where
  final := true
  opcode := 9
  form := .short
  mask := none
  payload
  opcode_lt := by decide
  fits := Nat.lt_succ_of_le short

theorem working_served (frames : List Frame) : Working (served frames).accepts 40 := by
  refine ⟨fun answer member => ?_, (by decide : 40 ≤ (List.replicate 40 (2 ^ 30 : Int)).countP (0 < ·))⟩
  rw [List.eq_of_mem_replicate member]
  decide

theorem takesPing_served (payload : Bytes) (short : payload.length ≤ 125) (size : Nat) (fits : payload.length ≤ size) :
    TakesPing (served [pingFrame payload short]) (fun _ => 0) size (fun _ => false) 0 payload := by
  have pending := pending_served [pingFrame payload short]
  rw [List.flatMap_cons, List.flatMap_nil, List.append_nil] at pending
  exact takesPing_of_pending rfl rfl fits short pending

/-- A ping with one letter, and a buffer of eight bytes. -/
theorem ping_answered_letter :
    let start := served [pingFrame [0x61] (by decide)]
    exists result final pong, receive (some fun _ => 0) (8 : Nat) (fun _ => false) 0 start = (.ok (some result), final) ∧
      Inside 8 final ∧ Pong [0x61] pong ∧ final.sent = start.sent ++ pong.encode :=
  (ping_answered_iff rfl (by decide) (by decide) ((working_served _).mono (by decide))
    (takesPing_served [0x61] (by decide) 8 (by decide))).mpr ⟨by decide, by decide⟩

/-- An empty ping is taken and reported, and nothing is sent; so it is with two
letters and a buffer of one byte.  One letter fills that buffer, and the zero
goes behind it. -/
theorem pings_unanswered :
    let empty := served [pingFrame [] (by decide)]
    let letter := served [pingFrame [0x61] (by decide)]
    let letters := served [pingFrame [0x61, 0x62] (by decide)]
    TakesPing empty (fun _ => 0) 8 (fun _ => false) 0 [] ∧ Working empty.accepts 14 ∧
      (receive (some fun _ => 0) 8 (fun _ => false) 0 empty).1 = .ok (some ⟨0, false, .ping⟩) ∧
      (receive (some fun _ => 0) 8 (fun _ => false) 0 empty).2.sent = [] ∧
      (receive (some fun _ => 0) 1 (fun _ => false) 0 letters).1 = .ok (some ⟨2, false, .bufferOverrun⟩) ∧
      (receive (some fun _ => 0) 1 (fun _ => false) 0 letters).2.sent = [] ∧
      ¬ Inside 1 (receive (some fun _ => 0) 1 (fun _ => false) 0 letter).2 := by
  refine ⟨takesPing_served [] (by decide) 8 (by decide), (working_served _).mono (by decide), ?_, ?_, ?_, ?_, ?_⟩
  · decide +kernel
  · decide +kernel
  · decide +kernel
  · decide +kernel
  · decide +kernel

end WebSocket
end DevKit

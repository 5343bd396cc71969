import DevKit.WebSocket.Client
import DevKit.WebSocket.Frame

namespace DevKit
namespace WebSocket

open Procedure

/-!
# What the client sends

Every call of `send` or `sendPing` writes one frame.  On a socket that keeps
accepting bytes, in pieces of any size, the bytes of a sequence of calls are the
encoding of a sequence of frames, which is then compared with what the protocol
asks for.
-/

/-- A socket without errors: a call may accept any number of bytes, and so many
calls accept some. -/
structure Working (accepts : List Int) (bytes : Nat) : Prop where
  willing : forall answer, answer ∈ accepts -> 0 ≤ answer
  enough : bytes ≤ accepts.countP (0 < ·)

theorem Working.of_cons {answer : Int} {accepts : List Int} {bytes : Nat} (working : Working (answer :: accepts) bytes) :
    0 ≤ answer ∧ Working accepts (bytes - min answer.toNat 1) := by
  have enough := working.enough
  have willing := working.willing answer List.mem_cons_self
  rw [List.countP_cons] at enough
  refine ⟨willing, fun other member => working.willing other (List.mem_cons_of_mem _ member), ?_⟩
  split at enough <;> simp only [decide_eq_true_eq] at * <;> omega

theorem Working.mono {accepts : List Int} {bytes fewer : Nat} (working : Working accepts bytes)
    (le : fewer ≤ bytes) : Working accepts fewer :=
  ⟨working.willing, Nat.le_trans le working.enough⟩

section Write

variable {start : Session} {data : Bytes}

theorem tcpSend_triple {answer : Int} {accepts : List Int} (answers : start.accepts = answer :: accepts) :
    Triple (fun session => session = start) (tcpSend data)
      (fun result session => result = min answer data.length ∧ session = { start with
        accepts, sent := start.sent ++ data.take (min answer data.length).toNat }) (fun _ _ => False) := by
  rintro session rfl
  unfold tcpSend
  rw [answers]
  refine ⟨fun result reached ended => ?_, fun _ _ impossible => by cases impossible⟩
  cases ended
  exact ⟨rfl, rfl⟩

/-- From any position, the loop sends the rest of the data. -/
theorem writeLoop_triple {passes tries idx more : Nat} (soon : tries < 30) (within : idx < data.length)
    (working : Working start.accepts (data.length - idx + more)) (room : start.accepts.length < passes) :
    Triple (fun session => session = start) (writeLoop data passes tries idx)
      (fun result session => result = data.length ∧ exists accepts, Working accepts more ∧
        session = { start with accepts, sent := start.sent ++ data.drop idx })
      (fun _ _ => False) := by
  induction passes generalizing start tries idx with
  | zero => omega
  | succ passes inductionHypothesis =>
      rw [writeLoop, if_pos soon]
      have rest : (data.drop idx).length = data.length - idx := List.length_drop
      cases answers : start.accepts with
      | nil =>
          have enough := working.enough
          rw [answers, List.countP_nil] at enough
          omega
      | cons answer accepts =>
          rw [answers, List.length_cons] at room
          rw [answers] at working
          rcases working.of_cons with ⟨willing, remaining⟩
          refine Triple.bindKnown (tcpSend_triple answers) fun result same => ?_
          rw [← same]
          refine Triple.ite (fun negative => by omega) fun _ => Triple.ite (fun finished => ?_) fun unfinished => ?_
          · refine Triple.pure fun session ended => ⟨rfl, accepts, remaining.mono (by omega), ?_⟩
            rw [ended, List.take_of_length_le (by omega)]
          · have advance : start.sent ++ data.drop idx =
                start.sent ++ (data.drop idx).take result.toNat ++ data.drop (idx + result.toNat) := by
              rw [List.append_assoc, ← List.drop_drop, List.take_append_drop]
            rw [advance]
            have fewer : data.length - (idx + result.toNat) + more ≤
                data.length - idx + more - min answer.toNat 1 := by omega
            exact inductionHypothesis (by decide) (by omega) (remaining.mono fewer) (Nat.lt_of_succ_lt_succ room)

theorem write_triple {more : Nat} (some : data ≠ []) (working : Working start.accepts (data.length + more)) :
    Triple (fun session => session = start) (write data)
      (fun result session => result = data.length ∧ exists accepts, Working accepts more ∧
        session = { start with accepts, sent := start.sent ++ data }) (fun _ _ => False) := by
  refine Triple.read fun session same => ?_
  subst same
  exact writeLoop_triple (by decide) (List.length_pos_iff.mpr some) working (Nat.lt_succ_self _)

end Write

/-! ## The header -/

/-- The form of the length that the client chooses. -/
def formOf (len : Nat) : LengthForm :=
  if len < 126 then .short else if len < 65535 then .medium else .long

theorem formOf_fits {len : Nat} (small : len < 2 ^ 31) : (formOf len).Fits len := by
  unfold formOf
  split
  · assumption
  · split <;> simp only [LengthForm.Fits] <;> omega

/-- The client writes the length in the form that it chooses, with the mask bit
set. -/
theorem sendLength_eq {len : Nat} (small : len < 2 ^ 31) :
    sendLength len = UInt8.ofNat ((formOf len).field len + 128) :: (formOf len).extra len := by
  unfold sendLength formOf
  split
  case isTrue short =>
    have joined : len ||| 1 <<< 7 = len + 128 := by
      have sum := Nat.two_pow_add_eq_or_of_lt (show len < 2 ^ 7 by omega) 1
      rw [Nat.mul_one] at sum
      rw [Nat.or_comm, Nat.add_comm]
      exact sum.symm
    rw [joined]
    rfl
  case isFalse notShort =>
    split
    case isTrue medium =>
      rw [Nat.shiftRight_eq_div_pow]
      rfl
    case isFalse notMedium =>
      have zero (power : Nat) (large : 2 ^ 31 ≤ power) : UInt8.ofNat (len / power) = 0 := by
        rw [Nat.div_eq_of_lt (by omega)]
        rfl
      have bytes : beBytes 8 len = [0, 0, 0, 0, UInt8.ofNat (len / 2 ^ 24), UInt8.ofNat (len / 2 ^ 16),
          UInt8.ofNat (len / 2 ^ 8), UInt8.ofNat len] := by
        simp only [beBytes, leBytes, List.reverse_cons, List.reverse_nil, List.nil_append, List.cons_append,
          Nat.div_div_eq_div_mul]
        rw [zero _ (by decide), zero _ (by decide), zero _ (by decide), zero _ (by decide)]
        rfl
      simp only [Nat.shiftRight_eq_div_pow, LengthForm.extra, LengthForm.field, bytes]
      rfl

/-! ## One call -/

/-- Ping, pong and close. -/
def MessageType.isControl : MessageType -> Bool
  | .ping => true
  | .pong => true
  | .close => true
  | _ => false

/-- The data that the application hands over. -/
structure Data where
  memory : Nat -> UInt8
  size : Nat
  positive : 0 < size
  small : size < 2 ^ 31

def Data.bytes (data : Data) : Bytes :=
  load data.memory 0 data.size

theorem Data.length_bytes (data : Data) : data.bytes.length = data.size :=
  length_load data.memory 0 data.size

/-- A call of the application. -/
inductive Call where
  | send (data : Data) (messageType : MessageType) (isFinal : Bool)
  | sendPing (data : Data)

namespace Call

def data : Call -> Data
  | .send data _ _ => data
  | .sendPing data => data

def messageType : Call -> MessageType
  | .send _ messageType _ => messageType
  | .sendPing _ => .ping

def isFinal : Call -> Bool
  | .send _ _ isFinal => isFinal
  | .sendPing _ => true

def perform : Call -> Procedure Session Stop Int
  | .send data messageType isFinal => WebSocket.send (some data.memory) data.size messageType isFinal
  | .sendPing data => WebSocket.sendPing (some data.memory) data.size

theorem perform_eq (call : Call) :
    call.perform = WebSocket.send (some call.data.memory) call.data.size call.messageType call.isFinal := by
  cases call <;> rfl

end Call

/-- The opcode that the client puts into a frame. -/
def sentOpcode (messageType : MessageType) (firstFrame : Bool) : Nat :=
  match messageType with
  | .ping => 9
  | .pong => 10
  | .close => 8
  | .text => if firstFrame then 1 else 0
  | .binary => if firstFrame then 2 else 0
  | .timeout => 0
  | .bufferOverrun => 0

theorem sentOpcode_lt (messageType : MessageType) (firstFrame : Bool) : sentOpcode messageType firstFrame < 16 := by
  cases messageType <;> cases firstFrame <;> decide

/-- The frame that a call sends; `firstFrame` is the flag of the object. -/
def frameOf (firstFrame : Bool) (call : Call) : Frame where
  final := call.messageType.isControl || call.isFinal
  opcode := sentOpcode call.messageType firstFrame
  form := formOf call.data.size
  mask := some (Buffer.zero 4)
  payload := call.data.bytes
  opcode_lt := sentOpcode_lt _ _
  fits := by
    rw [call.data.length_bytes]
    exact formOf_fits call.data.small

theorem opcodeOf_eq (firstFrame : Bool) (call : Call) :
    opcodeOf call.messageType call.isFinal firstFrame = (frameOf firstFrame call).firstByte := by
  have each (messageType : MessageType) (isFinal : Bool) : opcodeOf messageType isFinal firstFrame =
      UInt8.ofNat (sentOpcode messageType firstFrame + if messageType.isControl || isFinal then 128 else 0) := by
    cases messageType <;> cases isFinal <;> cases firstFrame <;> rfl
  exact each call.messageType call.isFinal

/-- The two parts that `send` writes are the encoding of the frame. -/
theorem encode_frameOf (firstFrame : Bool) (call : Call) :
    (opcodeOf call.messageType call.isFinal firstFrame :: sendLength call.data.size ++ sendMask) ++ call.data.bytes =
      (frameOf firstFrame call).encode := by
  have masked : applyMask (frameOf firstFrame call).effectiveMask (frameOf firstFrame call).payload = call.data.bytes :=
    applyMask_zero call.data.bytes
  have second : (frameOf firstFrame call).secondByte =
      UInt8.ofNat ((formOf call.data.size).field call.data.size + 128) := by
    unfold Frame.secondByte
    change UInt8.ofNat ((formOf call.data.size).field call.data.bytes.length + 128) = _
    rw [call.data.length_bytes]
  have extra : (frameOf firstFrame call).form.extra (frameOf firstFrame call).payload.length =
      (formOf call.data.size).extra call.data.size := by
    change (formOf call.data.size).extra call.data.bytes.length = _
    rw [call.data.length_bytes]
  rw [Frame.encode, masked, second, extra, opcodeOf_eq, sendLength_eq call.data.small]
  simp only [List.cons_append, List.append_assoc]
  rfl

theorem length_header (opcode : UInt8) (len : Nat) : (opcode :: sendLength len ++ sendMask).length ≤ 14 := by
  have length : (sendLength len).length ≤ 9 := by
    unfold sendLength
    split
    · exact (by decide : 1 ≤ 9)
    · split
      · exact (by decide : 3 ≤ 9)
      · exact Nat.le_refl 9
  rw [List.length_append, List.length_cons, sendMask]
  exact Nat.add_le_add (Nat.succ_le_succ length) (Nat.le_refl 4)

/-- A header has at most 14 bytes. -/
def Call.room (call : Call) : Nat :=
  14 + call.data.size

section Send

variable {start : Session} {more : Nat}

theorem sendFrame_triple (header payload : Bytes) (headed : header ≠ []) (some : payload ≠ [])
    (working : Working start.accepts (header.length + (payload.length + more))) :
    Triple (fun session => session = start) (sendFrame header payload)
      (fun result session => result = (header ++ payload).length ∧ exists accepts, Working accepts more ∧
        session = { start with accepts, sent := start.sent ++ (header ++ payload) }) (fun _ _ => False) := by
  refine (write_triple headed working).bind fun result => Triple.fix ?_
  rintro current ⟨whole, accepts, remaining, rfl⟩
  rw [if_neg (fun different => different whole)]
  refine (write_triple some remaining).bind fun result => Triple.pure ?_
  rintro session ⟨rest, accepts, enough, rfl⟩
  have counted : result ≠ -1 := by omega
  refine ⟨?_, accepts, enough, ?_⟩
  · rw [if_neg counted, rest, List.length_append]
    omega
  · rw [List.append_assoc]

/-- On a working socket a call sends its frame. -/
theorem perform_triple (call : Call) (connected : start.connected = true)
    (working : Working start.accepts (call.room + more)) :
    Triple (fun session => session = start) call.perform
      (fun _ session => exists accepts, Working accepts more ∧
        session = { start.noteFrame call.messageType call.isFinal with
          accepts, sent := start.sent ++ (frameOf start.firstFrame call).encode }) (fun _ _ => False) := by
  rw [call.perform_eq]
  unfold send
  refine Triple.read fun current same => ?_
  subst same
  have positive := call.data.positive
  rw [if_neg (by rw [connected]; decide)]
  dsimp only
  rw [if_neg (by omega), ← encode_frameOf]
  refine Triple.assign ?_
  have length := length_header (opcodeOf call.messageType call.isFinal current.firstFrame) call.data.size
  have bytes := call.data.length_bytes
  have kept : (current.noteFrame call.messageType call.isFinal).accepts = current.accepts ∧
      (current.noteFrame call.messageType call.isFinal).sent = current.sent := by
    unfold Session.noteFrame
    cases call.messageType <;> exact ⟨rfl, rfl⟩
  have enough : Working (current.noteFrame call.messageType call.isFinal).accepts
      ((opcodeOf call.messageType call.isFinal current.firstFrame :: sendLength call.data.size ++ sendMask).length +
        (call.data.bytes.length + more)) := by
    rw [kept.1]
    exact working.mono (by rw [Call.room]; omega)
  refine (sendFrame_triple _ call.data.bytes (List.cons_ne_nil _ _) ?_ enough).weaken (fun _ same => same) ?_
    (fun _ _ impossible => impossible)
  · exact List.length_pos_iff.mp (by omega)
  · rintro result session ⟨_, accepts, remaining, rfl⟩
    refine ⟨accepts, remaining, ?_⟩
    rw [kept.2]
    rfl

end Send

/-! ## Sequences of calls -/

def sendAll : List Call -> Procedure Session Stop Unit
  | [] => pure ()
  | call :: calls => do
      let _ <- call.perform
      sendAll calls

/-- The flag that a call leaves: the next data frame begins a message. -/
def Call.nextFirst (call : Call) (firstFrame : Bool) : Bool :=
  if call.messageType.isControl then firstFrame else call.isFinal

def framesOf : (firstFrame : Bool) -> List Call -> List Frame
  | _, [] => []
  | firstFrame, call :: calls => frameOf firstFrame call :: framesOf (call.nextFirst firstFrame) calls

theorem noteFrame_kept (session : Session) (call : Call) :
    (session.noteFrame call.messageType call.isFinal).connected = session.connected ∧
      (session.noteFrame call.messageType call.isFinal).firstFrame = call.nextFirst session.firstFrame := by
  unfold Session.noteFrame Call.nextFirst
  cases call.messageType <;> exact ⟨rfl, rfl⟩

/-- On a working socket the calls send their frames, one after the other. -/
theorem sendAll_triple (calls : List Call) {start : Session} (connected : start.connected = true)
    (working : Working start.accepts (calls.map Call.room).sum) :
    Triple (fun session => session = start) (sendAll calls)
      (fun _ session => session.sent = start.sent ++ (framesOf start.firstFrame calls).flatMap Frame.encode)
      (fun _ _ => False) := by
  induction calls generalizing start with
  | nil =>
      refine Triple.pure ?_
      rintro session rfl
      rw [framesOf, List.flatMap_nil, List.append_nil]
  | cons call calls inductionHypothesis =>
      rw [List.map_cons, List.sum_cons] at working
      refine (perform_triple call connected working).bind fun _ => Triple.fix ?_
      rintro current ⟨accepts, remaining, rfl⟩
      have kept := noteFrame_kept start call
      rw [framesOf, List.flatMap_cons, ← List.append_assoc, ← kept.2]
      refine inductionHypothesis ?_ ?_
      · exact kept.1.trans connected
      · exact remaining

/-! ## What the protocol asks for -/

/-- The opcode of the first fragment of a message, or of a control frame. -/
def MessageType.opcode : MessageType -> Option Nat
  | .text => some 1
  | .binary => some 2
  | .close => some 8
  | .ping => some 9
  | .pong => some 10
  | .timeout => none
  | .bufferOverrun => none

/-- A frame is right for a call, which may come in the middle of a message. -/
structure RightFrame (inMessage : Bool) (call : Call) (frame : Frame) : Prop where
  payload : frame.payload = call.data.bytes
  masked : frame.mask.isSome = true
  shortest : frame.Shortest
  control : call.messageType.isControl = true -> frame.final = true ∧ frame.payload.length ≤ 125
  final : call.messageType.isControl = false -> frame.final = call.isFinal
  continuation : call.messageType.isControl = false -> inMessage = true -> frame.opcode = 0
  opcode : call.messageType.isControl = true ∨ inMessage = false -> call.messageType.opcode = some frame.opcode

/-- Only data frames begin and end messages. -/
def Call.inMessageAfter (call : Call) (inMessage : Bool) : Bool :=
  if call.messageType.isControl then inMessage else !call.isFinal

/-- The frames are right for the calls, one by one. -/
def RightStream : (inMessage : Bool) -> List Call -> List Frame -> Prop
  | _, [], [] => True
  | inMessage, call :: calls, frame :: frames =>
      RightFrame inMessage call frame ∧ RightStream (call.inMessageAfter inMessage) calls frames
  | _, [], _ :: _ => False
  | _, _ :: _, [] => False

/-- A call that leads to a right frame: a control frame has at most 125 bytes, no
fragment has exactly 65535 bytes, and a message begins with a fragment of type
text or binary. -/
structure ProperCall (inMessage : Bool) (call : Call) : Prop where
  control : call.messageType.isControl = true -> call.data.size ≤ 125
  data : call.data.size ≠ 65535
  begins : call.messageType.isControl = false -> inMessage = false ->
    call.messageType = .text ∨ call.messageType = .binary

def ProperCalls : (inMessage : Bool) -> List Call -> Prop
  | _, [] => True
  | inMessage, call :: calls => ProperCall inMessage call ∧ ProperCalls (call.inMessageAfter inMessage) calls

theorem formOf_eq_least_iff (len : Nat) : formOf len = LengthForm.least len <-> len ≠ 65535 := by
  unfold formOf LengthForm.least
  constructor
  · rintro same rfl
    revert same
    decide
  · intro different
    split
    · rfl
    · by_cases medium : len < 65535
      · rw [if_pos medium, if_pos (by omega)]
      · rw [if_neg medium, if_neg (by omega)]

theorem rightFrame_frameOf_iff (inMessage : Bool) (call : Call) :
    RightFrame inMessage call (frameOf (!inMessage) call) <-> ProperCall inMessage call := by
  have length : (frameOf (!inMessage) call).payload.length = call.data.size := call.data.length_bytes
  have shortest : (frameOf (!inMessage) call).Shortest <-> call.data.size ≠ 65535 := by
    unfold Frame.Shortest
    rw [length]
    exact formOf_eq_least_iff call.data.size
  constructor
  · intro right
    refine ⟨fun control => length ▸ (right.control control).2, shortest.mp right.shortest, fun data begins => ?_⟩
    have opcode := right.opcode (Or.inr begins)
    revert opcode data
    cases call.messageType <;> simp [MessageType.opcode, MessageType.isControl]
  · intro proper
    refine ⟨rfl, rfl, shortest.mpr proper.data, fun control => ⟨?_, ?_⟩, fun data => ?_, fun data inside => ?_,
      fun either => ?_⟩
    · change (call.messageType.isControl || call.isFinal) = true
      rw [control, Bool.true_or]
    · rw [length]
      exact proper.control control
    · change (call.messageType.isControl || call.isFinal) = call.isFinal
      rw [data, Bool.false_or]
    · change sentOpcode call.messageType (!inMessage) = 0
      rw [inside]
      revert data
      cases call.messageType <;> simp [sentOpcode, MessageType.isControl]
    · change _ = some (sentOpcode call.messageType (!inMessage))
      have begins := proper.begins
      revert either begins
      cases call.messageType <;> cases inMessage <;> simp [sentOpcode, MessageType.isControl, MessageType.opcode]

theorem nextFirst_not (call : Call) (inMessage : Bool) :
    call.nextFirst (!inMessage) = !call.inMessageAfter inMessage := by
  unfold Call.nextFirst Call.inMessageAfter
  split
  · rfl
  · rw [Bool.not_not]

theorem rightStream_framesOf_iff (inMessage : Bool) (calls : List Call) :
    RightStream inMessage calls (framesOf (!inMessage) calls) <-> ProperCalls inMessage calls := by
  induction calls generalizing inMessage with
  | nil => exact Iff.rfl
  | cons call calls inductionHypothesis =>
      rw [framesOf, RightStream, ProperCalls, rightFrame_frameOf_iff, nextFirst_not, inductionHypothesis]

/-- Bytes that encode the client's frames can be read as a right stream only if
every call is proper, since they can be read in one way only. -/
theorem right_iff_of_sent {calls : List Call} {before after : Bytes}
    (sent : after = before ++ (framesOf true calls).flatMap Frame.encode) :
    (exists frames, after = before ++ frames.flatMap Frame.encode ∧ RightStream false calls frames) <->
      ProperCalls false calls := by
  rw [← rightStream_framesOf_iff]
  constructor
  · rintro ⟨frames, other, right⟩
    have same := Frame.flatMap_encode_inj (List.append_cancel_left (other.symm.trans sent))
    rwa [same] at right
  · intro right
    exact ⟨_, sent, right⟩

/-- On a working socket every sequence of calls ends, and what it has sent is a
right stream of frames for the calls if and only if every call is proper: at most
125 bytes for a ping, pong or close, no 65535 bytes, and text or binary as the
type at the beginning of a message. -/
theorem sendAll_right_iff (calls : List Call) {start : Session} (connected : start.connected = true)
    (fresh : start.firstFrame = true) (working : Working start.accepts (calls.map Call.room).sum) :
    exists reached, sendAll calls start = (.ok (), reached) ∧
      ((exists frames, reached.sent = start.sent ++ frames.flatMap Frame.encode ∧ RightStream false calls frames) <->
        ProperCalls false calls) := by
  rcases (sendAll_triple calls connected working).ends rfl with ⟨_, reached, ended, sent⟩
  rw [fresh] at sent
  exact ⟨reached, ended, right_iff_of_sent sent⟩

/-- A socket that accepts everything. -/
def ready (answers : Nat) : Session where
  connected := true
  messageType := .text
  firstFrame := true
  arrivals := []
  accepts := List.replicate answers (2 ^ 30)
  sent := []
  buffer := fun _ => 0
  written := []

/-- The text `a`. -/
def oneLetter : Data where
  memory _ := 0x61
  size := 1
  positive := by decide
  small := by decide

/-- The text `aa` in two fragments with a ping between them. -/
theorem sendAll_right_fragments :
    exists reached, sendAll [.send oneLetter .text false, .sendPing oneLetter, .send oneLetter .text true]
        (ready 45) = (.ok (), reached) ∧
      exists frames, reached.sent = frames.flatMap Frame.encode ∧
        RightStream false [.send oneLetter .text false, .sendPing oneLetter, .send oneLetter .text true] frames := by
  have working : Working (ready 45).accepts
      (([.send oneLetter .text false, .sendPing oneLetter, .send oneLetter .text true] : List Call).map Call.room).sum :=
    ⟨by decide, by decide⟩
  rcases sendAll_right_iff _ rfl rfl working with ⟨reached, ended, right⟩
  refine ⟨reached, ended, right.mpr ⟨?_, ?_, ?_, trivial⟩⟩ <;> exact ⟨by decide, by decide, by decide⟩

/-- A block of 65535 letters. -/
def largeBlock : Data where
  memory _ := 0x61
  size := 65535
  positive := by decide
  small := by decide

/-- 65535 bytes are sent with a length of eight bytes, where two would do. -/
theorem sendAll_wastes_length :
    exists reached, sendAll [.send largeBlock .binary true] (ready 65549) = (.ok (), reached) ∧
      ¬ exists frames, reached.sent = frames.flatMap Frame.encode ∧
        RightStream false [.send largeBlock .binary true] frames := by
  have working : Working (ready 65549).accepts (([.send largeBlock .binary true] : List Call).map Call.room).sum := by
    constructor
    · intro answer member
      rw [List.eq_of_mem_replicate member]
      decide
    · unfold ready
      rw [List.countP_replicate, if_pos (by decide)]
      decide
  rcases (sendAll_triple _ rfl working).ends rfl with ⟨_, reached, ended, sent⟩
  refine ⟨reached, ended, fun right => ?_⟩
  exact ((right_iff_of_sent sent).mp right).1.data rfl

end WebSocket
end DevKit

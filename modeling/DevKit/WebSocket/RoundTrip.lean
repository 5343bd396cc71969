import DevKit.WebSocket.Sending
import DevKit.WebSocket.Receiving

namespace DevKit
namespace WebSocket

open Procedure

/-!
# Messages from one client to another

A message is sent in fragments, all with its type and the last one marked final.
Whatever pieces the two sockets make of the bytes, the other side receives the
fragments one by one, with their type, their length and their flag.
-/

/-- The types of data messages. -/
inductive DataType where
  | text
  | binary
deriving Repr, DecidableEq

def DataType.messageType : DataType -> MessageType
  | .text => .text
  | .binary => .binary

/-- A message as the application cuts it. -/
structure Message where
  dataType : DataType
  initial : List Data
  last : Data

/-- The calls that send a message. -/
def Message.calls (message : Message) : List Call :=
  message.initial.map (fun data => .send data message.dataType.messageType false) ++
    [.send message.last message.dataType.messageType true]

/-- The arguments of a receive call: a buffer and its size, a timer, and the value
of the uninitialised variable. -/
structure Reader where
  memory : Nat -> UInt8
  size : Nat
  timer : Nat -> Bool
  junk : UInt8
  positive : 0 < size
  small : size < 2 ^ 31

/-- Consecutive receive calls: each report, and the buffer behind the call. -/
def receiveAll : List Reader -> Procedure Session Stop (List (Option ReceiveResult × (Nat -> UInt8)))
  | [] => pure []
  | reader :: readers => do
      let result <- receive (some reader.memory) reader.size reader.timer reader.junk
      let session <- read
      let results <- receiveAll readers
      pure ((result, session.buffer) :: results)

/-- The buffer of a reader is larger than the data of a call, and its time does
not run out. -/
def Suits (call : Call) (reader : Reader) : Prop :=
  call.data.size < reader.size ∧ forall pass, reader.timer pass = false

/-- What was sent by a call has been received. -/
def Arrived (call : Call) (outcome : Option ReceiveResult × (Nat -> UInt8)) : Prop :=
  outcome.1 = some ⟨call.data.size, call.isFinal, call.messageType⟩ ∧
    load outcome.2 0 (call.data.size + 1) = call.data.bytes ++ [0]

/-! ## Fragments in order -/

/-- Every call continues the open message or begins one. -/
def Ordered : (pending : Option DataType) -> List Call -> Prop
  | _, [] => True
  | pending, call :: calls => exists data dataType isFinal,
      call = .send data dataType.messageType isFinal ∧ (forall other, pending = some other -> dataType = other) ∧
        Ordered (if isFinal then none else some dataType) calls

theorem ordered_calls (message : Message) {calls : List Call} (rest : Ordered none calls) (pending : Option DataType)
    (same : forall other, pending = some other -> message.dataType = other) :
    Ordered pending (message.calls ++ calls) := by
  rcases message with ⟨dataType, initial, last⟩
  unfold Message.calls
  dsimp only at same ⊢
  induction initial generalizing pending with
  | nil => exact ⟨last, dataType, true, rfl, same, rest⟩
  | cons data initial inductionHypothesis =>
      refine ⟨data, dataType, false, rfl, same, inductionHypothesis (some dataType) ?_⟩
      intro other known
      exact Option.some.inj known

theorem ordered_messages (messages : List Message) : Ordered none (messages.flatMap Message.calls) := by
  induction messages with
  | nil => trivial
  | cons message messages inductionHypothesis =>
      rw [List.flatMap_cons]
      exact ordered_calls message inductionHypothesis none fun _ impossible => by cases impossible

/-! ## The run -/

/-- The opcode that the sender chooses brings the receiver to the type of the
message. -/
theorem receivedType_sentOpcode {pending : Option DataType} {dataType : DataType} {old : MessageType}
    (same : forall other, pending = some other -> dataType = other)
    (kept : forall other, pending = some other -> old = other.messageType) :
    receivedType (sentOpcode dataType.messageType pending.isNone) old = some dataType.messageType := by
  cases pending with
  | none => cases dataType <;> rfl
  | some other =>
      rw [kept other rfl, same other rfl]
      cases other <;> rfl

theorem sentOpcode_le (dataType : DataType) (firstFrame : Bool) : sentOpcode dataType.messageType firstFrame ≤ 2 := by
  cases dataType <;> cases firstFrame <;> decide

theorem resultOf_data {length : Nat} (small : length < 2 ^ 31) (isFinal : Bool) (dataType : DataType) :
    resultOf length isFinal dataType.messageType = ⟨length, isFinal, dataType.messageType⟩ := by
  have exact : castInt length = length := castInt_eq small
  unfold resultOf
  rw [exact]
  cases dataType <;> rfl

/-- One fragment. -/
theorem receive_fragment {pending : Option DataType} {start : Session} {data : Data} {dataType : DataType}
    {isFinal : Bool} {rest : Bytes} {reader : Reader} (connected : start.connected = true)
    (same : forall other, pending = some other -> dataType = other)
    (kept : forall other, pending = some other -> start.messageType = other.messageType)
    (stream : Pending start.arrivals
      ((frameOf pending.isNone (.send data dataType.messageType isFinal)).encode ++ rest))
    (suits : Suits (.send data dataType.messageType isFinal) reader) :
    Triple (fun session => session = start)
      (receive (some reader.memory) reader.size reader.timer reader.junk)
      (fun result session => Arrived (.send data dataType.messageType isFinal) (result, session.buffer) ∧
        Pending session.arrivals rest ∧ session.connected = true ∧ session.messageType = dataType.messageType)
      (fun _ _ => False) := by
  have length : (frameOf pending.isNone (.send data dataType.messageType isFinal)).payload.length = data.size :=
    data.length_bytes
  have fits : (frameOf pending.isNone (.send data dataType.messageType isFinal)).payload.length ≤ reader.size := by
    rw [length]
    exact Nat.le_of_lt suits.1
  have plain : ¬ (dataType.messageType = .ping ∨ dataType.messageType = .close) := by
    cases dataType <;> decide
  have final : (decide ((frameOf pending.isNone (.send data dataType.messageType isFinal)).opcode ≤ 2) &&
      (frameOf pending.isNone (.send data dataType.messageType isFinal)).final) = isFinal := by
    have small : decide (sentOpcode dataType.messageType pending.isNone ≤ 2) = true :=
      decide_eq_true (sentOpcode_le dataType pending.isNone)
    change (decide (sentOpcode dataType.messageType pending.isNone ≤ 2) &&
      (dataType.messageType.isControl || isFinal)) = isFinal
    rw [small]
    cases dataType <;> rfl
  refine (receive_triple connected stream (suits.2 0) reader.positive reader.small fits
    (receivedType_sentOpcode same kept) fun control => absurd control plain).weaken (fun _ same => same) ?_
    (fun _ _ impossible => impossible)
  rintro result session ⟨rfl, arrivals, buffer, written, accepts, sent, following, rfl, contents⟩
  refine ⟨⟨?_, ?_⟩, following, connected, rfl⟩
  · rw [length, final, resultOf_data data.small]
    rfl
  · have some : data.bytes ≠ [] := List.length_pos_iff.mp (by rw [data.length_bytes]; exact data.positive)
    have loaded := contents some
    rw [length] at loaded
    exact loaded

theorem receiveAll_triple {calls : List Call} {readers : List Reader} {pending : Option DataType} {start : Session}
    (ordered : Ordered pending calls) (connected : start.connected = true)
    (kept : forall other, pending = some other -> start.messageType = other.messageType)
    (stream : Pending start.arrivals ((framesOf pending.isNone calls).flatMap Frame.encode))
    (suited : List.Forall₂ Suits calls readers) :
    Triple (fun session => session = start) (receiveAll readers)
      (fun outcomes session => List.Forall₂ Arrived calls outcomes ∧ session.arrivals = []) (fun _ _ => False) := by
  induction suited generalizing pending start with
  | nil =>
      refine Triple.pure ?_
      rintro session rfl
      exact ⟨List.Forall₂.nil, pending_nil stream⟩
  | @cons call reader calls readers suits suited inductionHypothesis =>
      rcases ordered with ⟨data, dataType, isFinal, rfl, same, rest⟩
      rw [framesOf, List.flatMap_cons] at stream
      have next : (Call.send data dataType.messageType isFinal).nextFirst pending.isNone =
          (if isFinal then none else some dataType).isNone := by
        cases dataType <;> cases isFinal <;> rfl
      rw [next] at stream
      refine (receive_fragment connected same kept stream suits).bind fun result => Triple.read ?_
      rintro current ⟨arrived, following, still, type⟩
      refine (inductionHypothesis rest still ?_ following).bind fun outcomes => Triple.pure ?_
      · intro other known
        cases isFinal with
        | true => cases known
        | false =>
            cases known
            exact type
      · rintro session ⟨others, finished⟩
        exact ⟨List.Forall₂.cons arrived others, finished⟩

/-- Any sequence of messages, in any fragments, sent over a socket that accepts
them in any pieces, is received over a socket that delivers them in any pieces:
the receive calls, one for each fragment with a buffer larger than it, report the
fragments one by one, and they leave nothing in the stream. -/
theorem messages_roundTrip (messages : List Message) {sender receiver : Session} {readers : List Reader}
    (connected : sender.connected = true) (fresh : sender.firstFrame = true)
    (working : Working sender.accepts ((messages.flatMap Message.calls).map Call.room).sum)
    (peer : receiver.connected = true) (suited : List.Forall₂ Suits (messages.flatMap Message.calls) readers) :
    exists sentTo, sendAll (messages.flatMap Message.calls) sender = (.ok (), sentTo) ∧
      exists stream, sentTo.sent = sender.sent ++ stream ∧ (Pending receiver.arrivals stream ->
        exists outcomes receivedFrom, receiveAll readers receiver = (.ok outcomes, receivedFrom) ∧
          List.Forall₂ Arrived (messages.flatMap Message.calls) outcomes ∧ receivedFrom.arrivals = []) := by
  rcases (sendAll_triple _ connected working).ends rfl with ⟨_, sentTo, ended, sent⟩
  rw [fresh] at sent
  refine ⟨sentTo, ended, _, sent, fun pending => ?_⟩
  have kept (other : DataType) (impossible : (none : Option DataType) = some other) :
      receiver.messageType = other.messageType := by cases impossible
  rcases (receiveAll_triple (ordered_messages messages) peer kept pending suited).ends rfl with
    ⟨outcomes, receivedFrom, received, arrived, finished⟩
  exact ⟨outcomes, receivedFrom, received, arrived, finished⟩

/-- One reader with room for the text `a`, whose time does not run out. -/
def smallReader : Reader where
  memory _ := 7
  size := 2
  timer _ := false
  junk := 0
  positive := by decide
  small := by decide

/-- The text `aa` in two fragments, sent and received byte by byte. -/
theorem messages_roundTrip_fragments :
    let message : Message := ⟨.text, [oneLetter], oneLetter⟩
    let stream : Bytes := [0x01, 0x81, 0, 0, 0, 0, 0x61, 0x80, 0x81, 0, 0, 0, 0, 0x61]
    let receiver : Session := { ready 0 with arrivals := stream.map fun byte => .data [byte] }
    exists outcomes receivedFrom, receiveAll [smallReader, smallReader] receiver = (.ok outcomes, receivedFrom) ∧
      List.Forall₂ Arrived message.calls outcomes ∧ receivedFrom.arrivals = [] := by
  intro message stream receiver
  have working : Working (ready 30).accepts (([message].flatMap Message.calls).map Call.room).sum :=
    ⟨by decide, by decide⟩
  have suits (isFinal : Bool) : Suits (.send oneLetter .text isFinal) smallReader :=
    ⟨(by decide : 1 < 2), fun _ => rfl⟩
  have suited : List.Forall₂ Suits ([message].flatMap Message.calls) [smallReader, smallReader] :=
    .cons (suits false) (.cons (suits true) .nil)
  rcases messages_roundTrip [message] rfl rfl working (rfl : receiver.connected = true) suited with
    ⟨sentTo, ended, bytes, sent, received⟩
  have known : bytes = stream := by
    have written : (sendAll ([message].flatMap Message.calls) (ready 30)).2.sent = stream := by decide +kernel
    rw [ended] at written
    exact sent.symm.trans written
  refine received ?_
  rw [known]
  exact ⟨stream.map fun byte => [byte], by rw [List.map_map]; rfl, by decide, by decide⟩

end WebSocket
end DevKit

import DevKit.WebSocket.RoundTrip

namespace DevKit
namespace WebSocket

open Procedure

/-!
# Fragments between other frames

A server may send control frames between the fragments of a message, and the
application may send messages of its own at any time.  The client keeps the type
of the message that it receives in a variable that control frames and its own
sends overwrite, so a continuation fragment is reported with whatever type was
written last.

`Situation` follows the protocol: the type of the message that the server is in,
what was last written into the shared variable, and whether the next data frame
of the application begins a message.
-/

/-- The type of a message that begins with this opcode. -/
def dataTypeOf : Nat -> Option DataType
  | 1 => some .text
  | 2 => some .binary
  | _ => none

/-- A frame as a server may send it next; `message` is the message that it is in
the middle of. -/
structure ServerFrame (message : Option DataType) (frame : Frame) : Prop where
  unmasked : frame.mask = none
  shortest : frame.Shortest
  known : frame.opcode ∈ [0, 1, 2, 8, 9, 10]
  control : 8 ≤ frame.opcode -> frame.final = true ∧ frame.payload.length ≤ 125
  continuation : frame.opcode = 0 -> message ≠ none
  begins : frame.opcode = 1 ∨ frame.opcode = 2 -> message = none

/-- The message that the server is in behind a frame. -/
def messageAfter (message : Option DataType) (frame : Frame) : Option DataType :=
  if 8 ≤ frame.opcode then message
  else if frame.final then none
  else (dataTypeOf frame.opcode).or message

def ServerStream : (message : Option DataType) -> List Frame -> Prop
  | _, [] => True
  | message, frame :: frames => ServerFrame message frame ∧ ServerStream (messageAfter message frame) frames

/-- The arguments of a receive call. -/
structure ReceiveArguments where
  msgBuffer : Option (Nat -> UInt8)
  size : Int
  timer : Nat -> Bool
  junk : UInt8
  small : size < 2 ^ 31

/-- The call has a buffer, and its time is not up before it has begun. -/
def ReceiveArguments.looks (arguments : ReceiveArguments) : Bool :=
  arguments.msgBuffer.isSome && decide (0 < arguments.size) && !arguments.timer 0

/-- The arguments of a send call. -/
structure SendArguments where
  str : Option (Nat -> UInt8)
  size : Int
  messageType : MessageType
  isFinal : Bool

/-- The call has something to send. -/
def SendArguments.goesOut (arguments : SendArguments) : Bool :=
  arguments.str.isSome && decide (0 < arguments.size)

/-- A call of the application. -/
inductive Step where
  | receive (arguments : ReceiveArguments)
  | send (arguments : SendArguments)

/-- The calls one after the other, with what the receive calls return. -/
def runSteps : List Step -> Procedure Session Stop (List (Option ReceiveResult))
  | [] => pure []
  | .receive arguments :: steps => do
      let result <- receive arguments.msgBuffer arguments.size arguments.timer arguments.junk
      let results <- runSteps steps
      pure (result :: results)
  | .send arguments :: steps => do
      let _ <- send arguments.str arguments.size arguments.messageType arguments.isFinal
      runSteps steps

structure Situation where
  message : Option DataType
  shared : Option MessageType
  beginning : Bool

namespace Situation

def initial : Situation where
  message := none
  shared := none
  beginning := true

/-- The type that a frame of the server writes; a continuation writes nothing. -/
def written : Nat -> Option MessageType
  | 1 => some .text
  | 2 => some .binary
  | 8 => some .close
  | 9 => some .ping
  | 10 => some .pong
  | _ => none

def took (situation : Situation) (frame : Frame) : Situation :=
  { situation with
    message := messageAfter situation.message frame
    shared := (written frame.opcode).or situation.shared }

/-- A send that begins a message writes its type. -/
def sent (situation : Situation) (arguments : SendArguments) : Situation :=
  if arguments.goesOut = false ∨ arguments.messageType.isControl = true then situation
  else { situation with
    shared := if situation.beginning then some arguments.messageType else situation.shared
    beginning := arguments.isFinal }

end Situation

/-- Every call that returns a continuation fragment reports the type of its
message, its length and its flag. -/
def Reported : Situation -> List Step -> List Frame -> List (Option ReceiveResult) -> Prop
  | situation, .send arguments :: steps, frames, results => Reported (situation.sent arguments) steps frames results
  | situation, .receive arguments :: steps, frame :: frames, result :: results =>
      if arguments.looks then
        (frame.opcode = 0 -> forall dataType, situation.message = some dataType ->
          result = some ⟨frame.payload.length, frame.final, dataType.messageType⟩) ∧
        Reported (situation.took frame) steps frames results
      else Reported situation steps (frame :: frames) results
  | _, _, _, _ => True

/-- When a continuation fragment is received, the shared variable was last
written with the type of its message. -/
def Undisturbed : Situation -> List Step -> List Frame -> Prop
  | situation, .send arguments :: steps, frames => Undisturbed (situation.sent arguments) steps frames
  | situation, .receive arguments :: steps, frame :: frames =>
      if arguments.looks then
        (frame.opcode = 0 -> forall dataType, situation.message = some dataType ->
          situation.shared = some dataType.messageType) ∧
        Undisturbed (situation.took frame) steps frames
      else Undisturbed situation steps (frame :: frames)
  | _, _, _ => True

/-- Every payload is shorter than the buffer of the call that receives it, so
that the zero behind it is inside. -/
def Roomy : List Step -> List Frame -> Prop
  | .send _ :: steps, frames => Roomy steps frames
  | .receive arguments :: steps, frame :: frames =>
      if arguments.looks then frame.payload.length < arguments.size ∧ Roomy steps frames
      else Roomy steps (frame :: frames)
  | _, _ => True

/-! ## One call -/

/-- The object agrees with the situation. -/
structure Agrees (situation : Situation) (session : Session) : Prop where
  connected : session.connected = true
  shared : forall messageType, situation.shared = some messageType -> session.messageType = messageType
  known : situation.message ≠ none -> situation.shared ≠ none
  beginning : session.firstFrame = situation.beginning

section Steps

variable {situation : Situation} {start : Session} {rest : Bytes}

/-- A known opcode leads to the type that it writes, or to the old one. -/
theorem receivedType_written {message : Option DataType} {frame : Frame} (server : ServerFrame message frame)
    (old : MessageType) :
    receivedType frame.opcode old = some ((Situation.written frame.opcode).getD old) := by
  have known := server.known
  simp only [List.mem_cons, List.not_mem_nil, or_false] at known
  rcases known with same | same | same | same | same | same <;> rw [same] <;> rfl

theorem Agrees.took {session : Session} (agrees : Agrees situation start) {frame : Frame}
    (server : ServerFrame situation.message frame)
    (taken : Taken start session ((Situation.written frame.opcode).getD start.messageType) frame.payload rest) :
    Agrees (situation.took frame) session ∧ Pending session.arrivals rest := by
  rcases taken with ⟨arrivals, buffer, written, accepts, sent, following, rfl, _⟩
  refine ⟨⟨agrees.connected, fun messageType last => ?_, fun inside => ?_, agrees.beginning⟩, following⟩
  · change (Situation.written frame.opcode).or situation.shared = some messageType at last
    change (Situation.written frame.opcode).getD start.messageType = messageType
    cases writes : Situation.written frame.opcode with
    | some type =>
        rw [writes] at last
        exact Option.some.inj last
    | none =>
        rw [writes, Option.none_or] at last
        exact agrees.shared messageType last
  · change (Situation.written frame.opcode).or situation.shared ≠ none
    by_cases zero : frame.opcode = 0
    · rw [zero]
      exact agrees.known (server.continuation zero)
    · have writes : Situation.written frame.opcode ≠ none := by
        have known := server.known
        simp only [List.mem_cons, List.not_mem_nil, or_false] at known
        rcases known with same | same | same | same | same | same
        · exact absurd same zero
        all_goals
          rw [same]
          exact Option.some_ne_none _
      rcases Option.ne_none_iff_exists'.mp writes with ⟨type, known⟩
      rw [known, Option.some_or]
      exact Option.some_ne_none _

/-- A send of the application keeps the agreement, and it leaves the stream
alone. -/
theorem send_agrees (agrees : Agrees situation start) (arguments : SendArguments) :
    Triple (fun session => session = start)
      (send arguments.str arguments.size arguments.messageType arguments.isFinal)
      (fun _ session => Agrees (situation.sent arguments) session ∧ session.arrivals = start.arrivals)
      (fun _ _ => True) := by
  refine (send_kept (fun _ _ => trivial) _ _ _ _).weaken (fun _ same => same) ?_ (fun _ _ left => left)
  rintro result session ⟨accepts, sent, rfl⟩
  have prepared : start.prepared arguments.str arguments.size arguments.messageType arguments.isFinal =
      if arguments.goesOut then start.noteFrame arguments.messageType arguments.isFinal else start := by
    rw [Session.prepared, agrees.connected, Bool.true_and]
    rfl
  rw [prepared, Situation.sent]
  cases goes : arguments.goesOut with
  | false =>
      rw [if_pos (Or.inl rfl)]
      exact ⟨⟨agrees.connected, agrees.shared, agrees.known, agrees.beginning⟩, rfl⟩
  | true =>
      cases control : arguments.messageType.isControl with
      | true =>
          have same : start.noteFrame arguments.messageType arguments.isFinal = start := by
            unfold Session.noteFrame
            revert control
            cases arguments.messageType <;> simp [MessageType.isControl]
          rw [if_pos (Or.inr rfl), if_pos rfl, same]
          exact ⟨⟨agrees.connected, agrees.shared, agrees.known, agrees.beginning⟩, rfl⟩
      | false =>
          have noted : start.noteFrame arguments.messageType arguments.isFinal = { start with
              messageType := if start.firstFrame then arguments.messageType else start.messageType
              firstFrame := arguments.isFinal } := by
            unfold Session.noteFrame
            revert control
            cases arguments.messageType <;> simp [MessageType.isControl]
          rw [if_neg (by simp), if_pos rfl, noted]
          refine ⟨⟨agrees.connected, fun messageType last => ?_, fun inside => ?_, rfl⟩, rfl⟩
          · dsimp only at last ⊢
            rw [agrees.beginning]
            cases beginning : situation.beginning with
            | true =>
                rw [beginning] at last
                exact Option.some.inj last
            | false =>
                rw [beginning] at last
                exact agrees.shared messageType last
          · dsimp only at inside ⊢
            split
            · exact Option.some_ne_none _
            · exact agrees.known inside

/-- A call that finds the next frame of the server reports it by the shared
variable. -/
theorem receive_agrees (agrees : Agrees situation start) {arguments : ReceiveArguments} {frame : Frame}
    (looks : arguments.looks = true) (server : ServerFrame situation.message frame)
    (fits : frame.payload.length ≤ arguments.size) (pending : Pending start.arrivals (frame.encode ++ rest)) :
    Triple (fun session => session = start)
      (receive arguments.msgBuffer arguments.size arguments.timer arguments.junk)
      (fun result session =>
        result = some (resultOf frame.payload.length (decide (frame.opcode ≤ 2) && frame.final)
          ((Situation.written frame.opcode).getD start.messageType)) ∧
        Agrees (situation.took frame) session ∧ Pending session.arrivals rest) (fun _ _ => True) := by
  rcases arguments with ⟨msgBuffer, size, timer, junk, small⟩
  unfold ReceiveArguments.looks at looks
  simp only [Bool.and_eq_true, decide_eq_true_eq, Bool.not_eq_true', Option.isSome_iff_exists] at looks
  rcases looks with ⟨⟨⟨memory, rfl⟩, positive⟩, running⟩
  rcases Int.eq_ofNat_of_zero_le (Int.le_of_lt positive) with ⟨capacity, rfl⟩
  dsimp only at fits small ⊢
  refine (receive_triple agrees.connected pending running (by omega) (by omega) (by omega)
    (receivedType_written server start.messageType) fun _ _ _ => trivial).weaken (fun _ same => same) ?_
    (fun _ _ left => left)
  rintro result session ⟨known, taken⟩
  exact ⟨known, agrees.took server taken⟩

/-- A call without a buffer or without time changes nothing. -/
theorem receive_idle (agrees : Agrees situation start) {arguments : ReceiveArguments} (idle : arguments.looks = false) :
    Triple (fun session => session = start)
      (receive arguments.msgBuffer arguments.size arguments.timer arguments.junk)
      (fun _ session => Agrees situation session ∧ session.arrivals = start.arrivals) (fun _ _ => True) := by
  have unchanged (result : Option ReceiveResult) : Triple (fun session => session = start) (pure result)
      (fun _ session => Agrees situation session ∧ session.arrivals = start.arrivals) (fun (_ : Stop) _ => True) := by
    refine Triple.pure ?_
    rintro session rfl
    exact ⟨agrees, rfl⟩
  rcases arguments with ⟨msgBuffer, size, timer, junk, small⟩
  unfold receive
  refine Triple.read fun current same => ?_
  subst same
  rw [if_neg (by rw [agrees.connected]; decide)]
  cases msgBuffer with
  | none => exact unchanged _
  | some memory =>
      refine Triple.ite (fun _ => unchanged _) fun positive => Triple.assign ?_
      have expired : timer 0 = true := by
        unfold ReceiveArguments.looks at idle
        simp only [Option.isSome_some, Bool.true_and, Bool.and_eq_false_iff, decide_eq_false_iff_not,
          Bool.not_eq_false'] at idle
        rcases idle with none | expired
        · exact absurd (Int.not_le.mp positive) none
        · exact expired
      rw [patience, openFrame, if_pos expired]
      refine Triple.pureBind (Triple.pure ?_)
      rintro session rfl
      exact ⟨⟨agrees.connected, agrees.shared, agrees.known, agrees.beginning⟩, rfl⟩

end Steps

/-! ## Runs -/

theorem anything {Value : Type} {pre : Session -> Prop} (procedure : Procedure Session Stop Value) :
    Triple pre procedure (fun _ _ => True) (fun _ _ => True) :=
  fun _ _ => ⟨fun _ _ _ => trivial, fun _ _ _ => trivial⟩

/-- The report of a continuation is right exactly when the shared variable holds
the type of its message. -/
theorem report_iff {situation : Situation} {start : Session} (agrees : Agrees situation start) {frame : Frame}
    (zero : frame.opcode = 0) (small : frame.payload.length < 2 ^ 31) {dataType : DataType}
    (inside : situation.message = some dataType) :
    some (resultOf frame.payload.length (decide (frame.opcode ≤ 2) && frame.final)
        ((Situation.written frame.opcode).getD start.messageType)) =
      some (⟨frame.payload.length, frame.final, dataType.messageType⟩ : ReceiveResult) <->
      situation.shared = some dataType.messageType := by
  have shared : situation.shared = some start.messageType := by
    rcases Option.ne_none_iff_exists'.mp (agrees.known (by rw [inside]; exact Option.some_ne_none _)) with
      ⟨messageType, known⟩
    rw [known, agrees.shared messageType known]
  rw [zero, shared]
  constructor
  · intro same
    exact congrArg some (congrArg ReceiveResult.messageType (Option.some.inj same))
  · intro same
    have type : start.messageType = dataType.messageType := Option.some.inj same
    change some (resultOf _ _ start.messageType) = _
    rw [type, resultOf_data small]
    rfl

theorem runSteps_triple (steps : List Step) {frames : List Frame} {situation : Situation} {start : Session}
    {rest : Bytes} (agrees : Agrees situation start) (server : ServerStream situation.message frames)
    (roomy : Roomy steps frames) (pending : Pending start.arrivals (frames.flatMap Frame.encode ++ rest)) :
    Triple (fun session => session = start) (runSteps steps)
      (fun results _ => Reported situation steps frames results <-> Undisturbed situation steps frames)
      (fun _ _ => True) := by
  induction steps generalizing frames situation start with
  | nil => exact Triple.pure fun _ _ => by simp only [Reported, Undisturbed]
  | cons step steps inductionHypothesis =>
      cases step with
      | send arguments =>
          refine (send_agrees agrees arguments).bind fun _ => Triple.fix ?_
          rintro current ⟨next, same⟩
          have message : (situation.sent arguments).message = situation.message := by
            unfold Situation.sent
            split <;> rfl
          have sameServer : ServerStream (situation.sent arguments).message frames := by
            rw [message]
            exact server
          have samePending : Pending current.arrivals (frames.flatMap Frame.encode ++ rest) := by
            rw [same]
            exact pending
          refine (inductionHypothesis next sameServer ?_ samePending).weaken (fun _ same => same) ?_ (fun _ _ left => left)
          · simpa only [Roomy] using roomy
          · intro results _ both
            simpa only [Reported, Undisturbed] using both
      | receive arguments =>
          cases frames with
          | nil =>
              refine (anything _).weaken (fun _ same => same) (fun results _ _ => ?_) (fun _ _ left => left)
              cases results <;> simp only [Reported, Undisturbed]
          | cons frame frames =>
              cases looks : arguments.looks with
              | false =>
                  refine (receive_idle agrees looks).bind fun result => Triple.fix ?_
                  rintro current ⟨next, same⟩
                  have samePending : Pending current.arrivals ((frame :: frames).flatMap Frame.encode ++ rest) := by
                    rw [same]
                    exact pending
                  refine (inductionHypothesis next server ?_ samePending).bind fun results => Triple.pure ?_
                  · simpa only [Roomy, looks, Bool.false_eq_true, if_false] using roomy
                  · intro _ both
                    simpa only [Reported, Undisturbed, looks, Bool.false_eq_true, if_false] using both
              | true =>
                  simp only [Roomy, looks, if_true] at roomy
                  rw [List.flatMap_cons, List.append_assoc] at pending
                  have small := arguments.small
                  refine (receive_agrees agrees looks server.1 (Int.le_of_lt roomy.1) pending).bind fun result =>
                    Triple.fix ?_
                  rintro current ⟨known, next, following⟩
                  refine (inductionHypothesis next server.2 roomy.2 following).bind fun results => Triple.pure ?_
                  intro _ both
                  simp only [Reported, Undisturbed, looks, if_true]
                  rw [both]
                  refine and_congr_left fun _ => forall_congr' fun zero => forall_congr' fun dataType =>
                    forall_congr' fun inside => ?_
                  rw [known]
                  exact report_iff agrees zero (by omega) inside

/-- On every stream that a server may send, cut in any way, with any sends of the
application in between, as long as every payload is shorter than its buffer: all
continuation fragments are reported with the type of their message, their length
and their flag if and only if, whenever one is received, the shared variable was
last written with that type. -/
theorem continuations_reported_iff (steps : List Step) {frames : List Frame} {start : Session} {rest : Bytes}
    (connected : start.connected = true) (fresh : start.firstFrame = true) (server : ServerStream none frames)
    (roomy : Roomy steps frames) (pending : Pending start.arrivals (frames.flatMap Frame.encode ++ rest))
    {results : List (Option ReceiveResult)} {reached : Session}
    (ended : runSteps steps start = (.ok results, reached)) :
    Reported Situation.initial steps frames results <-> Undisturbed Situation.initial steps frames := by
  have agrees : Agrees Situation.initial start :=
    ⟨connected, fun _ impossible => (by cases impossible), fun inside => absurd rfl inside, fresh⟩
  exact (runSteps_triple steps agrees server roomy pending).value rfl ended

/-- A frame of a server with one letter. -/
def letterFrame (final : Bool) (opcode : Nat) (known : opcode < 16) : Frame where
  final
  opcode
  form := .short
  mask := none
  payload := [0x61]
  opcode_lt := known
  fits := (by decide : 1 < 126)

/-- A receive call with a buffer of eight bytes. -/
def eightBytes : ReceiveArguments where
  msgBuffer := some fun _ => 0
  size := 8
  timer _ := false
  junk := 0
  small := by decide

theorem serverFrame_letter {message : Option DataType} {final : Bool} {opcode : Nat} {known : opcode < 16}
    (listed : opcode ∈ [0, 1, 2, 8, 9, 10]) (control : 8 ≤ opcode -> final = true)
    (continuation : opcode = 0 -> message ≠ none) (begins : opcode = 1 ∨ opcode = 2 -> message = none) :
    ServerFrame message (letterFrame final opcode known) :=
  ⟨rfl, rfl, listed, fun high => ⟨control high, (by decide : 1 ≤ 125)⟩, continuation, begins⟩

/-- The letters arrive one frame at a time. -/
def served (frames : List Frame) : Session :=
  { ready 40 with arrivals := frames.map fun frame => .data frame.encode }

theorem pending_served (frames : List Frame) :
    Pending (served frames).arrivals (frames.flatMap Frame.encode ++ []) := by
  refine ⟨frames.map Frame.encode, ?_, ?_, ?_⟩
  · rw [List.map_map]
    rfl
  · intro empty
    rcases List.mem_map.mp empty with ⟨frame, _, nothing⟩
    exact frame.encode_ne_nil nothing
  · rw [List.append_nil, List.flatMap_def]

/-- The text `aa` in two fragments, with a ping in front of it. -/
theorem continuations_reported_plain :
    let frames := [letterFrame true 9 (by decide), letterFrame false 1 (by decide), letterFrame true 0 (by decide)]
    let steps := [Step.receive eightBytes, .receive eightBytes, .receive eightBytes]
    exists results reached, runSteps steps (served frames) = (.ok results, reached) ∧
      Reported Situation.initial steps frames results := by
  intro frames steps
  have server : ServerStream none frames :=
    ⟨serverFrame_letter (by decide) (by decide) (by decide) (by decide),
      serverFrame_letter (by decide) (by decide) (by decide) (by decide),
      serverFrame_letter (by decide) (by decide) (by decide) (by decide), trivial⟩
  have roomy : Roomy steps frames := ⟨by decide, by decide, by decide, trivial⟩
  have results : (runSteps steps (served frames)).1 =
      .ok [some ⟨0, false, .ping⟩, some ⟨1, false, .text⟩, some ⟨1, true, .text⟩] := by decide +kernel
  have ended := Procedure.eq_of_ok results
  refine ⟨_, _, ended, ?_⟩
  refine (continuations_reported_iff steps rfl rfl server roomy (pending_served frames) ended).mpr ?_
  refine ⟨fun impossible => absurd impossible (by decide), fun impossible => absurd impossible (by decide), ?_, trivial⟩
  rintro _ dataType inside
  cases inside
  rfl

/-- A ping between the two fragments of a text: the second fragment is reported
as a ping of length 0. -/
theorem continuation_reported_as_ping :
    let frames := [letterFrame false 1 (by decide), letterFrame true 9 (by decide), letterFrame true 0 (by decide)]
    let steps := [Step.receive eightBytes, .receive eightBytes, .receive eightBytes]
    ServerStream none frames ∧
      (runSteps steps (served frames)).1 =
        .ok [some ⟨1, false, .text⟩, some ⟨0, false, .ping⟩, some ⟨0, true, .ping⟩] := by
  refine ⟨⟨?_, ?_, ?_, trivial⟩, by decide +kernel⟩
  · exact serverFrame_letter (by decide) (by decide) (by decide) (by decide)
  · exact serverFrame_letter (by decide) (by decide) (by decide) (by decide)
  · exact serverFrame_letter (by decide) (by decide) (by decide) (by decide)

end WebSocket
end DevKit

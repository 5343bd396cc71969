import DevKit.Foundation.Procedure
import DevKit.Foundation.Memory
import DevKit.Foundation.CString
import DevKit.Http.Sending

namespace DevKit
namespace WebSocket

open Procedure
open Http (wouldBlock noSocket)

/-!
# The WebSocket client

A client sends and receives single frames: `send` and `receive` move one
fragment of a message, and the state of the message in between is kept in the
object.

The other side is a script: what each `recv` will deliver and what each call of
the TCP socket's `send` will accept.  A call behind the end of its script never
returns, and the run ends there.  Characters are unsigned, as on the target.

The buffer that is being filled is a memory without an end, and the positions
that have been written are recorded, so a write behind the end of the real
buffer can be seen.
-/

inductive MessageType where
  | text
  | binary
  | ping
  | pong
  | close
  | timeout
  | bufferOverrun
deriving Repr, DecidableEq

/-- `NSAPI_ERROR_NO_CONNECTION` -/
def noConnection : Int := -3004

/-- Bytes that a `recv` delivers, as many as it asks for, or an error, whose
result is negative. -/
inductive Arrival where
  | data (bytes : Bytes)
  | failed (code : Nat)
deriving Repr, DecidableEq

/-- The object, the two scripts, the bytes that the TCP socket has accepted, and
the buffer of the current call. -/
structure Session where
  connected : Bool
  messageType : MessageType
  firstFrame : Bool
  arrivals : List Arrival
  accepts : List Int
  sent : Bytes
  buffer : Nat -> UInt8
  written : List Nat

/-- A call on the socket does not return. -/
inductive Stop where
  | blocked
deriving Repr, DecidableEq

/-- Write into the buffer. -/
def Session.store (session : Session) (offset : Nat) (bytes : Bytes) : Session :=
  { session with
    buffer := overlay session.buffer offset bytes
    written := session.written ++ (List.range bytes.length).map (offset + ·) }

/-! ## Writing -/

/-- `TCPSocket::send` accepts at most what it is offered. -/
def tcpSend (data : Bytes) : Procedure Session Stop Int := fun session =>
  match session.accepts with
  | [] => (.error .blocked, session)
  | answer :: accepts =>
      let result := min answer data.length
      (.ok result, { session with accepts, sent := session.sent ++ data.take result.toNat })

/-- The loop of `write`; every pass uses one answer, so there are never more
passes than answers. -/
def writeLoop (data : Bytes) : (passes tries idx : Nat) -> Procedure Session Stop Int
  | 0, _, _ => exit .blocked
  | passes + 1, tries, idx =>
      if tries < 30 then do
        let res <- tcpSend (data.drop idx)
        if res < 0 then writeLoop data passes (tries + 1) idx
        else if idx + res.toNat = data.length then pure data.length
        else writeLoop data passes 1 (idx + res.toNat)
      else pure (if idx = 0 then -1 else idx)

def write (data : Bytes) : Procedure Session Stop Int := do
  let session <- read
  writeLoop data (session.accepts.length + 1) 0 0

def sendLength (len : Nat) : Bytes :=
  if len < 126 then [UInt8.ofNat (len ||| 1 <<< 7)]
  else if len < 65535 then [UInt8.ofNat (126 ||| 1 <<< 7), UInt8.ofNat (len >>> 8), UInt8.ofNat len]
  else
    [UInt8.ofNat (127 ||| 1 <<< 7), 0, 0, 0, 0, UInt8.ofNat (len >>> 24), UInt8.ofNat (len >>> 16), UInt8.ofNat (len >>> 8),
      UInt8.ofNat len]

def sendMask : Bytes := [0, 0, 0, 0]

/-- The first byte of a frame. -/
def opcodeOf (messageType : MessageType) (isFinal firstFrame : Bool) : UInt8 :=
  match messageType with
  | .ping => 0x09 ||| 0x80
  | .pong => 0x0a ||| 0x80
  | .close => 0x08 ||| 0x80
  | _ =>
      let opcode := if firstFrame then
          match messageType with
          | .text => 0x01
          | .binary => 0x02
          | _ => 0x00
        else 0x00
      if isFinal then opcode ||| 0x80 else opcode

/-- What the choice of the opcode leaves in the object. -/
def Session.noteFrame (session : Session) (messageType : MessageType) (isFinal : Bool) : Session :=
  match messageType with
  | .ping => session
  | .pong => session
  | .close => session
  | _ => { session with
      messageType := if session.firstFrame then messageType else session.messageType
      firstFrame := isFinal }

/-- Write a frame: its header, and then its payload. -/
def sendFrame (header payload : Bytes) : Procedure Session Stop Int := do
  let res <- write header
  if res ≠ header.length then pure (-1)
  else do
    let res <- write payload
    pure (if res = -1 then -1 else res + header.length)

def send (str : Option (Nat -> UInt8)) (size : Int) (messageType : MessageType) (isFinal : Bool) :
    Procedure Session Stop Int := do
  let session <- read
  if session.connected = false then pure noSocket
  else
    match str with
    | none => pure 0
    | some memory =>
        if size ≤ 0 then pure 0
        else do
          update fun session => session.noteFrame messageType isFinal
          sendFrame (opcodeOf messageType isFinal session.firstFrame :: sendLength size.toNat ++ sendMask)
            (load memory 0 size.toNat)

def sendPing (str : Option (Nat -> UInt8)) (size : Int) : Procedure Session Stop Int :=
  send str size .ping true

/-- The rest of the source's function is not reached. -/
def close : Procedure Session Stop Bool := do
  let result <- send (some fun _ => 0x2a) 1 .close true
  pure (result ≠ 0)

/-! ## Reading -/

/-- The bytes of the script that remain behind a delivery. -/
def leftover (bytes : Bytes) (arrivals : List Arrival) : List Arrival :=
  if bytes = [] then arrivals else .data bytes :: arrivals

/-- `TCPSocket::recv`: the result and the bytes. -/
def recv (len : Nat) : Procedure Session Stop (Int × Bytes) := fun session =>
  match session.arrivals with
  | [] => (.error .blocked, session)
  | .failed code :: arrivals => (.ok (Int.negSucc code, []), { session with arrivals })
  | .data bytes :: arrivals =>
      (.ok ((bytes.take len).length, bytes.take len), { session with arrivals := leftover (bytes.drop len) arrivals })

/-- More than the number of calls that the script can answer. -/
def patience (arrivals : List Arrival) : Nat :=
  (arrivals.map fun
    | .data bytes => bytes.length + 1
    | .failed _ => 1).sum + 1

/-- The loop of `read`, into the buffer or into a variable of the caller.  It
gives the result and the bytes. -/
def readLoop (into : Bool) (len : Nat) (minLen : Int) :
    (passes tries : Nat) -> (received : Bytes) -> Procedure Session Stop (Int × Bytes)
  | 0, _, _ => exit .blocked
  | passes + 1, tries, received =>
      if tries < 30 then do
        let res <- recv (len - received.length)
        if res.1 < 0 then readLoop into len minLen passes (tries + 1) received
        else do
          update fun session => if into then session.store received.length res.2 else session
          if (received ++ res.2).length = len ∨ (minLen ≠ -1 ∧ minLen < (received ++ res.2).length) then
            pure ((received ++ res.2).length, received ++ res.2)
          else readLoop into len minLen passes 1 (received ++ res.2)
      else pure (if received = [] then -1 else received.length, received)

def readBytes (into : Bool) (len : Nat) (minLen : Int) : Procedure Session Stop (Int × Bytes) := do
  let session <- read
  readLoop into len minLen (patience session.arrivals) 0 []

/-- A variable of one character keeps its value when nothing is read. -/
def readChar (old : UInt8) : Procedure Session Stop UInt8 := do
  let res <- readBytes false 1 1
  pure (res.2.getD 0 old)

/-! ## Receiving -/

structure ReceiveResult where
  length : Int
  isEndOfMessage : Bool
  messageType : MessageType
deriving Repr, DecidableEq

/-- How the search for a frame ends. -/
inductive Opening where
  | timedOut
  | failed
  | frame (isFinal : Bool)
deriving Repr, DecidableEq

/-- The message type that an opcode sets; `none` for an opcode that is skipped. -/
def openingType (opcode : UInt8) (old : MessageType) : Option MessageType :=
  if opcode = 0x00 then some old
  else if opcode = 0x01 then some .text
  else if opcode = 0x02 then some .binary
  else if opcode = 0x08 then some .close
  else if opcode = 0x09 then some .ping
  else if opcode = 0x0a then some .pong
  else none

/-- Only data frames look at their final bit. -/
def openingFinal (byte : UInt8) : Bool :=
  (byte &&& 0x7f = 0x00 ∨ byte &&& 0x7f = 0x01 ∨ byte &&& 0x7f = 0x02) ∧ byte &&& 0x80 = 0x80

/-- An error of the socket ends the call; a lost connection is closed. -/
def openFailed (code : Int) : Procedure Session Stop Opening := do
  if code = noConnection then do
    let _ <- close
    pure .failed
  else pure .failed

/-- The loop that looks for the first byte of a frame.  `timer` says whether the
time is up at each pass. -/
def openFrame (timer : Nat -> Bool) : (passes pass : Nat) -> Procedure Session Stop Opening
  | 0, _ => exit .blocked
  | passes + 1, pass =>
      if timer pass = true then pure .timedOut
      else do
        let res <- recv 1
        let session <- read
        match res.2 with
        | byte :: _ =>
            match openingType (byte &&& 0x7f) session.messageType with
            | some messageType => do
                update fun session => { session with messageType }
                pure (.frame (openingFinal byte))
            | none => openFrame timer passes (pass + 1)
        | [] =>
            if res.1 < 0 ∧ res.1 ≠ wouldBlock then openFailed res.1
            else openFrame timer passes (pass + 1)

/-- The payload length, and the variable of the last character. -/
def readLength (first : Nat) (c : UInt8) : Procedure Session Stop (Nat × UInt8) :=
  if first = 126 then do
    let high <- readChar c
    let low <- readChar high
    pure (high.toNat <<< 8 + low.toNat, low)
  else if first = 127 then do
    let c <- readChar c
    let c <- readChar c
    let c <- readChar c
    let c <- readChar c
    let third <- readChar c
    let second <- readChar third
    let high <- readChar second
    let low <- readChar high
    pure (third.toNat <<< 24 + second.toNat <<< 16 + high.toNat <<< 8 + low.toNat, low)
  else pure (first, c)

def readMask (isMasked : Bool) (c : UInt8) : Procedure Session Stop (Bytes × UInt8) :=
  if isMasked = true then do
    let first <- readChar c
    let second <- readChar first
    let third <- readChar second
    let fourth <- readChar third
    pure ([first, second, third, fourth], fourth)
  else pure ([0, 0, 0, 0], c)

/-- What follows the first byte of a frame: the payload length and the mask. -/
structure Header where
  payloadLength : Nat
  mask : Bytes
  last : UInt8
deriving Repr, DecidableEq

/-- `junk` is the value of the uninitialised variable. -/
def readHeader (junk : UInt8) : Procedure Session Stop Header := do
  let c <- readChar junk
  let length <- readLength (c &&& 0x7f).toNat c
  let mask <- readMask (c &&& 0x80 ≠ 0) length.2
  pure ⟨length.1, mask.1, mask.2⟩

/-- Throw bytes away. -/
def skipChars (c : UInt8) : (count : Nat) -> Procedure Session Stop Unit
  | 0 => pure ()
  | count + 1 => do
      let c <- readChar c
      skipChars c count

/-- Throw away what does not fit into the buffer. -/
def skipRest (size : Nat) (header : Header) : Procedure Session Stop Unit :=
  if size < header.payloadLength then do
    skipChars header.last (castInt header.payloadLength - size).toNat
    update fun session => { session with messageType := .bufferOverrun }
  else pure ()

/-- The bytes of a masked payload. -/
def unmask (mask payload : Bytes) : Bytes :=
  payload.mapIdx fun index byte => byte ^^^ mask.getD (index % 4) 0

/-- Read the payload as far as it fits, and end it with a zero.  The result says
whether all of that was read. -/
def readPayload (size : Nat) (header : Header) : Procedure Session Stop Bool :=
  if header.payloadLength = 0 then pure true
  else do
    let nb <- readBytes true (min header.payloadLength size) (min header.payloadLength size : Nat)
    if nb.1 ≠ (min header.payloadLength size : Nat) then pure false
    else do
      skipRest size header
      update fun session => session.store 0 (unmask header.mask (load session.buffer 0 (min header.payloadLength size)))
      update fun session => session.store (min header.payloadLength size) [0]
      pure true

/-- A ping is answered, and a close closes. -/
def answerControl (payloadLength : Nat) : Procedure Session Stop Unit := do
  let session <- read
  if session.messageType = .ping then do
    let _ <- send (some session.buffer) (castInt payloadLength) .pong true
    pure ()
  else if session.messageType = .close then do
    let _ <- close
    pure ()
  else pure ()

/-- Old message types keep their length. -/
def resultOf (payloadLength : Nat) (isFinal : Bool) (messageType : MessageType) : ReceiveResult where
  length :=
    if messageType = .ping ∨ messageType = .close ∨ messageType = .timeout then 0 else castInt payloadLength
  isEndOfMessage := isFinal
  messageType

def finishFrame (payloadLength : Nat) (isFinal : Bool) : Procedure Session Stop (Option ReceiveResult) := do
  answerControl payloadLength
  let session <- read
  pure (some (resultOf payloadLength isFinal session.messageType))

def receiveFrame (size : Nat) (junk : UInt8) (isFinal : Bool) : Procedure Session Stop (Option ReceiveResult) := do
  let header <- readHeader junk
  let complete <- readPayload size header
  if complete = true then finishFrame header.payloadLength isFinal else pure none

/-- The call with its buffer, the buffer's size, its timer and the value of the
uninitialised variable. -/
def receive (msgBuffer : Option (Nat -> UInt8)) (size : Int) (timer : Nat -> Bool) (junk : UInt8) :
    Procedure Session Stop (Option ReceiveResult) := do
  let session <- read
  if session.connected = false then pure none
  else
    match msgBuffer with
    | none => pure none
    | some memory =>
        if size ≤ 0 then pure none
        else do
          update fun session => { session with buffer := memory, written := [] }
          let opening <- openFrame timer (patience session.arrivals) 0
          match opening with
          | .timedOut => pure (some ⟨0, true, .timeout⟩)
          | .failed => pure none
          | .frame isFinal => receiveFrame size.toNat junk isFinal

/-! ## The opening handshake -/

/-- The parts of the URL that the handshake uses; they are strings. -/
structure ParsedUrl where
  host : Bytes
  port : UInt16
  path : Bytes
  query : Bytes
  host_plain : 0 ∉ host
  path_plain : 0 ∉ path
  query_plain : 0 ∉ query

def requestLine (url : ParsedUrl) : Bytes :=
  if 0 < url.query.length then
    literal "GET " ++ url.path ++ literal "?" ++ url.query ++ literal " HTTP/1.1\r\n"
  else literal "GET " ++ url.path ++ literal " HTTP/1.1\r\n"

def hostLine (url : ParsedUrl) : Bytes :=
  literal "Host: " ++ url.host ++ literal ":" ++ literal url.port.toNat.repr ++ literal "\r\n"

def upgradeLine : Bytes := literal "Upgrade: WebSocket\r\n"

def connectionLine : Bytes := literal "Connection: Upgrade\r\n"

def keyLine : Bytes := literal "Sec-WebSocket-Key: L159VM0TWUzyDxwJEIEzjw==\r\n"

def versionLine : Bytes := literal "Sec-WebSocket-Version: 13\r\n\r\n"

/-- Print a line into the buffer, and write the string that is there. -/
def printLine (line : Bytes) : Procedure Session Stop Int := do
  update fun session => session.store 0 (line ++ [0])
  write line

/-- The lines of the request.  The result is that of the last line; the others
are not looked at. -/
def sendRequest (url : ParsedUrl) : Procedure Session Stop Int := do
  let _ <- printLine (requestLine url)
  let _ <- printLine (hostLine url)
  let _ <- printLine upgradeLine
  let _ <- printLine connectionLine
  let _ <- printLine keyLine
  printLine versionLine

end WebSocket
end DevKit

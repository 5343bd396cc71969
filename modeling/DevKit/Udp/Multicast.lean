import DevKit.Foundation.History
import DevKit.Udp.Address

namespace DevKit
namespace Udp

/-!
# The multicast UDP transport

`AZ3166MulticastUDP` over the socket functions of lwIP.  The functions are a
parameter: a table of operations on an arbitrary world, so that a statement about
every table is a statement about every behaviour of the network.  `recvfrom`
either fails, possibly after overwriting the receive buffer, or delivers a
datagram, of which at most the requested number of bytes reach the buffer.

A session is a sequence of calls on one object.  Its history holds for every call
the exchanges with lwIP that were made inside it and its answer.
-/

/-! ## The socket functions -/

inductive Reception where
  | failure (wouldBlock : Bool) (overwritten : Bytes)
  | datagram (payload : Bytes) (sender : SocketAddressIn)
deriving DecidableEq

/-- The socket options, the binding and the mode that `beginMulticast` sets, in
the arguments of `lwip_setsockopt`, `lwip_bind` and `lwip_ioctl`. -/
inductive Setup where
  | reuseAddress (value : Nat)
  | bind (address : SocketAddressIn)
  | addMembership (multiaddr interface : UInt32)
  | multicastInterface (interface : UInt32)
  | multicastTtl (value : UInt8)
  | unicastTtl (value : Nat)
  | nonblocking (value : Nat)
deriving DecidableEq

structure Lwip (World : Type) where
  socket : World -> Int × World
  configure : Int -> Setup -> World -> Int × World
  sendto : Int -> Bytes -> SocketAddressIn -> World -> Int × World
  recvfrom : Int -> Nat -> World -> Reception × World
  close : Int -> World -> World

inductive Exchange where
  | opened (socket : Int)
  | refused (result : Int)
  | configured (setup : Setup) (result : Int)
  | closed (socket : Int)
  | sent (socket : Int) (data : Bytes) (destination : SocketAddressIn) (result : Int)
  | received (reception : Reception)
deriving DecidableEq

/-! ## The object -/

abbrev txCapacity := 512
abbrev rxCapacity := 1536

structure AZ3166MulticastUDP where
  socket : Int
  localAddress : IPAddress
  destination : IPAddress
  remoteAddress : IPAddress
  destinationPort : UInt16
  remotePort : UInt16
  receiveLength : Nat
  receiveOffset : Nat
  sendLength : Nat
  packetActive : Bool
  overflow : Bool
  failed : Bool
  receiveBuffer : Buffer (rxCapacity + 1)
  sendBuffer : Buffer txCapacity
deriving DecidableEq

/-- The constructor.  The buffers are not initialised by the source; no result
depends on what they hold. -/
def AZ3166MulticastUDP.new (receiveBuffer : Buffer (rxCapacity + 1)) (sendBuffer : Buffer txCapacity) :
    AZ3166MulticastUDP where
  socket := -1
  localAddress := IPAddress.none
  destination := IPAddress.none
  remoteAddress := IPAddress.none
  destinationPort := 0
  remotePort := 0
  receiveLength := 0
  receiveOffset := 0
  sendLength := 0
  packetActive := false
  overflow := false
  failed := false
  receiveBuffer := receiveBuffer
  sendBuffer := sendBuffer

/-- The object during one call, with the exchanges made so far in it. -/
structure Device (World : Type) where
  object : AZ3166MulticastUDP
  world : World
  exchanges : List Exchange

namespace Device

variable {World : Type}

def socket (lwip : Lwip World) (device : Device World) : Int × Device World :=
  match lwip.socket device.world with
  | (result, world) =>
      let exchange := if result < 0 then Exchange.refused result else Exchange.opened result
      (result, { device with world := world, exchanges := device.exchanges ++ [exchange] })

def configure (lwip : Lwip World) (setup : Setup) (device : Device World) : Int × Device World :=
  match lwip.configure device.object.socket setup device.world with
  | (result, world) =>
      (result, { device with world := world, exchanges := device.exchanges ++ [.configured setup result] })

def close (lwip : Lwip World) (device : Device World) : Device World :=
  { device with
    world := lwip.close device.object.socket device.world
    exchanges := device.exchanges ++ [.closed device.object.socket] }

def sendto (lwip : Lwip World) (data : Bytes) (destination : SocketAddressIn) (device : Device World) :
    Int × Device World :=
  match lwip.sendto device.object.socket data destination device.world with
  | (result, world) =>
      (result, { device with
        world := world
        exchanges := device.exchanges ++ [.sent device.object.socket data destination result] })

def recvfrom (lwip : Lwip World) (size : Nat) (device : Device World) : Reception × Device World :=
  match lwip.recvfrom device.object.socket size device.world with
  | (reception, world) =>
      (reception, { device with world := world, exchanges := device.exchanges ++ [.received reception] })

end Device

variable {World : Type}

/-! ## Opening and closing -/

/-- What `stop` leaves of an object. -/
def AZ3166MulticastUDP.stopped (object : AZ3166MulticastUDP) : AZ3166MulticastUDP :=
  { object with
    socket := -1
    receiveLength := 0
    receiveOffset := 0
    sendLength := 0
    packetActive := false
    overflow := false
    failed := false }

def stop (lwip : Lwip World) (device : Device World) : Device World :=
  let closed := if 0 ≤ device.object.socket then device.close lwip else device
  { closed with object := closed.object.stopped }

/-- The operands of the disjunction in `beginMulticast`, in order. -/
def setups (address localAddress : IPAddress) (port : UInt16) : List Setup :=
  [.reuseAddress 1, .bind (socketAddress IPAddress.none port),
    .addMembership (networkAddress address) (networkAddress localAddress),
    .multicastInterface (networkAddress localAddress), .multicastTtl 255, .unicastTtl 255, .nonblocking 1]

/-- Evaluates the disjunction up to the first nonzero result. -/
def configureAll (lwip : Lwip World) : List Setup -> Device World -> Bool × Device World
  | [], device => (true, device)
  | setup :: rest, device =>
      match device.configure lwip setup with
      | (result, configured) => if result ≠ 0 then (false, configured) else configureAll lwip rest configured

def beginMulticast (lwip : Lwip World) (address : IPAddress) (port : UInt16) (device : Device World) :
    Bool × Device World :=
  let stopped := stop lwip device
  if isZeroAddress stopped.object.localAddress || port == 0 then (false, stopped)
  else
    match stopped.socket lwip with
    | (socket, opened) =>
        let holding := { opened with object := { opened.object with socket := socket } }
        if socket < 0 then (false, holding)
        else
          match configureAll lwip (setups address holding.object.localAddress port) holding with
          | (true, configured) => (true, configured)
          | (false, configured) => (false, stop lwip configured)

/-! ## Sending -/

def beginPacket (address : IPAddress) (port : UInt16) (device : Device World) : Bool × Device World :=
  let active := decide (0 ≤ device.object.socket) && port != 0
  (active, { device with object := { device.object with
    destination := address
    destinationPort := port
    sendLength := 0
    packetActive := active
    overflow := false } })

/-- `none` is the rejecting branch, which returns 0.  A null pointer is `none`
for the buffer. -/
def write (buffer : Option Bytes) (device : Device World) : Option Nat × Device World :=
  let object := device.object
  let rejected := (none, { device with object := { object with overflow := true, failed := true } })
  match buffer with
  | none => rejected
  | some data =>
      if object.packetActive = false ∨ object.overflow = true ∨ data.length > txCapacity - object.sendLength then
        rejected
      else
        (some data.length, { device with object := { object with
          sendBuffer := object.sendBuffer.memcpy object.sendLength data
          sendLength := object.sendLength + data.length } })

/-- The assignments of the failing branches of `endPacket`. -/
def AZ3166MulticastUDP.dropped (object : AZ3166MulticastUDP) : AZ3166MulticastUDP :=
  { object with failed := true, packetActive := false, sendLength := 0 }

def endPacket (lwip : Lwip World) (device : Device World) : Bool × Device World :=
  let object := device.object
  if object.packetActive = false ∨ object.socket < 0 ∨ object.overflow = true ∨ object.sendLength = 0 then
    (false, { device with object := object.dropped })
  else
    match device.sendto lwip (object.sendBuffer.bytes.take object.sendLength)
        (socketAddress object.destination object.destinationPort) with
    | (result, sent) =>
        if result ≠ (object.sendLength : Int) then (false, { sent with object := object.dropped })
        else (true, { sent with object := { object with packetActive := false, sendLength := 0 } })

/-! ## Receiving -/

def flush (device : Device World) : Device World :=
  { device with object := { device.object with receiveLength := 0, receiveOffset := 0 } }

def parsePacket (lwip : Lwip World) (device : Device World) : Nat × Device World :=
  let flushed := flush device
  if flushed.object.socket < 0 then (0, flushed)
  else
    match flushed.recvfrom lwip (rxCapacity + 1) with
    | (.failure wouldBlock overwritten, received) =>
        let object := { received.object with
          receiveBuffer := received.object.receiveBuffer.memcpy 0 overwritten
          failed := received.object.failed || !wouldBlock }
        (0, { received with object := object })
    | (.datagram payload sender, received) =>
        let count := min payload.length (rxCapacity + 1)
        let object := { received.object with
          receiveBuffer := received.object.receiveBuffer.memcpy 0 (payload.take (rxCapacity + 1)) }
        if count = 0 then (0, { received with object := object })
        else if count > rxCapacity then (0, { received with object := { object with failed := true } })
        else
          (count, { received with object := { object with
            remoteAddress := (remoteOf sender).1
            remotePort := (remoteOf sender).2
            receiveLength := count } })

/-- The bytes copied into the caller's buffer; their number is returned.
`nonNull` is false for a null pointer. -/
def read (nonNull : Bool) (size : Nat) (device : Device World) : Bytes × Device World :=
  let object := device.object
  if nonNull = false then ([], device)
  else
    let count := min size (object.receiveLength - object.receiveOffset)
    (slice object.receiveBuffer.bytes object.receiveOffset count,
      { device with object := { object with receiveOffset := object.receiveOffset + count } })

/-! ## Sessions -/

inductive Call where
  | setLocalIPv4Address (address : IPAddress)
  | beginMulticast (address : IPAddress) (port : UInt16)
  | stop
  | beginPacket (address : IPAddress) (port : UInt16)
  | write (buffer : Option Bytes)
  | endPacket
  | parsePacket
  | read (nonNull : Bool) (size : Nat)
  | flush
deriving DecidableEq

inductive Answer where
  | done
  | flag (value : Bool)
  | written (count : Option Nat)
  | available (count : Nat)
  | delivered (data : Bytes)
deriving DecidableEq

def perform (lwip : Lwip World) (call : Call) (device : Device World) : Answer × Device World :=
  match call with
  | .setLocalIPv4Address address =>
      (.done, { device with object := { device.object with localAddress := address } })
  | .beginMulticast address port =>
      ((.flag (beginMulticast lwip address port device).1), (beginMulticast lwip address port device).2)
  | .stop => (.done, stop lwip device)
  | .beginPacket address port => ((.flag (beginPacket address port device).1), (beginPacket address port device).2)
  | .write buffer => ((.written (write buffer device).1), (write buffer device).2)
  | .endPacket => ((.flag (endPacket lwip device).1), (endPacket lwip device).2)
  | .parsePacket => ((.available (parsePacket lwip device).1), (parsePacket lwip device).2)
  | .read nonNull size => ((.delivered (read nonNull size device).1), (read nonNull size device).2)
  | .flush => (.done, flush device)

/-! ## What a call can do -/

/-- The exchange by which `stop` gives up the object's socket. -/
def AZ3166MulticastUDP.closing (object : AZ3166MulticastUDP) : List Exchange :=
  if 0 ≤ object.socket then [.closed object.socket] else []

/-- The condition under which `write` rejects its argument. -/
def AZ3166MulticastUDP.Rejects (object : AZ3166MulticastUDP) (buffer : Option Bytes) : Prop :=
  forall data, buffer = some data ->
    object.packetActive = false ∨ object.overflow = true ∨ data.length > txCapacity - object.sendLength

/-- The exchanges of a call, its answer and the object it leaves.  There is one
case for every path through the source. -/
inductive Effect (object : AZ3166MulticastUDP) : Call -> List Exchange -> Answer -> AZ3166MulticastUDP -> Prop where
  | localAddress (address : IPAddress) :
      Effect object (.setLocalIPv4Address address) [] .done { object with localAddress := address }
  | invalid (address : IPAddress) (port : UInt16) :
      Effect object (.beginMulticast address port) object.closing (.flag false) object.stopped
  | refused (address : IPAddress) (port : UInt16) (result : Int) (negative : result < 0) :
      Effect object (.beginMulticast address port) (object.closing ++ [.refused result]) (.flag false)
        { object.stopped with socket := result }
  | opened (address : IPAddress) (port : UInt16) (socket : Int) (valid : 0 ≤ socket) (setup : List Exchange)
      (plain : forall exchange, exchange ∈ setup -> exists step result, exchange = .configured step result) :
      Effect object (.beginMulticast address port) (object.closing ++ .opened socket :: setup) (.flag true)
        { object.stopped with socket := socket }
  | abandoned (address : IPAddress) (port : UInt16) (socket : Int) (valid : 0 ≤ socket) (setup : List Exchange)
      (plain : forall exchange, exchange ∈ setup -> exists step result, exchange = .configured step result) :
      Effect object (.beginMulticast address port)
        (object.closing ++ .opened socket :: (setup ++ [.closed socket])) (.flag false) object.stopped
  | stopped : Effect object .stop object.closing .done object.stopped
  | began (address : IPAddress) (port : UInt16) (active : Bool)
      (decision : active = (decide (0 ≤ object.socket) && port != 0)) :
      Effect object (.beginPacket address port) [] (.flag active)
        { object with
          destination := address, destinationPort := port, sendLength := 0, packetActive := active,
          overflow := false }
  | rejected (buffer : Option Bytes) (refusal : object.Rejects buffer) :
      Effect object (.write buffer) [] (.written none) { object with overflow := true, failed := true }
  | written (data : Bytes) (active : object.packetActive = true) (clean : object.overflow = false)
      (fits : data.length ≤ txCapacity - object.sendLength) :
      Effect object (.write (some data)) [] (.written (some data.length))
        { object with
          sendBuffer := object.sendBuffer.memcpy object.sendLength data,
          sendLength := object.sendLength + data.length }
  | dropped (unsendable : object.packetActive = false ∨ object.socket < 0 ∨ object.overflow = true ∨
        object.sendLength = 0) :
      Effect object .endPacket [] (.flag false) object.dropped
  | lost (active : object.packetActive = true) (clean : object.overflow = false) (nonempty : object.sendLength ≠ 0)
      (result : Int) (short : result ≠ (object.sendLength : Int)) :
      Effect object .endPacket
        [.sent object.socket (object.sendBuffer.bytes.take object.sendLength)
          (socketAddress object.destination object.destinationPort) result] (.flag false) object.dropped
  | sent (active : object.packetActive = true) (clean : object.overflow = false)
      (nonempty : object.sendLength ≠ 0) :
      Effect object .endPacket
        [.sent object.socket (object.sendBuffer.bytes.take object.sendLength)
          (socketAddress object.destination object.destinationPort) object.sendLength] (.flag true)
        { object with packetActive := false, sendLength := 0 }
  | unopened : Effect object .parsePacket [] (.available 0) { object with receiveLength := 0, receiveOffset := 0 }
  | unreceived (wouldBlock : Bool) (overwritten : Bytes) :
      Effect object .parsePacket [.received (.failure wouldBlock overwritten)] (.available 0)
        { object with
          receiveLength := 0, receiveOffset := 0,
          receiveBuffer := object.receiveBuffer.memcpy 0 overwritten,
          failed := object.failed || !wouldBlock }
  | empty (sender : SocketAddressIn) :
      Effect object .parsePacket [.received (.datagram [] sender)] (.available 0)
        { object with
          receiveLength := 0, receiveOffset := 0, receiveBuffer := object.receiveBuffer.memcpy 0 [] }
  | oversize (payload : Bytes) (sender : SocketAddressIn) (long : rxCapacity < payload.length) :
      Effect object .parsePacket [.received (.datagram payload sender)] (.available 0)
        { object with
          receiveLength := 0, receiveOffset := 0,
          receiveBuffer := object.receiveBuffer.memcpy 0 (payload.take (rxCapacity + 1)), failed := true }
  | arrived (payload : Bytes) (sender : SocketAddressIn) (positive : 0 < payload.length)
      (fits : payload.length ≤ rxCapacity) :
      Effect object .parsePacket [.received (.datagram payload sender)] (.available payload.length)
        { object with
          receiveOffset := 0, receiveBuffer := object.receiveBuffer.memcpy 0 payload,
          remoteAddress := (remoteOf sender).1, remotePort := (remoteOf sender).2,
          receiveLength := payload.length }
  | unread (size : Nat) : Effect object (.read false size) [] (.delivered []) object
  | read (size count : Nat) (amount : count = min size (object.receiveLength - object.receiveOffset)) :
      Effect object (.read true size) []
        (.delivered (slice object.receiveBuffer.bytes object.receiveOffset count))
        { object with receiveOffset := object.receiveOffset + count }
  | flushed : Effect object .flush [] .done { object with receiveLength := 0, receiveOffset := 0 }

theorem stop_object (lwip : Lwip World) (device : Device World) :
    (stop lwip device).object = device.object.stopped := by
  rw [stop]
  split <;> rfl

theorem stop_exchanges (lwip : Lwip World) (device : Device World) :
    (stop lwip device).exchanges = device.exchanges ++ device.object.closing := by
  rw [stop, AZ3166MulticastUDP.closing]
  split
  · rfl
  · exact (List.append_nil _).symm

theorem configureAll_cons (lwip : Lwip World) (step : Setup) (rest : List Setup) (device : Device World) :
    configureAll lwip (step :: rest) device =
      if (device.configure lwip step).1 ≠ 0 then (false, (device.configure lwip step).2)
      else configureAll lwip rest (device.configure lwip step).2 :=
  rfl

theorem configureAll_effect (lwip : Lwip World) (steps : List Setup) (device : Device World) :
    (configureAll lwip steps device).2.object = device.object ∧
      exists setup, (configureAll lwip steps device).2.exchanges = device.exchanges ++ setup ∧
        forall exchange, exchange ∈ setup -> exists step result, exchange = .configured step result := by
  induction steps generalizing device with
  | nil => exact ⟨rfl, [], (List.append_nil _).symm, fun exchange member => absurd member List.not_mem_nil⟩
  | cons step rest inductionHypothesis =>
      rw [configureAll_cons]
      by_cases failed : (device.configure lwip step).1 ≠ 0
      · rw [if_pos failed]
        refine ⟨rfl, _, rfl, fun exchange member => ?_⟩
        exact ⟨step, _, List.mem_singleton.mp member⟩
      · rw [if_neg failed]
        rcases inductionHypothesis (device.configure lwip step).2 with ⟨object, setup, exchanges, plain⟩
        refine ⟨object, _ :: setup, exchanges.trans (List.append_assoc _ _ _), fun exchange member => ?_⟩
        rcases List.mem_cons.mp member with first | later
        · exact ⟨step, _, first⟩
        · exact plain exchange later

theorem effect_beginMulticast (lwip : Lwip World) (address : IPAddress) (port : UInt16) (device : Device World)
    (fresh : device.exchanges = []) :
    Effect device.object (.beginMulticast address port) (beginMulticast lwip address port device).2.exchanges
      (.flag (beginMulticast lwip address port device).1) (beginMulticast lwip address port device).2.object := by
  have object := stop_object lwip device
  have exchanges := stop_exchanges lwip device
  rw [fresh, List.nil_append] at exchanges
  rw [beginMulticast]
  generalize stop lwip device = stopped at object exchanges ⊢
  simp only [Device.socket]
  split
  · rw [object, exchanges]
    exact .invalid address port
  · split
    · rename_i negative
      rw [object, exchanges]
      exact .refused address port _ negative
    · rename_i valid
      generalize setups address _ port = steps
      have configured := configureAll_effect lwip steps
        ⟨{ stopped.object with socket := (lwip.socket stopped.world).1 }, (lwip.socket stopped.world).2,
          stopped.exchanges ++ [.opened (lwip.socket stopped.world).1]⟩
      split
      · rename_i reached outcome
        rw [outcome] at configured
        rcases configured with ⟨kept, setup, done, plain⟩
        change Effect _ _ reached.exchanges _ reached.object
        rw [kept, done, object, exchanges, List.append_assoc]
        exact .opened address port _ (Int.not_lt.mp valid) setup plain
      · rename_i reached outcome
        rw [outcome] at configured
        rcases configured with ⟨kept, setup, done, plain⟩
        change Effect _ _ (stop lwip reached).exchanges _ (stop lwip reached).object
        change reached.object = _ at kept
        change reached.exchanges = _ at done
        have held : reached.object.closing = [.closed (lwip.socket stopped.world).1] := by
          rw [kept]
          exact if_pos (Int.not_lt.mp valid)
        rw [stop_object, stop_exchanges, held, kept, done, object, exchanges, List.append_assoc, List.append_assoc]
        exact .abandoned address port _ (Int.not_lt.mp valid) setup plain

theorem effect_write (buffer : Option Bytes) (device : Device World) (fresh : device.exchanges = []) :
    Effect device.object (.write buffer) (write buffer device).2.exchanges (.written (write buffer device).1)
      (write buffer device).2.object := by
  cases buffer with
  | none =>
      change Effect _ _ device.exchanges _ _
      rw [fresh]
      exact .rejected none nofun
  | some data =>
      simp only [write]
      split
      · rename_i refusal
        change Effect _ _ device.exchanges _ _
        rw [fresh]
        refine .rejected (some data) fun other same => ?_
        cases same
        exact refusal
      · rename_i accepted
        rw [not_or, not_or] at accepted
        change Effect _ _ device.exchanges _ _
        rw [fresh]
        exact .written data (Bool.of_not_eq_false accepted.1) (Bool.of_not_eq_true accepted.2.1)
          (Nat.not_lt.mp accepted.2.2)

theorem sendto_exchanges (lwip : Lwip World) (data : Bytes) (destination : SocketAddressIn) (device : Device World)
    (fresh : device.exchanges = []) :
    (device.sendto lwip data destination).2.exchanges =
      [.sent device.object.socket data destination (device.sendto lwip data destination).1] := by
  change device.exchanges ++ _ = _
  rw [fresh]
  rfl

theorem effect_endPacket (lwip : Lwip World) (device : Device World) (fresh : device.exchanges = []) :
    Effect device.object .endPacket (endPacket lwip device).2.exchanges (.flag (endPacket lwip device).1)
      (endPacket lwip device).2.object := by
  have exchanges := sendto_exchanges lwip (device.object.sendBuffer.bytes.take device.object.sendLength)
    (socketAddress device.object.destination device.object.destinationPort) device fresh
  simp only [endPacket]
  generalize device.sendto lwip _ _ = outcome at exchanges ⊢
  by_cases unsendable : device.object.packetActive = false ∨ device.object.socket < 0 ∨
      device.object.overflow = true ∨ device.object.sendLength = 0
  · rw [if_pos unsendable]
    change Effect _ _ device.exchanges _ _
    rw [fresh]
    exact .dropped unsendable
  · rw [if_neg unsendable]
    rw [not_or, not_or, not_or] at unsendable
    have active := Bool.of_not_eq_false unsendable.1
    have clean := Bool.of_not_eq_true unsendable.2.2.1
    have nonempty := unsendable.2.2.2
    by_cases short : outcome.1 ≠ (device.object.sendLength : Int)
    · rw [if_pos short]
      change Effect _ _ outcome.2.exchanges _ _
      rw [exchanges]
      exact .lost active clean nonempty _ short
    · rw [if_neg short]
      change Effect _ _ outcome.2.exchanges _ _
      rw [exchanges, not_not.mp short]
      exact .sent active clean nonempty

theorem effect_parsePacket (lwip : Lwip World) (device : Device World) (fresh : device.exchanges = []) :
    Effect device.object .parsePacket (parsePacket lwip device).2.exchanges
      (.available (parsePacket lwip device).1) (parsePacket lwip device).2.object := by
  have exchanges : ((flush device).recvfrom lwip (rxCapacity + 1)).2.exchanges =
      [.received ((flush device).recvfrom lwip (rxCapacity + 1)).1] := by
    change device.exchanges ++ _ = _
    rw [fresh]
    rfl
  have object : ((flush device).recvfrom lwip (rxCapacity + 1)).2.object = (flush device).object := rfl
  simp only [parsePacket]
  generalize (flush device).recvfrom lwip (rxCapacity + 1) = outcome at exchanges object ⊢
  rcases outcome with ⟨reception, received⟩
  simp only at exchanges object
  split
  · change Effect _ _ device.exchanges _ _
    rw [fresh]
    exact .unopened
  · cases reception with
    | failure wouldBlock overwritten =>
        simp only [exchanges, object]
        exact .unreceived wouldBlock overwritten
    | datagram payload sender =>
        simp only [object]
        by_cases nothing : payload = []
        · subst nothing
          change Effect _ _ received.exchanges _ _
          rw [exchanges]
          exact .empty sender
        · have positive := List.length_pos_iff.mpr nothing
          rw [if_neg (by omega)]
          by_cases long : rxCapacity < payload.length
          · rw [if_pos (by omega)]
            change Effect _ _ received.exchanges _ _
            rw [exchanges]
            exact .oversize payload sender long
          · have count : min payload.length (rxCapacity + 1) = payload.length := by omega
            rw [if_neg (by omega), count, List.take_of_length_le (by omega)]
            change Effect _ _ received.exchanges _ _
            rw [exchanges]
            exact .arrived payload sender positive (by omega)

theorem effect_perform (lwip : Lwip World) (call : Call) (object : AZ3166MulticastUDP) (world : World) :
    Effect object call (perform lwip call ⟨object, world, []⟩).2.exchanges
      (perform lwip call ⟨object, world, []⟩).1 (perform lwip call ⟨object, world, []⟩).2.object := by
  cases call with
  | setLocalIPv4Address address => exact .localAddress address
  | beginMulticast address port => exact effect_beginMulticast lwip address port ⟨object, world, []⟩ rfl
  | stop =>
      change Effect _ _ (stop lwip _).exchanges _ (stop lwip _).object
      rw [stop_object, stop_exchanges]
      exact .stopped
  | beginPacket address port => exact .began address port _ rfl
  | write buffer => exact effect_write buffer ⟨object, world, []⟩ rfl
  | endPacket => exact effect_endPacket lwip ⟨object, world, []⟩ rfl
  | parsePacket => exact effect_parsePacket lwip ⟨object, world, []⟩ rfl
  | read nonNull size =>
      cases nonNull with
      | false => exact .unread size
      | true => exact .read size _ rfl
  | flush => exact .flushed

structure Record where
  call : Call
  exchanges : List Exchange
  answer : Answer
deriving DecidableEq

structure Session (World : Type) where
  object : AZ3166MulticastUDP
  world : World
  history : List Record

def Session.step (lwip : Lwip World) (session : Session World) (call : Call) : Session World :=
  match perform lwip call ⟨session.object, session.world, []⟩ with
  | (answer, device) => ⟨device.object, device.world, session.history ++ [⟨call, device.exchanges, answer⟩]⟩

def Session.run (lwip : Lwip World) (session : Session World) (calls : List Call) : Session World :=
  calls.foldl (Session.step lwip) session

/-- A newly constructed object. -/
def Session.start (receiveBuffer : Buffer (rxCapacity + 1)) (sendBuffer : Buffer txCapacity) (world : World) :
    Session World :=
  ⟨AZ3166MulticastUDP.new receiveBuffer sendBuffer, world, []⟩

/-- The destructor, which is a last `stop`. -/
def Session.destroy (lwip : Lwip World) (session : Session World) : Session World :=
  session.step lwip .stop

end Udp
end DevKit

import DevKit.Foundation.Bytes

namespace DevKit
namespace Udp

/-!
# Socket addresses

An `IPAddress` is four octets.  The sockets take it as a 32-bit number in network
byte order, that is, the number whose memory on the little-endian target is the
octets in order.  `socketAddress` and `remoteOf` are the conversions that the
UDP classes make before sending and after receiving; they are inverse, so a
socket address names exactly one address and port.
-/

structure IPAddress where
  first : UInt8
  second : UInt8
  third : UInt8
  fourth : UInt8
deriving DecidableEq

/-- The constructor without arguments; also `IP_ADDR_NONE`. -/
def IPAddress.none : IPAddress :=
  ⟨0, 0, 0, 0⟩

/-- `sockaddr_in`, both fields in network byte order. -/
structure SocketAddressIn where
  sinPort : UInt16
  sinAddr : UInt32
deriving DecidableEq

/-- The number stored in memory as `value` with its most significant byte
first.  `ntohl` is the same function. -/
def htonl (value : UInt32) : UInt32 :=
  UInt32.ofNat (leNat (beBytes 4 value.toNat))

def htons (value : UInt16) : UInt16 :=
  UInt16.ofNat (leNat (beBytes 2 value.toNat))

def networkAddress (address : IPAddress) : UInt32 :=
  htonl ((address.first.toUInt32 <<< 24) ||| (address.second.toUInt32 <<< 16) |||
    (address.third.toUInt32 <<< 8) ||| address.fourth.toUInt32)

def isZeroAddress (address : IPAddress) : Bool :=
  address.first == 0 && address.second == 0 && address.third == 0 && address.fourth == 0

/-- The `destination` of `endPacket` and the `local` of `beginMulticast`. -/
def socketAddress (address : IPAddress) (port : UInt16) : SocketAddressIn :=
  ⟨htons port, networkAddress address⟩

/-- The octets cut from a word by shifting. -/
def octetsOf (word : UInt32) : IPAddress :=
  ⟨(word >>> 24).toUInt8, (word >>> 16).toUInt8, (word >>> 8).toUInt8, word.toUInt8⟩

/-- What `parsePacket` stores of the sender. -/
def remoteOf (remote : SocketAddressIn) : IPAddress × UInt16 :=
  (octetsOf (htonl remote.sinAddr), htons remote.sinPort)

/-! ## The conversions are inverse -/

theorem leNat_beBytes_lt (width value : Nat) : leNat (beBytes width value) < 256 ^ width := by
  have bound := leNat_lt (beBytes width value)
  rw [length_beBytes] at bound
  exact bound

/-- Reversing the bytes of a number twice gives the number back. -/
theorem leNat_beBytes_twice (width value : Nat) (fits : value < 256 ^ width) :
    leNat (beBytes width (leNat (beBytes width value))) = value := by
  have again : leBytes width (leNat (beBytes width value)) = beBytes width value := by
    have inverse := leBytes_leNat (beBytes width value)
    rw [length_beBytes] at inverse
    exact inverse
  rw [beBytes, again, beBytes, List.reverse_reverse, leNat_leBytes width value fits]

theorem htonl_htonl (value : UInt32) : htonl (htonl value) = value := by
  apply UInt32.toNat_inj.mp
  have small := leNat_beBytes_lt 4 value.toNat
  have once : (htonl value).toNat = leNat (beBytes 4 value.toNat) := by
    rw [htonl, UInt32.toNat_ofNat_of_lt' small]
  have twice := leNat_beBytes_twice 4 value.toNat value.toNat_lt
  rw [htonl, once, twice, UInt32.toNat_ofNat_of_lt' value.toNat_lt]

theorem htons_htons (value : UInt16) : htons (htons value) = value := by
  apply UInt16.toNat_inj.mp
  have small := leNat_beBytes_lt 2 value.toNat
  have once : (htons value).toNat = leNat (beBytes 2 value.toNat) := by
    rw [htons, UInt16.toNat_ofNat_of_lt' small]
  have twice := leNat_beBytes_twice 2 value.toNat value.toNat_lt
  rw [htons, once, twice, UInt16.toNat_ofNat_of_lt' value.toNat_lt]

theorem beNat_four (a b c d : UInt8) :
    beNat [a, b, c, d] = a.toNat * 2 ^ 24 + b.toNat * 2 ^ 16 + c.toNat * 2 ^ 8 + d.toNat := by
  change leNat [d, c, b, a] = _
  simp only [leNat_cons, show leNat [] = 0 from rfl]
  omega

theorem toNat_octet (word : UInt32) (count : UInt32) (small : count.toNat < 32) :
    ((word >>> count).toUInt8).toNat = word.toNat / 2 ^ count.toNat % 256 := by
  rw [UInt32.toNat_toUInt8, UInt32.toNat_shiftRight, Nat.mod_eq_of_lt small, Nat.shiftRight_eq_div_pow]

theorem join_octetsOf (word : UInt32) :
    networkAddress (octetsOf word) = htonl word := by
  have value := toNat_join_bytes (octetsOf word).first (octetsOf word).second (octetsOf word).third
    (octetsOf word).fourth
  have small := word.toNat_lt
  rw [networkAddress]
  congr 1
  apply UInt32.toNat_inj.mp
  rw [value, beNat_four]
  simp only [octetsOf]
  rw [toNat_octet word 24 (by decide), toNat_octet word 16 (by decide), toNat_octet word 8 (by decide),
    UInt32.toNat_toUInt8]
  simp only [UInt32.reduceToNat]
  omega

theorem socketAddress_remoteOf (remote : SocketAddressIn) :
    socketAddress (remoteOf remote).1 (remoteOf remote).2 = remote := by
  have address := join_octetsOf (htonl remote.sinAddr)
  rw [htonl_htonl] at address
  rw [socketAddress]
  have port : htons (remoteOf remote).2 = remote.sinPort := htons_htons remote.sinPort
  rw [port]
  exact congrArg (fun found => SocketAddressIn.mk remote.sinPort found) address

end Udp
end DevKit

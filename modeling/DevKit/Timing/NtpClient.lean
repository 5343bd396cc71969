import DevKit.Foundation.Bytes

namespace DevKit
namespace Timing

/-!
# The network time client

`NTPClient::setTime` asks a server for the time and moves the clock by the
offset between the two.  The client and the server write whole seconds since
1900 into 32-bit words, so a timestamp is the low word of the true number of
seconds.  The offset is the mean of two differences of such words; the
differences are unsigned, the mean is taken in 64 bits, and `set_time` receives
a `time_t`, which has 32 bits in the C library of the compiler that the build
lock names.
-/

inductive NTPResult where
  | ok
  | dns
  | prtcl
  | timeout
  | conn
deriving Repr, DecidableEq

/-- Seconds from 1900 to 1970. -/
def ntpTimestampDelta : Int := 2208988800

/-- `NTP_TIMESTAMP_DELTA + time(NULL)` in a 32-bit word. -/
def ntpSeconds (time : Int32) : UInt32 :=
  UInt32.ofInt (ntpTimestampDelta + time.toInt)

/-- `struct NTPPacket` as it travels. -/
abbrev NTPPacket := Buffer 48

namespace NTPPacket

/-- A 32-bit field in network byte order. -/
def word (packet : NTPPacket) (offset : Nat) : UInt32 :=
  UInt32.ofNat (beNat (slice packet.bytes offset 4))

def stratum (packet : NTPPacket) : UInt8 :=
  packet.bytes.getD 1 0

def origTm (packet : NTPPacket) : UInt32 :=
  packet.word 24

def rxTm (packet : NTPPacket) : UInt32 :=
  packet.word 32

def txTm (packet : NTPPacket) : UInt32 :=
  packet.word 40

end NTPPacket

/-- The packet that is sent: version 4, client mode, and the local time as the
transmit timestamp; everything else is zero. -/
def requestPacket (time : Int32) : NTPPacket :=
  ((Buffer.zero 48).memcpy 0 [0x23]).memcpy 40 (beBytes 4 (ntpSeconds time).toNat)

/-- What the network and the clock answer during one call. -/
structure Exchange (Address : Type) where
  resolved : Option Address
  sent : Int
  received : Int
  sender : Address
  answer : NTPPacket
  timeSent : Int32
  timeReceived : Int32
  timeSet : Int32

/-- What the call does to the socket and to the clock. -/
inductive Effect (Address : Type) where
  | setBlocking (blocking : Bool)
  | setTimeout (timeout : UInt32)
  | sendTo (address : Address) (port : UInt16) (packet : NTPPacket)
  | setTime (time : Int32)
  | close
deriving DecidableEq

/-- The differences are 32-bit words before they are widened. -/
def clockOffset (origTm rxTm txTm destTm : UInt32) : Int :=
  (((rxTm - origTm).toNat : Int) + ((txTm - destTm).toNat : Int)).tdiv 2

/-- The argument of `set_time`. -/
def adjusted (time : Int32) (offset : Int) : Int32 :=
  Int32.ofInt (time.toInt + offset)

def setTime {Address : Type} [DecidableEq Address] (host : Option Bytes) (port : UInt16) (timeout : UInt32)
    (exchange : Exchange Address) : NTPResult × List (Effect Address) :=
  if host = none ∨ host = some [] then (.dns, [])
  else
    let opened := [.setBlocking false, .setTimeout timeout]
    match exchange.resolved with
    | none => (.dns, opened ++ [.close])
    | some address =>
        let asked := opened ++ [.sendTo address port (requestPacket exchange.timeSent)]
        if exchange.sent < 0 then (.conn, asked ++ [.close])
        else if ¬ 0 < exchange.received then (.conn, asked ++ [.close])
        else if address ≠ exchange.sender then (.conn, asked ++ [.close])
        else if exchange.received < 48 then (.prtcl, asked ++ [.close])
        else if exchange.answer.stratum = 0 then (.prtcl, asked ++ [.close])
        else
          let destTm := ntpSeconds exchange.timeReceived
          let offset := clockOffset exchange.answer.origTm exchange.answer.rxTm exchange.answer.txTm destTm
          (.ok, asked ++ [.setTime (adjusted exchange.timeSet offset), .close])

/-! ## What the call should set -/

/-- The four moments of an exchange in true seconds since 1900. -/
structure Timestamps where
  origin : Int
  receive : Int
  transmit : Int
  destination : Int
deriving DecidableEq

namespace Timestamps

def all (times : Timestamps) : List Int :=
  [times.origin, times.receive, times.transmit, times.destination]

/-- Any two of the moments are less than half a wrap of the words apart. -/
def Near (times : Timestamps) : Prop :=
  forall one, one ∈ times.all -> forall other, other ∈ times.all -> |one - other| < 2 ^ 31

instance (times : Timestamps) : Decidable times.Near :=
  inferInstanceAs (Decidable (forall one, one ∈ times.all -> forall other, other ∈ times.all -> |one - other| < 2 ^ 31))

/-- How far the server is ahead on the way out, and on the way back. -/
def outward (times : Timestamps) : Int :=
  times.receive - times.origin

def homeward (times : Timestamps) : Int :=
  times.transmit - times.destination

/-- The mean of the two, rounded towards zero. -/
def offset (times : Timestamps) : Int :=
  (times.outward + times.homeward).tdiv 2

end Timestamps

/-- The words of an exchange are the low words of the moments. -/
structure Carries {Address : Type} (exchange : Exchange Address) (times : Timestamps) : Prop where
  origin : exchange.answer.origTm = UInt32.ofInt times.origin
  receive : exchange.answer.rxTm = UInt32.ofInt times.receive
  transmit : exchange.answer.txTm = UInt32.ofInt times.transmit
  destination : ntpSeconds exchange.timeReceived = UInt32.ofInt times.destination

instance {Address : Type} (exchange : Exchange Address) (times : Timestamps) :
    Decidable (Carries exchange times) :=
  decidable_of_iff (exchange.answer.origTm = UInt32.ofInt times.origin ∧
      exchange.answer.rxTm = UInt32.ofInt times.receive ∧ exchange.answer.txTm = UInt32.ofInt times.transmit ∧
      ntpSeconds exchange.timeReceived = UInt32.ofInt times.destination)
    ⟨fun same => ⟨same.1, same.2.1, same.2.2.1, same.2.2.2⟩,
      fun carried => ⟨carried.origin, carried.receive, carried.transmit, carried.destination⟩⟩

/-- The times to which a call sets the clock. -/
def clockSettings {Address : Type} (effects : List (Effect Address)) : List Int :=
  effects.filterMap fun
    | .setTime time => some time.toInt
    | _ => none

/-- Both differences are positive or zero; or both are negative, and their mean
is a whole number. -/
def OneSided (times : Timestamps) : Prop :=
  (0 ≤ times.outward ∧ 0 ≤ times.homeward) ∨
    (times.outward < 0 ∧ times.homeward < 0 ∧ 2 ∣ times.outward + times.homeward)

/-- A `time_t` can hold the value. -/
def Representable (time : Int) : Prop :=
  -2 ^ 31 ≤ time ∧ time < 2 ^ 31

/-! ## The arithmetic -/

theorem toNat_ofInt (seconds : Int) : ((UInt32.ofInt seconds).toNat : Int) = seconds % 2 ^ 32 := by
  have small : (seconds % 2 ^ 32).toNat < 2 ^ 32 := by omega
  unfold UInt32.ofInt
  rw [UInt32.toNat_ofNat_of_lt' small]
  omega

theorem toNat_sub_ofInt (later earlier : Int) :
    ((UInt32.ofInt later - UInt32.ofInt earlier).toNat : Int) = (later - earlier) % 2 ^ 32 := by
  have ofLater := toNat_ofInt later
  have ofEarlier := toNat_ofInt earlier
  rw [UInt32.toNat_sub]
  omega

/-- Two moments that are near have their true difference as difference of their
words, up to one wrap when it is negative. -/
theorem wordDifference_eq {later earlier : Int} (near : |later - earlier| < 2 ^ 31) :
    ((UInt32.ofInt later - UInt32.ofInt earlier).toNat : Int) =
      if 0 ≤ later - earlier then later - earlier else later - earlier + 2 ^ 32 := by
  rw [toNat_sub_ofInt]
  have bounds := abs_lt.mp near
  split
  · exact Int.emod_eq_of_lt (by assumption) (by omega)
  · rw [← Int.add_emod_right]
    exact Int.emod_eq_of_lt (by omega) (by omega)

/-- A conversion to `time_t` gives the value that has the same low word and that
a `time_t` can hold. -/
theorem toInt_ofInt_eq_iff (value time : Int) :
    (Int32.ofInt value).toInt = time <-> Representable time ∧ 2 ^ 32 ∣ value - time := by
  unfold Representable
  rw [Int32.toInt_ofInt, Int.bmod_def]
  simp only [Int32.size]
  constructor
  · intro same
    split at same <;> constructor <;> omega
  · rintro ⟨fits, divides⟩
    split <;> omega

theorem tdiv_two_eq (value : Int) :
    value.tdiv 2 = if 0 ≤ value ∨ 2 ∣ value then value / 2 else value / 2 + 1 := by
  rw [Int.tdiv_eq_ediv]
  split
  · exact add_zero _
  · rfl

/-- The mean that the code computes and the true one have the same low word
exactly when the differences have one sign, the sum being even if they are
negative: a single wrap is halved to half a word. -/
theorem offset_congruent_iff (outward homeward : Int) (small : |outward| < 2 ^ 31) (smallToo : |homeward| < 2 ^ 31) :
    2 ^ 32 ∣ ((if 0 ≤ outward then outward else outward + 2 ^ 32) +
        (if 0 ≤ homeward then homeward else homeward + 2 ^ 32)).tdiv 2 - (outward + homeward).tdiv 2 <->
      (0 ≤ outward ∧ 0 ≤ homeward) ∨ (outward < 0 ∧ homeward < 0 ∧ 2 ∣ outward + homeward) := by
  have bounds := abs_lt.mp small
  have boundsToo := abs_lt.mp smallToo
  rw [tdiv_two_eq, tdiv_two_eq]
  by_cases ahead : 0 ≤ outward <;> by_cases aheadToo : 0 ≤ homeward
  · simp only [if_pos ahead, if_pos aheadToo]
    split_ifs <;> omega
  · simp only [if_pos ahead, if_neg aheadToo]
    split_ifs <;> omega
  · simp only [if_neg ahead, if_pos aheadToo]
    split_ifs <;> omega
  · simp only [if_neg ahead, if_neg aheadToo]
    split_ifs <;> omega

/-! ## The call -/

section Call

variable {Address : Type} [DecidableEq Address] {host : Option Bytes} {port : UInt16} {timeout : UInt32}
  {exchange : Exchange Address}

/-- A call that succeeds sets the clock once, to the local time plus the mean
of the two differences of words. -/
theorem clockSettings_of_ok (succeeded : (setTime host port timeout exchange).1 = .ok) :
    clockSettings (setTime host port timeout exchange).2 =
      [(adjusted exchange.timeSet (clockOffset exchange.answer.origTm exchange.answer.rxTm exchange.answer.txTm
        (ntpSeconds exchange.timeReceived))).toInt] := by
  revert succeeded
  unfold setTime
  split
  · rintro ⟨⟩
  · cases exchange.resolved with
    | none => rintro ⟨⟩
    | some address =>
        dsimp only
        -- every check that fails returns another result
        iterate 5 (split; · rintro ⟨⟩)
        intro _
        rfl

omit [DecidableEq Address] in
theorem clockOffset_of_carries {times : Timestamps} (carried : Carries exchange times) (near : times.Near) :
    clockOffset exchange.answer.origTm exchange.answer.rxTm exchange.answer.txTm (ntpSeconds exchange.timeReceived) =
      ((if 0 ≤ times.outward then times.outward else times.outward + 2 ^ 32) +
        (if 0 ≤ times.homeward then times.homeward else times.homeward + 2 ^ 32)).tdiv 2 := by
  have nearOut : |times.receive - times.origin| < 2 ^ 31 :=
    near times.receive (by simp [Timestamps.all]) times.origin (by simp [Timestamps.all])
  have nearHome : |times.transmit - times.destination| < 2 ^ 31 :=
    near times.transmit (by simp [Timestamps.all]) times.destination (by simp [Timestamps.all])
  unfold clockOffset
  rw [carried.origin, carried.receive, carried.transmit, carried.destination, wordDifference_eq nearOut,
    wordDifference_eq nearHome]
  rfl

/-- After an accepted answer the clock shows the local time plus the signed mean
of the differences exactly when both differences have one sign, with an even sum
if they are negative, and a `time_t` can hold the result. -/
theorem setTime_exact_iff {times : Timestamps} (succeeded : (setTime host port timeout exchange).1 = .ok)
    (carried : Carries exchange times) (near : times.Near) :
    clockSettings (setTime host port timeout exchange).2 = [exchange.timeSet.toInt + times.offset] <->
      OneSided times ∧ Representable (exchange.timeSet.toInt + times.offset) := by
  rw [clockSettings_of_ok succeeded, clockOffset_of_carries carried near, List.singleton_inj]
  unfold adjusted
  rw [toInt_ofInt_eq_iff, add_sub_add_left_eq_sub]
  have small : |times.outward| < 2 ^ 31 :=
    near times.receive (by simp [Timestamps.all]) times.origin (by simp [Timestamps.all])
  have smallToo : |times.homeward| < 2 ^ 31 :=
    near times.transmit (by simp [Timestamps.all]) times.destination (by simp [Timestamps.all])
  have congruent := offset_congruent_iff times.outward times.homeward small smallToo
  unfold Timestamps.offset OneSided
  rw [congruent]
  exact And.comm

end Call

/-- An answer with the given words. -/
def answerOf (origTm rxTm txTm : UInt32) : NTPPacket :=
  ((((Buffer.zero 48).memcpy 0 [0x24, 1]).memcpy 24 (beBytes 4 origTm.toNat)).memcpy 32
    (beBytes 4 rxTm.toNat)).memcpy 40 (beBytes 4 txTm.toNat)

/-- A server that answers the request of a client whose clock shows `time`. -/
def answered (time : Int32) (rxTm txTm : UInt32) : Exchange Unit where
  resolved := some ()
  sent := 48
  received := 48
  sender := ()
  answer := answerOf (ntpSeconds time) rxTm txTm
  timeSent := time
  timeReceived := time
  timeSet := time

/-- The server is 60 seconds ahead. -/
theorem setTime_exact_ahead :
    clockSettings (setTime (some [0x61]) 123 1000 (answered 1000 (ntpSeconds 1060) (ntpSeconds 1060))).2 =
      [1060] :=
  let times : Timestamps := ⟨2208989800, 2208989860, 2208989860, 2208989800⟩
  (setTime_exact_iff (by decide +kernel) (by decide +kernel : Carries _ times) (by decide +kernel)).mpr
    (by unfold OneSided Representable; decide +kernel)

/-- The request takes a second longer than the answer, and the clocks agree up
to that: the differences have different signs, and the clock jumps by half the
range of a word. -/
theorem setTime_jumps_when_signs_differ :
    let times : Timestamps := ⟨2208989800, 2208989801, 2208989799, 2208989800⟩
    let exchange := answered 1000 (ntpSeconds 1001) (ntpSeconds 999)
    (setTime (some [0x61]) 123 1000 exchange).1 = .ok ∧ Carries exchange times ∧ times.Near ∧
      exchange.timeSet.toInt + times.offset = 1000 ∧
      clockSettings (setTime (some [0x61]) 123 1000 exchange).2 = [1000 - 2 ^ 31] := by
  decide +kernel

end Timing
end DevKit

import DevKit.WebSocket.Pings

namespace DevKit
namespace WebSocket

open Procedure
open Http (wouldBlock)

/-!
# Whether the calls return

`read` and `write` give up after 30 tries, and count the tries anew whenever the
socket returned no error.  A result of zero is no error and no progress, so the
loops need not end on a connection that the other side has closed.  As long as
a call takes no zero, it returns, and the number of the socket's results that it
uses is bounded by the length.

A script with enough results is a supply.  The statements below say how much of
a supply each function uses; none of them can be blocked, so all of them return.
-/

/-- So many results are still to come, and none of them is zero. -/
structure Supplied {Answer : Type} (zero : Answer) (calls : Nat) (script : List Answer) : Prop where
  nonzero : zero ∉ script
  enough : calls ≤ script.length

namespace Supplied

variable {Answer : Type} {zero answer : Answer} {calls fewer : Nat} {script : List Answer}

theorem mono (supplied : Supplied zero calls script) (le : fewer ≤ calls) : Supplied zero fewer script :=
  ⟨supplied.nonzero, Nat.le_trans le supplied.enough⟩

theorem tail (supplied : Supplied zero calls (answer :: script)) : Supplied zero (calls - 1) script :=
  ⟨fun member => supplied.nonzero (List.mem_cons_of_mem _ member), Nat.sub_le_of_le_add supplied.enough⟩

end Supplied

/-- The procedure returns with a value. -/
def Returns {Value : Type} (procedure : Procedure Session Stop Value) (session : Session) : Prop :=
  exists value reached, procedure session = (.ok value, reached)

/-- The number of results that are enough for a read or a write of this length:
`MAX_TRY_WRITE` for every byte, and once more at the end. -/
def callCost (len : Nat) : Nat :=
  30 * (len + 1)

theorem callCost_mono {len longer : Nat} (le : len ≤ longer) : callCost len ≤ callCost longer :=
  Nat.mul_le_mul_left 30 (Nat.succ_le_succ le)

/-! ## Reading -/

theorem supplied_leftover {calls : Nat} {arrivals : List Arrival} (bytes : Bytes)
    (supplied : Supplied (.data []) calls arrivals) : Supplied (.data []) calls (leftover bytes arrivals) := by
  unfold leftover
  split
  case isTrue => exact supplied
  case isFalse some =>
    refine ⟨?_, Nat.le_succ_of_le supplied.enough⟩
    rw [List.mem_cons, not_or]
    exact ⟨fun same => some (Arrival.data.inj same).symm, supplied.nonzero⟩

section Reading

variable {start : Session}

theorem recv_failed_triple {code len : Nat} {arrivals : List Arrival} (next : start.arrivals = .failed code :: arrivals) :
    Triple (fun session => session = start) (recv len)
      (fun res session => res = (Int.negSucc code, []) ∧ session = { start with arrivals }) (fun _ _ => False) := by
  rintro session rfl
  unfold recv
  rw [next]
  exact ⟨fun _ _ ended => (by cases ended; exact ⟨rfl, rfl⟩), fun _ _ impossible => by cases impossible⟩

theorem recv_data_triple {bytes : Bytes} {len : Nat} {arrivals : List Arrival}
    (next : start.arrivals = .data bytes :: arrivals) :
    Triple (fun session => session = start) (recv len)
      (fun res session => res = (((bytes.take len).length : Int), bytes.take len) ∧
        session = { start with arrivals := leftover (bytes.drop len) arrivals }) (fun _ _ => False) := by
  rintro session rfl
  unfold recv
  rw [next]
  exact ⟨fun _ _ ended => (by cases ended; exact ⟨rfl, rfl⟩), fun _ _ impossible => by cases impossible⟩

/-- An error costs one try, and progress one of the missing bytes and at most 30
tries. -/
theorem readLoop_returns (into : Bool) (len : Nat) (minLen : Int) {passes tries more : Nat} {received : Bytes}
    (inside : received.length ≤ len) :
    Triple
      (fun session => session.arrivals.length < passes ∧
        Supplied (.data []) (30 - tries + 30 * (len - received.length) + more) session.arrivals)
      (readLoop into len minLen passes tries received)
      (fun _ session => Supplied (.data []) more session.arrivals) (fun _ _ => False) := by
  induction passes generalizing tries received with
  | zero => exact fun _ holds => absurd holds.1 (Nat.not_lt_zero _)
  | succ passes inductionHypothesis =>
      rw [readLoop]
      refine Triple.ite (fun soon => Triple.fix ?_) fun _ => Triple.pure fun _ holds => holds.2.mono (by omega)
      rintro current ⟨room, supplied⟩
      cases known : current.arrivals with
      | nil =>
          have enough := supplied.enough
          rw [known, List.length_nil] at enough
          omega
      | cons arrival arrivals =>
          rw [known] at supplied
          rw [known, List.length_cons] at room
          have rest := supplied.tail
          cases arrival with
          | failed code =>
              refine Triple.bindKnown (recv_failed_triple known) fun res same => ?_
              rw [same, if_pos (Int.negSucc_lt_zero code)]
              refine (inductionHypothesis inside).start ⟨Nat.lt_of_succ_lt_succ room, ?_⟩
              exact rest.mono (by omega)
          | data bytes =>
              refine Triple.bindKnown (recv_data_triple known) fun res same => ?_
              subst same
              dsimp only
              rw [if_neg (by omega)]
              have kept (session : Session) (piece : Bytes) :
                  (if into then session.store received.length piece else session).arrivals = session.arrivals := by
                cases into <;> rfl
              refine Triple.assign (Triple.ite (fun _ => Triple.pure ?_) fun unfinished => ?_)
              · rintro session rfl
                rw [kept]
                exact supplied_leftover _ (rest.mono (by omega))
              · have taken : (bytes.take (len - received.length)).length = min (len - received.length) bytes.length :=
                  List.length_take
                have total : (received ++ bytes.take (len - received.length)).length =
                    received.length + (bytes.take (len - received.length)).length := List.length_append
                have missing : (received ++ bytes.take (len - received.length)).length ≠ len :=
                  fun whole => unfinished (Or.inl whole)
                have all : bytes.drop (len - received.length) = [] := List.drop_eq_nil_of_le (by omega)
                have behind : leftover (bytes.drop (len - received.length)) arrivals = arrivals := if_pos all
                have progress : bytes ≠ [] := by
                  rintro rfl
                  exact supplied.nonzero List.mem_cons_self
                have positive := List.length_pos_iff.mpr progress
                rw [behind]
                refine (inductionHypothesis (by omega)).start ⟨?_, ?_⟩
                · rw [kept]
                  exact Nat.lt_of_succ_lt_succ room
                · rw [kept]
                  exact rest.mono (by omega)

theorem length_lt_patience (arrivals : List Arrival) : arrivals.length < patience arrivals := by
  unfold patience
  induction arrivals with
  | nil => decide
  | cons arrival arrivals inductionHypothesis =>
      rw [List.length_cons, List.map_cons, List.sum_cons]
      cases arrival <;> simp only <;> omega

theorem readBytes_returns (into : Bool) (len : Nat) (minLen : Int) (more : Nat) :
    Triple (fun session => Supplied (.data []) (callCost len + more) session.arrivals) (readBytes into len minLen)
      (fun _ session => Supplied (.data []) more session.arrivals) (fun _ _ => False) := by
  refine Triple.read fun current supplied => ?_
  refine (readLoop_returns into len minLen (Nat.zero_le _)).start ⟨length_lt_patience _, supplied.mono ?_⟩
  rw [callCost, List.length_nil]
  omega

end Reading

/-! ## Writing -/

theorem writeLoop_returns (data : Bytes) {passes tries idx more : Nat} (inside : idx ≤ data.length) :
    Triple
      (fun session => session.accepts.length < passes ∧
        Supplied 0 (30 - tries + 30 * (data.length - idx) + more) session.accepts)
      (writeLoop data passes tries idx) (fun _ session => Supplied 0 more session.accepts) (fun _ _ => False) := by
  induction passes generalizing tries idx with
  | zero => exact fun _ holds => absurd holds.1 (Nat.not_lt_zero _)
  | succ passes inductionHypothesis =>
      rw [writeLoop]
      refine Triple.ite (fun soon => Triple.fix ?_) fun _ => Triple.pure fun _ holds => holds.2.mono (by omega)
      rintro current ⟨room, supplied⟩
      cases known : current.accepts with
      | nil =>
          have enough := supplied.enough
          rw [known, List.length_nil] at enough
          omega
      | cons answer accepts =>
          rw [known] at supplied
          rw [known, List.length_cons] at room
          have rest := supplied.tail
          have length : (data.drop idx).length = data.length - idx := List.length_drop
          have fewer : accepts.length < passes := Nat.lt_of_succ_lt_succ room
          refine Triple.bindKnown (tcpSend_triple known) fun result same => ?_
          rw [length] at same
          refine Triple.ite (fun failed => ?_) fun _ => Triple.ite (fun _ => Triple.pure ?_) fun unfinished => ?_
          · exact (inductionHypothesis inside).start ⟨fewer, rest.mono (by omega)⟩
          · rintro session rfl
            exact rest.mono (by omega)
          · have progress : answer ≠ 0 := by
              rintro rfl
              exact supplied.nonzero List.mem_cons_self
            exact (inductionHypothesis (by omega)).start ⟨fewer, rest.mono (by omega)⟩

theorem write_returns (data : Bytes) (more : Nat) :
    Triple (fun session => Supplied 0 (callCost data.length + more) session.accepts) (write data)
      (fun _ session => Supplied 0 more session.accepts) (fun _ _ => False) := by
  refine Triple.read fun current supplied => ?_
  refine (writeLoop_returns data (Nat.zero_le _)).start ⟨Nat.lt_succ_self _, supplied.mono ?_⟩
  rw [callCost]
  omega

/-! ## Costs -/

/-- Both directions of the socket are supplied. -/
structure Fed (reads writes : Nat) (session : Session) : Prop where
  reading : Supplied (.data []) reads session.arrivals
  writing : Supplied 0 writes session.accepts

/-- The procedure returns, and uses at most so many results. -/
def Costs {Value : Type} (procedure : Procedure Session Stop Value) (reads writes : Nat) : Prop :=
  forall moreReads moreWrites, Triple (Fed (reads + moreReads) (writes + moreWrites)) procedure
    (fun _ session => Fed moreReads moreWrites session) (fun _ _ => False)

namespace Costs

variable {Value Result : Type} {reads writes nextReads nextWrites : Nat}
  {procedure : Procedure Session Stop Value} {next : Value -> Procedure Session Stop Result}

theorem returns (costs : Costs procedure reads writes) {session : Session} (fed : Fed reads writes session) :
    Returns procedure session := by
  rcases (costs 0 0).ends fed with ⟨value, reached, ended, _⟩
  exact ⟨value, reached, ended⟩

theorem mono (costs : Costs procedure reads writes) (readsLe : reads ≤ nextReads)
    (writesLe : writes ≤ nextWrites) : Costs procedure nextReads nextWrites := by
  intro moreReads moreWrites
  refine (costs moreReads moreWrites).strengthen fun session fed => ⟨?_, ?_⟩
  · exact fed.reading.mono (Nat.add_le_add_right readsLe _)
  · exact fed.writing.mono (Nat.add_le_add_right writesLe _)

theorem pure (value : Value) : Costs (Pure.pure value) 0 0 :=
  fun _ _ => Triple.pure fun _ fed =>
    ⟨fed.reading.mono (Nat.le_add_left _ _), fed.writing.mono (Nat.le_add_left _ _)⟩

theorem bind (first : Costs procedure reads writes)
    (second : forall value, Costs (next value) nextReads nextWrites) :
    Costs (procedure >>= next) (reads + nextReads) (writes + nextWrites) := by
  intro moreReads moreWrites
  rw [Nat.add_assoc, Nat.add_assoc]
  exact (first (nextReads + moreReads) (nextWrites + moreWrites)).bind fun value => second value moreReads moreWrites

/-- A part that only reads, in front of any other. -/
theorem reading (first : Costs procedure reads 0) (second : forall value, Costs (next value) nextReads writes) :
    Costs (procedure >>= next) (reads + nextReads) writes := by
  have both := first.bind second
  rwa [Nat.zero_add] at both

/-- An assignment in front costs nothing. -/
theorem behind (first : Costs procedure 0 0) (second : forall value, Costs (next value) reads writes) :
    Costs (procedure >>= next) reads writes := by
  have both := first.bind second
  rwa [Nat.zero_add, Nat.zero_add] at both

theorem read {next : Session -> Procedure Session Stop Value}
    (after : forall session, Costs (next session) reads writes) :
    Costs (Procedure.read >>= next) reads writes :=
  fun moreReads moreWrites => Triple.read fun current fed => (after current moreReads moreWrites).start fed

theorem update {change : Session -> Session}
    (apart : forall session, (change session).arrivals = session.arrivals ∧ (change session).accepts = session.accepts) :
    Costs (Procedure.update change) 0 0 := by
  intro moreReads moreWrites
  rw [Nat.zero_add, Nat.zero_add]
  refine Triple.update fun session fed => ⟨?_, ?_⟩
  · rw [(apart session).1]
    exact fed.reading
  · rw [(apart session).2]
    exact fed.writing

theorem ite {condition : Prop} [Decidable condition] {other : Procedure Session Stop Value}
    (yes : condition -> Costs procedure reads writes) (no : ¬ condition -> Costs other reads writes) :
    Costs (if condition then procedure else other) reads writes :=
  fun moreReads moreWrites => Triple.ite (fun holds => yes holds moreReads moreWrites) fun fails =>
    no fails moreReads moreWrites

end Costs

section Frames

theorem costs_readBytes (into : Bool) (len : Nat) (minLen : Int) :
    Costs (readBytes into len minLen) (callCost len) 0 := by
  intro moreReads moreWrites
  refine Triple.fix fun current fed => ?_
  have used := (readBytes_returns into len minLen moreReads).start fed.reading
  have kept := (listens_readBytes into len minLen current.line).start rfl
  refine (used.both kept).weaken (fun _ same => same) ?_ fun _ _ both => both.1
  rintro _ session ⟨supplied, same⟩
  have accepts : session.accepts = current.accepts := congrArg (fun line => line.2.2.2.1) same
  refine ⟨supplied, ?_⟩
  rw [accepts]
  exact fed.writing.mono (Nat.le_add_left _ _)

theorem costs_write (data : Bytes) : Costs (write data) 0 (callCost data.length) := by
  intro moreReads moreWrites
  refine Triple.fix fun current fed => ?_
  have used := (write_returns data moreWrites).start fed.writing
  have kept : Triple (fun session => session = current) (write data) _ (fun _ _ => True) :=
    write_kept (fun _ _ => trivial) data
  refine (used.both kept).weaken (fun _ same => same) ?_ fun _ _ both => both.1
  rintro _ session ⟨supplied, accepts, sent, rfl⟩
  exact ⟨fed.reading.mono (Nat.le_add_left _ _), supplied⟩

theorem costs_readChar (old : UInt8) : Costs (readChar old) (callCost 1) 0 :=
  (costs_readBytes false 1 1).bind fun _ => Costs.pure _

theorem costs_none {Value : Type} (value : Value) (reads : Nat) :
    Costs (pure value : Procedure Session Stop Value) reads 0 :=
  (Costs.pure value).mono (Nat.zero_le _) (Nat.le_refl _)

/-- One more character. -/
theorem costs_char {Value : Type} {old : UInt8} {next : UInt8 -> Procedure Session Stop Value} {chars : Nat}
    (rest : forall c, Costs (next c) (chars * callCost 1) 0) :
    Costs (readChar old >>= next) ((chars + 1) * callCost 1) 0 := by
  rw [Nat.succ_mul, Nat.add_comm]
  exact (costs_readChar old).bind rest

theorem costs_readLength (first : Nat) (c : UInt8) :
    Costs (readLength first c) (8 * callCost 1) 0 := by
  unfold readLength
  refine Costs.ite (fun _ => ?_) fun _ => Costs.ite (fun _ => ?_) fun _ => costs_none _ _
  · iterate 2 refine costs_char fun _ => ?_
    exact costs_none _ _
  · iterate 8 refine costs_char fun _ => ?_
    exact costs_none _ _

theorem costs_readMask (isMasked : Bool) (c : UInt8) :
    Costs (readMask isMasked c) (4 * callCost 1) 0 := by
  unfold readMask
  refine Costs.ite (fun _ => ?_) fun _ => costs_none _ _
  iterate 4 refine costs_char fun _ => ?_
  exact costs_none _ _

theorem costs_readHeader (junk : UInt8) : Costs (readHeader junk) (13 * callCost 1) 0 := by
  refine costs_char fun c => Costs.mono ?_ (Nat.le_of_eq (Nat.add_mul 8 4 (callCost 1)).symm) (Nat.le_refl _)
  exact (costs_readLength _ _).bind fun _ => (costs_readMask _ _).bind fun _ => Costs.pure _

theorem costs_skipChars (c : UInt8) (count : Nat) : Costs (skipChars c count) (count * callCost 1) 0 := by
  induction count generalizing c with
  | zero => exact costs_none _ _
  | succ count inductionHypothesis => exact costs_char fun _ => inductionHypothesis _

/-- More than the number of bytes behind the end of the buffer. -/
theorem castInt_sub_toNat_le (word size : Nat) : (castInt word - size).toNat ≤ 2 ^ 31 := by
  have small := castInt_le_max word
  omega

theorem costs_readPayload (size : Nat) (header : Header) :
    Costs (readPayload size header) (callCost size + 2 ^ 31 * callCost 1) 0 := by
  have skipped : Costs (skipRest size header) (2 ^ 31 * callCost 1) 0 := by
    refine Costs.ite (fun _ => ?_) fun _ => costs_none _ _
    refine Costs.mono ((costs_skipChars _ _).bind fun _ => Costs.update fun _ => ⟨rfl, rfl⟩) ?_ (Nat.le_refl _)
    rw [Nat.add_zero]
    exact Nat.mul_le_mul_right _ (castInt_sub_toNat_le header.payloadLength size)
  have len : callCost (min header.payloadLength size) ≤ callCost size := callCost_mono (Nat.min_le_right _ _)
  have stored (offset : Nat) (bytes : Session -> Bytes) :
      Costs (update fun session => session.store offset (bytes session)) 0 0 :=
    Costs.update fun _ => ⟨rfl, rfl⟩
  unfold readPayload
  refine Costs.ite (fun _ => costs_none _ _) fun _ => ?_
  refine ((costs_readBytes true _ _).mono len (Nat.le_refl _)).bind fun _ => Costs.ite (fun _ => costs_none _ _) fun _ => ?_
  refine skipped.bind fun _ => Costs.behind (stored 0 fun session => unmask header.mask (load session.buffer 0 _))
    fun _ => Costs.behind (stored _ fun _ => [0]) fun _ => Costs.pure true

/-- A frame whose payload is an `int`. -/
def sendCost : Nat :=
  callCost 14 + callCost (2 ^ 31)

theorem costs_send (str : Option (Nat -> UInt8)) {size : Int} (small : size.toNat ≤ 2 ^ 31)
    (messageType : MessageType) (isFinal : Bool) : Costs (send str size messageType isFinal) 0 sendCost := by
  have nothing (result : Int) : Costs (pure result) 0 sendCost :=
    (Costs.pure result).mono (Nat.le_refl _) (Nat.zero_le _)
  refine Costs.read fun session => Costs.ite (fun _ => nothing _) fun _ => ?_
  cases str with
  | none => exact nothing _
  | some memory =>
      have noted : Costs (update fun session => session.noteFrame messageType isFinal) 0 0 := by
        refine Costs.update fun session => ?_
        unfold Session.noteFrame
        cases messageType <;> exact ⟨rfl, rfl⟩
      refine Costs.ite (fun _ => nothing _) fun _ => noted.behind fun _ => ?_
      have header := length_header (opcodeOf messageType isFinal session.firstFrame) size.toNat
      refine ((costs_write _).mono (Nat.le_refl _) ?_).bind fun _ => Costs.ite (fun _ => ?_) fun _ =>
        ((costs_write _).mono (Nat.le_refl _) ?_).bind fun _ => Costs.pure _
      · exact callCost_mono header
      · exact (Costs.pure _).mono (Nat.le_refl _) (Nat.zero_le _)
      · rw [length_load]
        exact callCost_mono small

theorem costs_finishFrame (length : Nat) (isFinal : Bool) : Costs (finishFrame length isFinal) 0 sendCost := by
  have small : (castInt length).toNat ≤ 2 ^ 31 := by
    have below := castInt_le_max length
    omega
  have answered : Costs (answerControl length) 0 sendCost := by
    refine Costs.read fun session => Costs.ite (fun _ => ?_) fun _ => Costs.ite (fun _ => ?_) fun _ => ?_
    · exact (costs_send _ small _ _).bind fun _ => Costs.pure _
    · exact ((costs_send _ (by decide) _ _).bind fun _ => Costs.pure _).bind fun _ => Costs.pure _
    · exact (Costs.pure _).mono (Nat.le_refl _) (Nat.zero_le _)
  exact answered.bind fun _ => Costs.read fun session => Costs.pure _

/-- The results of the socket that are enough for what follows the first byte of
a frame. -/
def frameCost (size : Nat) : Nat :=
  13 * callCost 1 + (callCost size + 2 ^ 31 * callCost 1)

theorem costs_receiveFrame (size : Nat) (junk : UInt8) (isFinal : Bool) :
    Costs (receiveFrame size junk isFinal) (frameCost size) sendCost := by
  refine (costs_readHeader junk).reading fun header => ?_
  refine Costs.mono ((costs_readPayload size header).reading fun complete => ?_) (Nat.le_of_eq (Nat.add_zero _))
    (Nat.le_refl _)
  refine Costs.ite (fun _ => costs_finishFrame _ isFinal) fun _ => ?_
  exact (Costs.pure none).mono (Nat.le_refl _) (Nat.zero_le _)

end Frames

/-! ## Whole calls -/

theorem leftover_append (bytes : Bytes) (arrivals more : List Arrival) :
    leftover bytes (arrivals ++ more) = leftover bytes arrivals ++ more := by
  unfold leftover
  split <;> rfl

/-- The results that stay of a script when more are appended. -/
def Session.extended (session : Session) (more : List Arrival) (accepts : List Int) : Session :=
  { session with arrivals := session.arrivals ++ more, accepts }

theorem recv_extended {len : Nat} {start reached : Session} {res : Int × Bytes} (more : List Arrival)
    (accepts : List Int) (ended : recv len start = (.ok res, reached)) :
    recv len (start.extended more accepts) = (.ok res, reached.extended more accepts) := by
  unfold recv Session.extended at *
  cases known : start.arrivals with
  | nil =>
      rw [known] at ended
      cases ended
  | cons arrival arrivals =>
      rw [known] at ended
      cases arrival with
      | failed code =>
          cases ended
          rfl
      | data bytes =>
          cases ended
          simp only [List.cons_append, leftover_append]

/-- What a search for a frame has found does not depend on later results. -/
theorem openFrame_extended {timer : Nat -> Bool} {passes longer pass : Nat} {start opened : Session} {isFinal : Bool}
    (more : List Arrival) (accepts : List Int) (le : passes ≤ longer)
    (ended : openFrame timer passes pass start = (.ok (.frame isFinal), opened)) :
    openFrame timer longer pass (start.extended more accepts) =
      (.ok (.frame isFinal), opened.extended more accepts) := by
  induction passes generalizing longer pass start with
  | zero => cases ended
  | succ passes inductionHypothesis =>
      rcases longer with _ | longer
      · exact absurd le (Nat.not_succ_le_zero _)
      have less := Nat.le_of_succ_le_succ le
      rw [openFrame] at ended ⊢
      by_cases late : timer pass = true
      · rw [if_pos late] at ended
        cases ended
      · rw [if_neg late] at ended ⊢
        rcases received : recv 1 start with ⟨outcome, reached⟩
        cases outcome with
        | error stop =>
            rw [bind_apply_error received] at ended
            cases ended
        | ok res =>
            rw [bind_apply_ok received, bind_apply_ok (rfl : Procedure.read reached = (.ok reached, reached))] at ended
            rw [bind_apply_ok (recv_extended more accepts received), bind_apply_ok (rfl : Procedure.read _ = (.ok _, _))]
            have type : (reached.extended more accepts).messageType = reached.messageType := rfl
            rw [type]
            rcases res with ⟨result, bytes⟩
            cases bytes with
            | cons byte bytes =>
                dsimp only at ended ⊢
                cases known : openingType (byte &&& 0x7f) reached.messageType with
                | some messageType =>
                    rw [known] at ended
                    cases ended
                    rfl
                | none =>
                    rw [known] at ended
                    exact inductionHypothesis less ended
            | nil =>
                dsimp only at ended ⊢
                by_cases failed : result < 0 ∧ result ≠ wouldBlock
                · rw [if_pos failed] at ended
                  have never : Triple (fun _ => True) (openFailed result) _ _ := openFailed_triple result
                  cases never.value trivial ended
                · rw [if_neg failed] at ended ⊢
                  exact inductionHypothesis less ended

theorem patience_le_append (before more : List Arrival) : patience before ≤ patience (before ++ more) := by
  unfold patience
  rw [List.map_append, List.sum_append]
  omega

/-- The first results of an endless sequence. -/
def script {Answer : Type} (results : Nat -> Answer) (calls : Nat) : List Answer :=
  (List.range calls).map results

theorem script_supplied {Answer : Type} {zero : Answer} {results : Nat -> Answer} {calls : Nat}
    (nonzero : forall call, call < calls -> results call ≠ zero) : Supplied zero calls (script results calls) := by
  refine ⟨fun member => ?_, by rw [script, List.length_map, List.length_range]⟩
  rcases List.mem_map.mp member with ⟨call, early, same⟩
  exact nonzero call (List.mem_range.mp early) same

section Asking

variable {Value : Type} {procedure : Procedure Session Stop Value} {served : Nat -> Session} {good : Nat -> Prop}
  {bound : Nat}

/-- The call takes the result behind the first `calls`: it has not returned with
fewer.  `served` is the session with so many results. -/
def AsksFor (procedure : Procedure Session Stop Value) (served : Nat -> Session) (calls : Nat) : Prop :=
  forall fewer, fewer ≤ calls -> ¬ Returns procedure (served fewer)

/-- All results that are asked for are good exactly when the call returns within
the number of results that are enough for it, and all of these are good. -/
theorem asked_iff (enough : (forall call, call < bound -> good call) -> Returns procedure (served bound)) :
    (forall calls, AsksFor procedure served calls -> good calls) <->
      exists calls, calls ≤ bound ∧ Returns procedure (served calls) ∧ forall call, call < calls -> good call := by
  classical
  constructor
  · intro asked
    have some : exists calls, Returns procedure (served calls) := by
      by_contra never
      exact never ⟨bound, enough fun call _ => asked call fun fewer _ returns => never ⟨fewer, returns⟩⟩
    have least (call : Nat) (early : call < Nat.find some) : good call :=
      asked call fun fewer le => Nat.find_min some (Nat.lt_of_le_of_lt le early)
    refine ⟨Nat.find some, Nat.le_of_not_lt fun late => ?_, Nat.find_spec some, least⟩
    exact Nat.find_min some late (enough fun call early => least call (Nat.lt_trans early late))
  · rintro ⟨count, _, returns, each⟩ calls asks
    exact each calls (Nat.lt_of_not_le fun le => asks count le returns)

end Asking

/-- What follows the first byte of a frame returns when enough results follow. -/
theorem receive_returns {results : List Arrival} {answers : List Int} {start opened : Session} {memory : Nat -> UInt8}
    {size : Int} {timer : Nat -> Bool} {before : List Arrival} {isFinal : Bool} (junk : UInt8)
    (connected : start.connected = true) (positive : 0 < size)
    (opens : openFrame timer (patience before) 0 { start with buffer := memory, written := [], arrivals := before } =
      (.ok (.frame isFinal), opened)) (begun : .data [] ∉ opened.arrivals)
    (reading : Supplied (.data []) (frameCost size.toNat) results) (writing : Supplied 0 sendCost answers) :
    Returns (receive (some memory) size timer junk)
      { start with arrivals := before ++ results, accepts := answers } := by
  have searched := openFrame_extended results answers (patience_le_append before results) opens
  have fed : Fed (frameCost size.toNat) sendCost (opened.extended results answers) := by
    refine ⟨⟨fun member => ?_, ?_⟩, writing⟩
    · exact (List.mem_append.mp member).elim begun reading.nonzero
    · change _ ≤ (opened.arrivals ++ results).length
      rw [List.length_append]
      exact Nat.le_trans reading.enough (Nat.le_add_left _ _)
  rcases (costs_receiveFrame size.toNat junk isFinal).returns fed with ⟨value, reached, ended⟩
  refine ⟨value, reached, ?_⟩
  unfold receive
  rw [bind_apply_ok (rfl : Procedure.read _ = (.ok _, _)), if_neg (by rw [connected]; decide)]
  dsimp only
  rw [if_neg (by omega), bind_apply_ok (rfl : update _ _ = (.ok (), _))]
  refine (bind_apply_ok searched).trans ?_
  exact ended

/-- A read takes no zero from the socket exactly when it returns within
`callCost` of its results and none of them is zero, and a write likewise.  If
`receive` takes no zero behind the first byte of a frame, it returns. -/
theorem io_returns_iff (results : Nat -> Arrival) (answers : Nat -> Int) (start : Session) :
    (forall into len minLen,
      (forall calls, AsksFor (readBytes into len minLen)
        (fun count => { start with arrivals := script results count }) calls -> results calls ≠ .data []) <->
      exists calls, calls ≤ callCost len ∧
        Returns (readBytes into len minLen) { start with arrivals := script results calls } ∧
        forall call, call < calls -> results call ≠ .data []) ∧
    (forall data,
      (forall calls, AsksFor (write data) (fun count => { start with accepts := script answers count }) calls ->
        answers calls ≠ 0) <->
      exists calls, calls ≤ callCost data.length ∧
        Returns (write data) { start with accepts := script answers calls } ∧
        forall call, call < calls -> answers call ≠ 0) ∧
    (forall memory size timer junk before isFinal opened, start.connected = true -> 0 < size ->
      openFrame timer (patience before) 0 { start with buffer := memory, written := [], arrivals := before } =
        (.ok (.frame isFinal), opened) -> .data [] ∉ opened.arrivals ->
      (forall calls, AsksFor (receive (some memory) size timer junk)
        (fun count => { start with arrivals := before ++ script results count, accepts := script answers count })
        calls -> results calls ≠ .data [] ∧ answers calls ≠ 0) ->
      exists calls, calls ≤ frameCost size.toNat + sendCost ∧ Returns (receive (some memory) size timer junk)
        { start with arrivals := before ++ script results calls, accepts := script answers calls }) := by
  refine ⟨fun into len minLen => asked_iff fun nonzero => ?_, fun data => asked_iff fun nonzero => ?_, ?_⟩
  · have supplied : Supplied (.data []) (callCost len)
        ({ start with arrivals := script results (callCost len) } : Session).arrivals := script_supplied nonzero
    rcases (readBytes_returns into len minLen 0).ends supplied with ⟨value, reached, ended, _⟩
    exact ⟨value, reached, ended⟩
  · have supplied : Supplied 0 (callCost data.length)
        ({ start with accepts := script answers (callCost data.length) } : Session).accepts := script_supplied nonzero
    rcases (write_returns data 0).ends supplied with ⟨value, reached, ended, _⟩
    exact ⟨value, reached, ended⟩
  · intro memory size timer junk before isFinal opened connected positive opens begun asked
    have both := (asked_iff fun nonzero => receive_returns junk connected positive opens begun
      ((script_supplied fun call early => (nonzero call early).1).mono (Nat.le_add_right _ sendCost))
      ((script_supplied fun call early => (nonzero call early).2).mono (Nat.le_add_left _ _))).mp asked
    rcases both with ⟨calls, bounded, returns, _⟩
    exact ⟨calls, bounded, returns⟩

/-- The first byte of a text frame arrives, and every later call fails. -/
theorem io_returns_errors :
    (exists calls, calls ≤ callCost 1 ∧ Returns (readBytes false 1 1)
      { ready 0 with arrivals := script (fun _ => Arrival.failed 0) calls }) ∧
    exists calls, Returns (receive (some fun _ => 0) 8 (fun _ => false) 0)
      { ready 0 with
        arrivals := [.data [0x81]] ++ script (fun _ => Arrival.failed 0) calls
        accepts := script (fun _ => -1) calls } := by
  have each := io_returns_iff (fun _ => Arrival.failed 0) (fun _ => -1) (ready 0)
  rcases (each.1 false 1 1).mp fun _ _ => by decide with ⟨few, bounded, read, _⟩
  rcases each.2.2 (fun _ => 0) 8 (fun _ => false) 0 [.data [0x81]] true
    { ready 0 with buffer := fun _ => 0, arrivals := [], accepts := (ready 0).accepts } rfl (by decide) rfl
    List.not_mem_nil fun _ _ => ⟨by decide, by decide⟩ with ⟨calls, _, returns⟩
  exact ⟨⟨few, bounded, read⟩, calls, returns⟩

theorem readLoop_stuck {passes tries calls : Nat} {start : Session} (soon : tries < 30)
    (zeros : start.arrivals = List.replicate calls (.data [])) :
    ¬ Returns (readLoop false 1 1 passes tries []) start := by
  induction passes generalizing tries calls start with
  | zero => rintro ⟨_, _, impossible⟩; cases impossible
  | succ passes inductionHypothesis =>
      rintro ⟨value, reached, ended⟩
      rw [readLoop, if_pos soon] at ended
      cases calls with
      | zero =>
          have blocked : recv (1 - ([] : Bytes).length) start = (.error .blocked, start) := by
            unfold recv
            rw [zeros]
            rfl
          rw [bind_apply_error blocked] at ended
          cases ended
      | succ calls =>
          have nothing : recv (1 - ([] : Bytes).length) start =
              (.ok (0, []), { start with arrivals := List.replicate calls (.data []) }) := by
            unfold recv
            rw [zeros]
            rfl
          rw [bind_apply_ok nothing] at ended
          exact inductionHypothesis (by decide) rfl ⟨value, reached, ended⟩

theorem writeLoop_stuck {passes tries calls : Nat} {start : Session} (soon : tries < 30)
    (zeros : start.accepts = List.replicate calls 0) : ¬ Returns (writeLoop [0x2a] passes tries 0) start := by
  induction passes generalizing tries calls start with
  | zero => rintro ⟨_, _, impossible⟩; cases impossible
  | succ passes inductionHypothesis =>
      rintro ⟨value, reached, ended⟩
      rw [writeLoop, if_pos soon] at ended
      cases calls with
      | zero =>
          have blocked : tcpSend (([0x2a] : Bytes).drop 0) start = (.error .blocked, start) := by
            unfold tcpSend
            rw [zeros]
            rfl
          rw [bind_apply_error blocked] at ended
          cases ended
      | succ calls =>
          have nothing : tcpSend (([0x2a] : Bytes).drop 0) start =
              (.ok 0, { start with accepts := List.replicate calls 0, sent := start.sent ++ [] }) := by
            unfold tcpSend
            rw [zeros]
            rfl
          rw [bind_apply_ok nothing] at ended
          exact inductionHypothesis (by decide) rfl ⟨value, reached, ended⟩

theorem script_const {Answer : Type} (answer : Answer) (calls : Nat) :
    script (fun _ => answer) calls = List.replicate calls answer := by
  rw [script, List.map_const', List.length_range]

/-- On a socket that returns zero for ever, as on a connection that the other side
has closed, a read of one byte and a write of one byte do not return. -/
theorem zero_results_never_return :
    (forall calls, ¬ Returns (readBytes false 1 1)
      { ready 0 with arrivals := script (fun _ => Arrival.data []) calls }) ∧
    (forall calls, ¬ Returns (write [0x2a]) { ready 0 with accepts := script (fun _ => 0) calls }) :=
  ⟨fun calls => readLoop_stuck (by decide) (script_const _ calls),
    fun calls => writeLoop_stuck (by decide) (script_const _ calls)⟩

end WebSocket
end DevKit

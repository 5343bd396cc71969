import DevKit.Ota.Receiving

namespace DevKit
namespace Ota

/-!
# The receiving loop

Between two passes of the loop of `OTAStagingWritePackage` the stage is a
function of the bytes received so far, `Stage.after`.  A pass moves some bytes
of the chunk over to the received ones, and never none; so the loop ends, and
the whole call takes the stage after `got` to the stage after `got ++ data`.
-/

open Procedure

variable {World : Type} {platform : Platform World} {Kept : World -> List Event -> Prop}
  {terms : Terms World} {finishing : Bool} {stage : Stage} {rest : Bytes} {got data : Bytes}

variable (law : Law platform Kept) (callbacks : CallbacksKeep Kept terms.admission terms.cancellation)

/-! ## Changing the stage -/

/-- Once the vector table is complete, more bytes change no buffer. -/
theorem sessionAt_append (more : Bytes) (full : 392 ≤ stage.stream.length) (state : OTAStagingState)
    (error : OTAStagingError) :
    sessionAt terms stage state error =
      sessionAt terms { stage with stream := stage.stream ++ more } state error := by
  have count : min 8 ((stage.stream ++ more).length - 384) = min 8 (stage.stream.length - 384) := by
    rw [List.length_append]
    omega
  simp only [sessionAt, Stage.header, count]
  rw [Buffer.window_append_of_full 0 stage.stream more (by omega),
    Buffer.window_append_of_full 320 stage.stream more (by omega),
    Buffer.window_append_of_full 384 stage.stream more (by omega)]

theorem Stage.limit_append (stream more : Bytes) (full : 320 ≤ stream.length) :
    (headerPayloadSize (Buffer.window 320 0 (stream ++ more)).bytes).toNat =
      (headerPayloadSize (Buffer.window 320 0 stream).bytes).toNat := by
  rw [Buffer.window_append_of_full 0 stream more (by omega)]

/-- Bytes of the chunk become part of the stream. -/
theorem Recorded.received {sizeMax : Nat} {parameters : SessionParameters} {more pending : Bytes}
    {log : List Event} (count : Nat) (recorded : Recorded sizeMax parameters stage pending log)
    (split : pending = more ++ rest) (headed : stage.checked = true -> 320 ≤ stage.stream.length) :
    Recorded sizeMax parameters { stage with stream := stage.stream ++ more, received := count } rest log := by
  refine ⟨{ recorded.stream with stream := ?_ }, { recorded.flash with planned := fun checked => ?_ },
    { recorded.readBack with }⟩
  · rw [recorded.stream.stream, split, List.append_assoc]
  · have limit := Stage.limit_append stage.stream more (headed checked)
    have planned := recorded.flash.planned checked
    rw [Stage.limit, Stage.header, ← limit] at planned
    exact planned

/-- Count bytes that were already written as part of the stream. -/
theorem Streaming.consume {more : Bytes} {system : System World}
    (streaming : Streaming platform Kept terms finishing stage (more ++ rest) system)
    (full : 392 ≤ stage.stream.length) :
    Streaming platform Kept terms finishing { stage with stream := stage.stream ++ more } rest system :=
  streaming.restage (sessionAt_append more full)
    (streaming.recorded.received stage.received rfl (fun _ => by omega))

/-! ## The stage after some bytes -/

theorem Stage.after_of_short (short : got.length < 384) :
    Stage.after got = ⟨got, got.length, false, false, false, false, 0, false, [], [], [], 0⟩ := by
  have notDecoded : ¬ 384 ≤ got.length := by omega
  have notChecked : ¬ 392 ≤ got.length := by omega
  simp only [Stage.after, notDecoded, notChecked, decide_false, if_false]

theorem Stage.after_of_pending (decoded : 384 ≤ got.length) (short : got.length < 392) :
    Stage.after got = ⟨got, got.length, true, true, true, false, 0, false, [], [], [], 0⟩ := by
  have notChecked : ¬ 392 ≤ got.length := by omega
  simp only [Stage.after, decoded, notChecked, decide_false, decide_true, if_false]

theorem Stage.after_of_started (full : 392 ≤ got.length) :
    Stage.after got = ⟨got, got.length, true, true, true, true,
      (headerPayloadSize (Buffer.window 320 0 got).bytes).toNat, true, got.drop 384, got.drop 384, [], 0⟩ := by
  have decoded : 384 ≤ got.length := by omega
  simp only [Stage.after, decoded, full, decide_true, if_true]

theorem Streaming.stream_eq {system : System World}
    (streaming : Streaming platform Kept terms finishing (Stage.after got) [] system) :
    streamed (sessionLog system.log) = got := by
  rw [streaming.recorded.stream.stream, List.append_nil]
  rfl

/-- An authenticated package has exactly the declared size. -/
theorem Streaming.exact {system : System World}
    (streaming : Streaming platform Kept terms finishing (Stage.after got) rest system)
    (long : 384 ≤ got.length) :
    HeaderAccepted platform.sizeMax terms.parameters (Stage.after got).header.bytes := by
  have authenticated : (Stage.after got).authenticated = true := decide_eq_true long
  have decoded := (streaming.recorded.stream.authenticated authenticated).toDecoded.accepted
  rw [← streaming.recorded.stream.header (by change 320 ≤ got.length; omega)] at decoded
  exact decodeHeader_ok_iff.mp decoded

/-! ## Payload bytes -/

include law callbacks in
/-- Behind the vector table, payload bytes go straight to Flash. -/
theorem continuePayload_triple (full : 392 ≤ got.length)
    (within : got.length + data.length ≤ (Stage.after got).limit + 384) :
    Advances platform Kept terms (Stage.after got) (data ++ rest) (writePayload platform data)
      { Stage.after (got ++ data) with received := got.length } rest := by
  have before : Stage.after got = (Stage.after got).wrote (got.drop 384) := by
    rw [Stage.after_of_started full]
    rfl
  have after : { Stage.after (got ++ data) with received := got.length } =
      { (Stage.after got).wrote (got.drop 384 ++ data) with stream := got ++ data } := by
    rw [Stage.after_of_started full, Stage.after_of_started (by rw [List.length_append]; omega),
      Stage.limit_append got data (by omega), List.drop_append_of_le_length (by omega)]
    rfl
  have written : Advances platform Kept terms ((Stage.after got).wrote (got.drop 384)) (data ++ rest)
      (writePayload platform data) ((Stage.after got).wrote (got.drop 384 ++ data)) (data ++ rest) := by
    apply writePayload_triple (Stage.after got) law callbacks full (decide_eq_true full) (if_pos full)
    rw [List.length_drop]
    omega
  rw [← before] at written
  rw [after]
  refine written.weaken (fun _ holds => holds) (fun _ system streaming => ?_) (fun _ _ holds => holds)
  exact streaming.consume full

include law callbacks in
/-- The bytes that complete the vector table, and the payload behind them. -/
theorem completePayload_triple {head tail : Bytes} (long : 384 ≤ got.length)
    (pending : got.length < 392) (complete : got.length + head.length = 392)
    (within : 8 + tail.length ≤ (Stage.after got).limit) :
    Advances platform Kept terms { Stage.after got with stream := got ++ head } (tail ++ rest)
      (do
        startPayload platform
        writePayload platform tail)
      { Stage.after (got ++ (head ++ tail)) with received := got.length } rest := by
  have full : (got ++ head).length = 392 := by
    rw [List.length_append]
    exact complete
  have limit : ({ Stage.after got with stream := got ++ head } : Stage).limit = (Stage.after got).limit :=
    Stage.limit_append got head (by omega)
  have vectors : (Buffer.window 8 384 (got ++ head)).bytes = (got ++ head).drop 384 := by
    rw [Buffer.window_bytes_of_full 384 _ (by omega), slice, List.take_of_length_le]
    rw [List.length_drop]
    omega
  have short : Stage.after got = ⟨got, got.length, true, true, true, false, 0, false, [], [], [], 0⟩ :=
    Stage.after_of_pending long pending
  have started : Advances platform Kept terms { Stage.after got with stream := got ++ head } (tail ++ rest)
      (startPayload platform) (Stage.wrote (Stage.opened { Stage.after got with stream := got ++ head })
        (Buffer.window 8 384 (got ++ head)).bytes) (tail ++ rest) := by
    apply startPayload_triple law callbacks
    · exact Nat.le_of_eq full.symm
    · rw [short]
    · rw [short]
    · rw [short]
    · rw [short]
    · rw [short]
    · rw [limit]
      omega
  have written : Advances platform Kept terms
      (Stage.wrote (Stage.opened { Stage.after got with stream := got ++ head }) ((got ++ head).drop 384))
      (tail ++ rest) (writePayload platform tail)
      (Stage.wrote (Stage.opened { Stage.after got with stream := got ++ head })
        ((got ++ head).drop 384 ++ tail)) (tail ++ rest) := by
    apply writePayload_triple (Stage.opened { Stage.after got with stream := got ++ head }) law callbacks
      (Nat.le_of_eq full.symm) rfl rfl
    change _ ≤ ({ Stage.after got with stream := got ++ head } : Stage).limit
    rw [limit, List.length_drop, full]
    exact within
  have after : { Stage.after (got ++ (head ++ tail)) with received := got.length } =
      { Stage.wrote (Stage.opened { Stage.after got with stream := got ++ head })
        ((got ++ head).drop 384 ++ tail) with stream := got ++ head ++ tail } := by
    rw [← List.append_assoc, Stage.after_of_started (by rw [List.length_append]; omega),
      Stage.limit_append (got ++ head) tail (by omega), List.drop_append_of_le_length (by omega), short]
    rfl
  rw [vectors] at started
  rw [after]
  refine Triple.bind started (fun _ => ?_)
  refine written.weaken (fun _ holds => holds) (fun _ system streaming => ?_) (fun _ _ holds => holds)
  exact streaming.consume (Nat.le_of_eq full.symm)

/-- Copy the next bytes of the vector table. -/
theorem fillVectors_triple {head tail : Bytes} (long : 384 ≤ got.length)
    (fits : got.length + head.length ≤ 392) :
    Advances platform Kept terms (Stage.after got) (head ++ (tail ++ rest))
      (updateSession fun session => { session with
        vectors := session.vectors.memcpy session.vectorsSize head
        vectorsSize := session.vectorsSize + head.length })
      { Stage.after got with stream := got ++ head } (tail ++ rest) := by
  refine assign_triple (fun state error => ?_) (fun log recorded => ?_)
  · have filled : min 8 (got.length - 384) = got.length - 384 := by omega
    have count : got.length - 384 + head.length = min 8 ((got ++ head).length - 384) := by
      rw [List.length_append]
      omega
    have vectors : (Buffer.window 8 384 got).memcpy (got.length - 384) head = Buffer.window 8 384 (got ++ head) :=
      Buffer.memcpy_window 384 got head long (by omega)
    have header : Buffer.window 320 0 (got ++ head) = Buffer.window 320 0 got :=
      Buffer.window_append_of_full 0 got head (by omega)
    have signature : Buffer.window 64 320 (got ++ head) = Buffer.window 64 320 got :=
      Buffer.window_append_of_full 320 got head (by omega)
    simp only [sessionAt, Stage.after, Stage.header]
    rw [filled, vectors, header, signature, count]
  · exact recorded.received got.length rfl (fun _ => Nat.le_trans (by decide) long)

include law callbacks in
theorem acceptPayload_triple (long : 384 ≤ got.length)
    (within : got.length + data.length ≤ (Stage.after got).limit + 384) :
    Advances platform Kept terms (Stage.after got) (data ++ rest) (acceptPayload platform data)
      { Stage.after (got ++ data) with received := got.length } rest := by
  apply currentSession_triple
  intro current streaming
  rcases streaming.held with ⟨state, error, same, _⟩
  have erased : current.session.erased = decide (392 ≤ got.length) := by
    rw [same]
    rfl
  have count : current.session.vectorsSize = min 8 (got.length - 384) := by
    rw [same]
    rfl
  rw [erased, count]
  apply Triple.ite
  · intro full
    exact (continuePayload_triple law callbacks (of_decide_eq_true full) within).start streaming
  · intro unfull
    have pending : got.length < 392 := by
      rw [decide_eq_true_eq] at unfull
      omega
    have filled : min 8 (got.length - 384) = got.length - 384 := by omega
    have copied : (if data.length < 8 - (got.length - 384) then data.length else 8 - (got.length - 384)) =
        (data.take (392 - got.length)).length := by
      rw [List.length_take]
      split <;> omega
    have taken : data.take (data.take (392 - got.length)).length = data.take (392 - got.length) := by
      rw [List.length_take, ← List.take_eq_take_min]
    have left : data.drop (data.take (392 - got.length)).length = data.drop (392 - got.length) := by
      rw [List.length_take, ← List.drop_eq_drop_min]
    have whole : data.take (392 - got.length) ++ data.drop (392 - got.length) = data :=
      List.take_append_drop _ _
    have split : Streaming platform Kept terms false (Stage.after got)
        (data.take (392 - got.length) ++ (data.drop (392 - got.length) ++ rest)) current := by
      rw [← List.append_assoc, whole]
      exact streaming
    have lengths := congrArg List.length whole
    rw [List.length_append] at lengths
    simp only [filled, copied]
    rw [taken, left]
    refine Triple.bind ((fillVectors_triple long ?_).start split) (fun _ => ?_)
    · rw [List.length_take]
      omega
    apply Triple.ite
    · intro short
      apply Triple.pure
      intro system waiting
      rw [List.length_take] at short
      have few : data.length ≤ 392 - got.length := by omega
      rw [List.take_of_length_le few, List.drop_eq_nil_of_le few, List.nil_append] at waiting
      rw [Stage.after_of_pending (by rw [List.length_append]; omega) (by rw [List.length_append]; omega)]
      rw [Stage.after_of_pending long pending] at waiting
      exact waiting
    · intro complete
      have filledUp : got.length + (data.take (392 - got.length)).length = 392 := by
        rw [List.length_take] at complete ⊢
        omega
      have finished : Advances platform Kept terms
          { Stage.after got with stream := got ++ data.take (392 - got.length) }
          (data.drop (392 - got.length) ++ rest)
          (do
            startPayload platform
            writePayload platform (data.drop (392 - got.length)))
          { Stage.after (got ++
            (data.take (392 - got.length) ++ data.drop (392 - got.length))) with received := got.length } rest :=
        completePayload_triple law callbacks long pending filledUp (by omega)
      rw [whole] at finished
      exact finished

/-! ## Passes of the loop -/

/-- What one pass establishes: some bytes have moved over. -/
def Consumed (platform : Platform World) (Kept : World -> List Event -> Prop) (terms : Terms World)
    (got data : Bytes) (left : Bytes) (system : System World) : Prop :=
  exists taken, taken ≠ [] ∧ data = taken ++ left ∧
    Streaming platform Kept terms false (Stage.after (got ++ taken)) left system

theorem take_ne_nil_of_pos {count : Nat} (positive : 0 < count) (nonempty : data ≠ []) :
    data.take count ≠ [] := by
  rw [Ne, List.take_eq_nil_iff, not_or]
  exact ⟨by omega, nonempty⟩

/-- The next bytes of the header. -/
theorem fillHeader_triple {count : Nat} (given : count ≤ data.length) (early : got.length + count ≤ 320) :
    Advances platform Kept terms (Stage.after got) data
      (updateSession fun session => { session with
        header := session.header.memcpy got.length (data.take count)
        status := { session.status with packageReceived := got.length + count } })
      (Stage.after (got ++ data.take count)) (data.drop count) := by
  have total : (got ++ data.take count).length = got.length + count := by
    rw [List.length_append, List.length_take_of_le given]
  rw [Stage.after_of_short (by omega), Stage.after_of_short (by omega), total]
  refine assign_triple (fun state error => ?_) (fun log recorded => ?_)
  · have header : (Buffer.window 320 0 got).memcpy got.length (data.take count) =
        Buffer.window 320 0 (got ++ data.take count) :=
      Buffer.memcpy_window 0 got _ (Nat.zero_le _) (by rw [List.length_take_of_le given]; omega)
    have vectors : min 8 (got.length - 384) = min 8 ((got ++ data.take count).length - 384) := by omega
    simp only [sessionAt, Stage.header]
    rw [header, Buffer.window_of_length_le 320 got (by omega), Buffer.window_of_length_le 384 got (by omega),
      Buffer.window_of_length_le 320 (got ++ data.take count) (by omega),
      Buffer.window_of_length_le 384 (got ++ data.take count) (by omega), vectors]
    simp only [Bool.false_eq_true, if_false]
  · exact recorded.received (got.length + count) (List.take_append_drop _ _).symm
      (fun impossible => absurd impossible Bool.false_ne_true)

/-- The next bytes of the signature.  The header is not validated yet, so the
stage behind them has no check done. -/
theorem fillSignature_triple {count : Nat} (given : count ≤ data.length) (long : 320 ≤ got.length)
    (short : got.length < 384) (early : got.length + count ≤ 384) :
    Advances platform Kept terms (Stage.after got) data
      (updateSession fun session => { session with
        signature := session.signature.memcpy (got.length - 320) (data.take count)
        status := { session.status with packageReceived := got.length + count } })
      ⟨got ++ data.take count, got.length + count, false, false, false, false, 0, false, [], [], [], 0⟩
      (data.drop count) := by
  have total : (got ++ data.take count).length = got.length + count := by
    rw [List.length_append, List.length_take_of_le given]
  rw [Stage.after_of_short short]
  refine assign_triple (fun state error => ?_) (fun log recorded => ?_)
  · have signature : (Buffer.window 64 320 got).memcpy (got.length - 320) (data.take count) =
        Buffer.window 64 320 (got ++ data.take count) :=
      Buffer.memcpy_window 320 got _ long (by rw [List.length_take_of_le given]; omega)
    have vectors : min 8 (got.length - 384) = min 8 ((got ++ data.take count).length - 384) := by omega
    simp only [sessionAt, Stage.header]
    rw [signature, Buffer.window_append_of_full 0 got _ (by omega), Buffer.window_of_length_le 384 got (by omega),
      Buffer.window_of_length_le 384 (got ++ data.take count) (by omega), vectors]
  · exact recorded.received (got.length + count) (List.take_append_drop _ _).symm
      (fun impossible => absurd impossible Bool.false_ne_true)

theorem receiveHeader_triple (nonempty : data ≠ []) (early : got.length < 320) :
    Triple (Streaming platform Kept terms false (Stage.after got) data)
      (do
        updateSession fun session => { session with
          header := session.header.memcpy got.length (data.take (min (320 - got.length) data.length))
          status := { session.status with
            packageReceived := got.length + min (320 - got.length) data.length } }
        pure (data.drop (min (320 - got.length) data.length)))
      (Consumed platform Kept terms got data) (Excused platform Kept terms) := by
  have positive := List.length_pos_of_ne_nil nonempty
  refine (fillHeader_triple (by omega) (by omega)).bind (fun _ => Triple.pure (fun system streaming => ?_))
  exact ⟨_, take_ne_nil_of_pos (by omega) nonempty, (List.take_append_drop _ _).symm, streaming⟩

include law callbacks in
theorem receiveSignature_triple (nonempty : data ≠ [])
    (long : 320 ≤ got.length) (early : got.length < 384) :
    Triple (Streaming platform Kept terms false (Stage.after got) data)
      (do
        updateSession fun session => { session with
          signature := session.signature.memcpy (got.length - 320)
            (data.take (min (384 - got.length) data.length))
          status := { session.status with
            packageReceived := got.length + min (384 - got.length) data.length } }
        if got.length + min (384 - got.length) data.length = 384 then do
          validateHeader platform
          pure (data.drop (min (384 - got.length) data.length))
        else
          pure (data.drop (min (384 - got.length) data.length)))
      (Consumed platform Kept terms got data) (Excused platform Kept terms) := by
  have positive := List.length_pos_of_ne_nil nonempty
  have taken : data.take (min (384 - got.length) data.length) ≠ [] := take_ne_nil_of_pos (by omega) nonempty
  have whole := (List.take_append_drop (min (384 - got.length) data.length) data).symm
  have total : (got ++ data.take (min (384 - got.length) data.length)).length =
      got.length + min (384 - got.length) data.length := by
    rw [List.length_append, List.length_take_of_le (by omega)]
  refine (fillSignature_triple (by omega) long early (by omega)).bind (fun _ => ?_)
  rw [← total]
  apply Triple.ite
  · intro complete
    refine Triple.bind (validateHeader_triple law callbacks (Nat.le_of_eq complete.symm))
      (fun _ => Triple.pure (fun system streaming => ⟨_, taken, whole, ?_⟩))
    rw [Stage.after_of_pending (by omega) (by omega)]
    exact streaming
  · intro incomplete
    refine Triple.pure (fun system streaming => ⟨_, taken, whole, ?_⟩)
    rw [Stage.after_of_short (by omega)]
    exact streaming

include law callbacks in
/-- Payload bytes are accepted whole: the clamp to the remaining payload never
cuts, because the trailing-data check has bounded the chunk. -/
theorem receivePayload_triple (nonempty : data ≠ [])
    (long : 384 ≤ got.length) (within : got.length + data.length ≤ (Stage.after got).limit + 384) :
    Triple (Streaming platform Kept terms false (Stage.after got) data)
      (do
        acceptPayload platform data
        updateSession fun session => { session with
          status := { session.status with
            packageReceived := session.status.packageReceived + data.length } }
        pure ([] : Bytes))
      (Consumed platform Kept terms got data) (Excused platform Kept terms) := by
  have accepted : Advances platform Kept terms (Stage.after got) (data ++ []) (acceptPayload platform data)
      { Stage.after (got ++ data) with received := got.length } [] :=
    acceptPayload_triple law callbacks long within
  rw [List.append_nil] at accepted
  have counted : Advances platform Kept terms { Stage.after (got ++ data) with received := got.length } []
      (updateSession fun session => { session with
        status := { session.status with packageReceived := session.status.packageReceived + data.length } })
      (Stage.after (got ++ data)) [] := by
    refine assign_triple (fun state error => ?_) fun _ recorded =>
      ⟨{ recorded.stream with }, { recorded.flash with }, { recorded.readBack with }⟩
    have total : got.length + data.length = (got ++ data).length := List.length_append.symm
    simp only [sessionAt, total]
    rfl
  refine accepted.bind (fun _ => counted.bind (fun _ => Triple.pure (fun system streaming => ?_)))
  exact ⟨data, nonempty, (List.append_nil data).symm, streaming⟩

include law callbacks in
theorem writeIteration_triple (nonempty : data ≠ [])
    (within : got.length + data.length ≤ terms.packageSize) :
    Triple (Streaming platform Kept terms false (Stage.after got) data) (writeIteration platform data)
      (Consumed platform Kept terms got data) (Excused platform Kept terms) := by
  apply currentSession_triple
  intro current streaming
  rcases streaming.held with ⟨state, error, same, _⟩
  have received : current.session.status.packageReceived = got.length := by
    rw [same]
    rfl
  simp only [received]
  apply Triple.ite
  · intro early
    have copied : (if 320 - got.length > data.length then data.length else 320 - got.length) =
        min (320 - got.length) data.length := by
      split <;> omega
    simp only [copied]
    exact (receiveHeader_triple nonempty early).start streaming
  intro headed
  apply Triple.ite
  · intro early
    have copied : (if 64 - (got.length - 320) > data.length then data.length else 64 - (got.length - 320)) =
        min (384 - got.length) data.length := by
      split <;> omega
    simp only [copied]
    exact (receiveSignature_triple law callbacks nonempty (by omega) early).start streaming
  intro signed
  have long : 384 ≤ got.length := by omega
  have exact := (streaming.exact long).exact
  change (Stage.after got).limit + 384 = terms.packageSize at exact
  have size : current.session.payloadSize.toNat = (Stage.after got).limit := by
    rw [same]
    exact congrArg UInt32.toNat (if_pos (decide_eq_true long))
  have written : current.session.status.payloadWritten ≤ got.length - 384 := by
    rw [same]
    change (Stage.after got).done.length ≤ _
    by_cases full : 392 ≤ got.length
    · rw [Stage.after_of_started full, List.length_drop]
    · rw [Stage.after_of_pending long (by omega)]
      exact Nat.zero_le _
  have accepted : (if data.length < current.session.payloadSize.toNat - current.session.status.payloadWritten
      then data.length else current.session.payloadSize.toNat - current.session.status.payloadWritten) =
      data.length := by
    split <;> omega
  simp only [accepted, List.take_length, List.drop_length]
  exact (receivePayload_triple law callbacks nonempty long (by omega)).start streaming

include law callbacks in
/-- The loop ends within as many passes as there are bytes, and all of them
have been received. -/
theorem writeLoop_triple (iterations : Nat)
    (enough : data.length ≤ iterations) (within : got.length + data.length ≤ terms.packageSize) :
    Triple (Streaming platform Kept terms false (Stage.after got) data) (writeLoop platform iterations data)
      (fun ended system => ended = true ∧
        Streaming platform Kept terms false (Stage.after (got ++ data)) [] system)
      (Excused platform Kept terms) := by
  induction iterations generalizing got data with
  | zero =>
      have empty : data = [] := List.length_eq_zero_iff.mp (Nat.le_zero.mp enough)
      subst empty
      apply Triple.pure
      intro system streaming
      rw [List.append_nil]
      exact ⟨rfl, streaming⟩
  | succ iterations inductionHypothesis =>
      apply Triple.ite
      · intro none
        have empty : data = [] := List.isEmpty_iff.mp none
        subst empty
        apply Triple.pure
        intro system streaming
        rw [List.append_nil]
        exact ⟨rfl, streaming⟩
      · intro some
        have nonempty : data ≠ [] := fun empty => some (List.isEmpty_iff.mpr empty)
        refine Triple.bind (writeIteration_triple law callbacks nonempty within) (fun left => ?_)
        rintro system ⟨taken, positive, rfl, streaming⟩
        have shorter := List.length_pos_of_ne_nil positive
        rw [List.length_append] at enough within
        rw [← List.append_assoc]
        refine inductionHypothesis (by omega) ?_ system streaming
        rw [List.length_append]
        omega

/-! ## The whole call -/

theorem chunk_size_eq {chunk : PackageChunk} (given : ¬ (chunk.size > 0 ∧ chunk = .null chunk.size)) :
    chunk.size = chunk.bytes.length := by
  cases chunk with
  | null size =>
      rcases Nat.eq_zero_or_pos size with empty | positive
      · exact empty
      · exact absurd ⟨positive, rfl⟩ given
  | data bytes => rfl

theorem receiveChunk_triple (chunk : PackageChunk) (law : Law platform Kept)
    (callbacks : CallbacksKeep Kept terms.admission terms.cancellation)
    (bounded : got.length ≤ terms.packageSize) :
    Triple (fun system => Streaming platform Kept terms false (Stage.after got) chunk.bytes system ∧
        lastCall system.log = some (.writePackage chunk))
      (receiveChunk platform chunk)
      (fun ended system => ended = true ∧ (got ++ chunk.bytes).length ≤ terms.packageSize ∧
        Streaming platform Kept terms false (Stage.after (got ++ chunk.bytes)) [] system)
      (Excused platform Kept terms) := by
  apply currentSession_triple
  rintro current ⟨streaming, last⟩
  rcases streaming.held with ⟨state, error, same, _⟩
  have expected : current.session.expectedPackageSize = terms.packageSize := by
    rw [same]
    rfl
  have received : current.session.status.packageReceived = got.length := by
    rw [same]
    rfl
  rw [expected, received]
  apply Triple.guard
  · rintro ⟨positive, null⟩ system rfl
    rw [null] at last
    exact ⟨streaming.sound, .nullChunk chunk.size positive last⟩
  intro given
  rw [chunk_size_eq given]
  apply Triple.guard
  · rintro long system rfl
    refine ⟨streaming.sound, .trailing ?_⟩
    rw [streaming.recorded.stream.stream, List.length_append]
    change terms.packageSize < got.length + _
    omega
  intro fits
  have within : got.length + chunk.bytes.length ≤ terms.packageSize := by omega
  refine Triple.bind ((pollCancellation_triple law callbacks).start streaming) (fun _ => ?_)
  refine (writeLoop_triple law callbacks _ (Nat.le_refl _) within).weaken (fun _ holds => holds) ?_
    (fun _ _ holds => holds)
  rintro ended system ⟨finished, reached⟩
  refine ⟨finished, ?_, reached⟩
  rw [List.length_append]
  exact within

end Ota
end DevKit

import DevKit.Audio.Wave
import DevKit.Foundation.CheckedMemory

namespace DevKit
namespace Audio

/-!
# Recording

A recording is filled by the callback of the audio interface, one chunk of 512 bytes at
a time.  It ends when `stop` is called, or when a chunk does not fit any more; the header
is written then.

Callbacks and calls do not interrupt each other, so that a run is a sequence of both.
Writes are checked: a run that leaves the buffer has no result.
-/

/-- `AUDIO_STATE_TypeDef` -/
inductive AudioState where
  | idle
  | init
  | recording
  | playing
  | recordingFinish
  | playingFinish
deriving Repr, DecidableEq

/-- The static variables of the class.  The cursors are offsets from the buffer. -/
structure Device where
  sampleRate : UInt32
  sampleBitDepth : UInt16
  channels : UInt8
  audioState : AudioState
  audioBuffer : Pointer
  audioBufferSize : Int
  recordCursor : Nat
  playCursor : Nat

namespace Device

/-- `format` -/
def format (device : Device) (sampleRate : UInt32) (sampleBitLength : UInt16) : Device :=
  { device with sampleRate := sampleRate, sampleBitDepth := sampleBitLength, channels := stereo, audioState := .init }

/-- `startRecord(audioBuffer, size)`; there is no callback of the user. -/
def startRecord (device : Device) (audioBuffer : Pointer) (size : Int) : Int × Device :=
  if audioBuffer = none ∨ size < waveHeaderSize then (-1, device)
  else
    (0, { device with
      audioBuffer := audioBuffer
      audioBufferSize := size
      recordCursor := waveHeaderSize
      audioState := .recording })

/-- `getCurrentSize` -/
def getCurrentSize (device : Device) : Int :=
  if (device.audioState = .recording ∨ device.audioState = .recordingFinish) ∧ device.audioBuffer ≠ none then
    device.recordCursor
  else if (device.audioState = .playing ∨ device.audioState = .playingFinish) ∧ device.audioBuffer ≠ none then
    device.playCursor
  else 0

/-- The header that `stop` writes. -/
def header (device : Device) : WaveHeader :=
  genericWAVHeader ((device.recordCursor : Int) - waveHeaderSize) device.sampleRate device.sampleBitDepth device.channels

/-- `stop` -/
def stop (device : Device) : Option Device := do
  let device <-
    if device.audioState = .recording ∧ device.audioBuffer ≠ none then
      (store device.audioBuffer 0 device.header.bytes).map fun buffer => { device with audioBuffer := buffer }
    else some device
  let device := if device.audioState = .recording then { device with audioState := .recordingFinish } else device
  return if device.audioState = .playing then { device with audioState := .playingFinish } else device

/-- `BSP_AUDIO_IN_TransferComplete_CallBack`, with what the transfer has left in
`_record_buffer`. -/
def transferComplete (device : Device) (recordBuffer : Buffer 512) : Option Device :=
  if device.audioState = .recording then
    if device.audioBuffer ≠ none then
      if (device.recordCursor : Int) + audioChunkSize > device.audioBufferSize then device.stop
      else
        (store device.audioBuffer device.recordCursor recordBuffer.bytes).map fun buffer =>
          { device with audioBuffer := buffer, recordCursor := device.recordCursor + audioChunkSize }
    else some device
  else some device

end Device

/-- What happens after the start. -/
inductive Event where
  | transfer (recordBuffer : Buffer 512)
  | stop

def Event.perform (device : Device) : Event -> Option Device
  | .transfer recordBuffer => device.transferComplete recordBuffer
  | .stop => device.stop

/-- A run. -/
def run (device : Device) (events : List Event) : Option Device :=
  events.foldlM Event.perform device

/-- The transfers that are completed before `stop` is called. -/
def completed : List Event -> List (Buffer 512)
  | [] => []
  | .transfer recordBuffer :: events => recordBuffer :: completed events
  | .stop :: _ => []

/-- The number of chunks that fit behind the header. -/
def capacity (size : Nat) : Nat :=
  (size - waveHeaderSize) / audioChunkSize

/-! ## Runs -/

/-- The chunks that have been recorded. -/
def chunks (transfers : List (Buffer 512)) : Bytes :=
  transfers.flatMap Buffer.bytes

theorem chunks_concat (transfers : List (Buffer 512)) (transfer : Buffer 512) :
    chunks (transfers ++ [transfer]) = chunks transfers ++ transfer.bytes := by
  simp [chunks]

theorem length_chunks (transfers : List (Buffer 512)) : (chunks transfers).length = audioChunkSize * transfers.length := by
  induction transfers with
  | nil => rfl
  | cons transfer transfers inductionHypothesis =>
      rw [chunks, List.flatMap_cons, List.length_append, transfer.length_eq, ← chunks, inductionHypothesis,
        List.length_cons, Nat.mul_succ, Nat.add_comm]
      rfl

section Runs

variable {sampleRate : UInt32} {sampleBitLength : UInt16} {buffer front : Bytes} {state : AudioState} {device : Device}
variable {taken : List (Buffer 512)}

/-- The header behind which a number of chunks is recorded. -/
def headerOf (sampleRate : UInt32) (sampleBitLength : UInt16) (count : Nat) : WaveHeader :=
  genericWAVHeader ((audioChunkSize * count : Nat) : Int) sampleRate sampleBitLength stereo

/-- The device has taken some transfers into the buffer; the bytes before them are given. -/
structure Holds (sampleRate : UInt32) (sampleBitLength : UInt16) (buffer front : Bytes) (taken : List (Buffer 512))
    (state : AudioState) (device : Device) : Prop where
  formatted : device.sampleRate = sampleRate ∧ device.sampleBitDepth = sampleBitLength ∧ device.channels = stereo
  state_eq : device.audioState = state
  length_front : front.length = waveHeaderSize
  room : taken.length ≤ capacity buffer.length
  cursor : device.recordCursor = waveHeaderSize + audioChunkSize * taken.length
  size : device.audioBufferSize = buffer.length
  content :
    device.audioBuffer =
      some (front ++ chunks taken ++ buffer.drop (waveHeaderSize + audioChunkSize * taken.length))

/-- The chunks end inside the buffer. -/
theorem fits_iff (large : waveHeaderSize ≤ buffer.length) {count : Nat} :
    waveHeaderSize + audioChunkSize * count ≤ buffer.length <-> count ≤ capacity buffer.length := by
  rw [capacity, Nat.le_div_iff_mul_le (by decide), Nat.mul_comm]
  omega

namespace Holds

theorem length_written (holds : Holds sampleRate sampleBitLength buffer front taken state device) :
    (front ++ chunks taken).length = device.recordCursor := by
  rw [List.length_append, holds.length_front, length_chunks, holds.cursor]

/-- The end of a recording writes the header. -/
theorem stop (holds : Holds sampleRate sampleBitLength buffer front taken .recording device) :
    exists reached, device.stop = some reached ∧
      Holds sampleRate sampleBitLength buffer (headerOf sampleRate sampleBitLength taken.length).bytes taken
        .recordingFinish reached := by
  have header : device.header = headerOf sampleRate sampleBitLength taken.length := by
    have data : (device.recordCursor : Int) - waveHeaderSize = ((audioChunkSize * taken.length : Nat) : Int) := by
      rw [holds.cursor]
      omega
    rw [Device.header, data, holds.formatted.1, holds.formatted.2.1, holds.formatted.2.2, headerOf]
  have length : (headerOf sampleRate sampleBitLength taken.length).bytes.length = front.length := by
    rw [WaveHeader.length_bytes, holds.length_front]
  have stored : store device.audioBuffer 0 device.header.bytes =
      some (some ((headerOf sampleRate sampleBitLength taken.length).bytes ++ chunks taken ++
        buffer.drop (waveHeaderSize + audioChunkSize * taken.length))) := by
    rw [header, holds.content, store_some, splice_zero, length, List.append_assoc, List.drop_left, List.append_assoc]
    simp only [List.length_append, length]
    omega
  have recording : device.audioState = .recording ∧ device.audioBuffer ≠ none :=
    ⟨holds.state_eq, by simp [holds.content]⟩
  refine ⟨_, by rw [Device.stop, if_pos recording, stored]; rfl, ?_⟩
  simp only [holds.state_eq, if_true, reduceCtorEq, if_false]
  exact {
    holds with
    state_eq := rfl
    length_front := WaveHeader.length_bytes _
    content := rfl }

/-- A transfer that fits is taken. -/
theorem take (holds : Holds sampleRate sampleBitLength buffer front taken .recording device)
    (large : waveHeaderSize ≤ buffer.length) (room : taken.length < capacity buffer.length) (transfer : Buffer 512) :
    exists reached, device.transferComplete transfer = some reached ∧
      Holds sampleRate sampleBitLength buffer front (taken ++ [transfer]) .recording reached := by
  have inside := (fits_iff large).mpr room
  have chunk : transfer.bytes.length = audioChunkSize := transfer.length_eq
  have stored : store device.audioBuffer device.recordCursor transfer.bytes =
      some (some (front ++ chunks taken ++ (transfer.bytes ++
        (buffer.drop (waveHeaderSize + audioChunkSize * taken.length)).drop transfer.bytes.length))) := by
    rw [holds.content, ← holds.length_written, store_some, splice_append]
    simp only [List.length_append, List.length_drop, length_chunks, chunk, holds.length_front]
    rw [Nat.mul_succ] at inside
    omega
  have fits : ¬ (device.recordCursor : Int) + audioChunkSize > device.audioBufferSize := by
    rw [holds.cursor, holds.size]
    rw [Nat.mul_succ] at inside
    omega
  refine ⟨_, by
    rw [Device.transferComplete, if_pos holds.state_eq, if_pos (by simp [holds.content]), if_neg fits, stored]
    rfl, ?_⟩
  have one : (taken ++ [transfer]).length = taken.length + 1 := List.length_append
  exact {
    formatted := holds.formatted
    state_eq := holds.state_eq
    length_front := holds.length_front
    room := Nat.le_trans (Nat.le_of_eq one) room
    cursor := by
      change device.recordCursor + audioChunkSize = _
      rw [holds.cursor, one, Nat.mul_succ, Nat.add_assoc]
    size := holds.size
    content := by
      change some _ = some _
      rw [one, Nat.mul_succ, ← Nat.add_assoc, chunk, List.drop_drop, chunks_concat, ← List.append_assoc,
        ← List.append_assoc] }

/-- A transfer that does not fit ends the recording. -/
theorem full (holds : Holds sampleRate sampleBitLength buffer front taken .recording device)
    (large : waveHeaderSize ≤ buffer.length) (full : capacity buffer.length ≤ taken.length) (transfer : Buffer 512) :
    device.transferComplete transfer = device.stop := by
  have outside : ¬ waveHeaderSize + audioChunkSize * (taken.length + 1) ≤ buffer.length := by
    rw [fits_iff large]
    omega
  have beyond : (device.recordCursor : Int) + audioChunkSize > device.audioBufferSize := by
    rw [holds.cursor, holds.size]
    rw [Nat.mul_succ] at outside
    omega
  rw [Device.transferComplete, if_pos holds.state_eq, if_pos (by simp [holds.content]), if_pos beyond]

/-- Nothing happens to a finished recording. -/
theorem run_finished (holds : Holds sampleRate sampleBitLength buffer front taken .recordingFinish device)
    (events : List Event) : run device events = some device := by
  induction events with
  | nil => rfl
  | cons event events inductionHypothesis =>
      have same : event.perform device = some device := by
        cases event with
        | transfer recordBuffer => simp [Event.perform, Device.transferComplete, holds.state_eq]
        | stop => simp [Event.perform, Device.stop, holds.state_eq]
      rw [run, List.foldlM_cons, same]
      exact inductionHypothesis

end Holds

/-- The recording has ended: somebody has stopped it, or it was full. -/
def Ended (size : Nat) (taken : List (Buffer 512)) (events : List Event) : Prop :=
  Event.stop ∈ events ∨ capacity size < (taken ++ completed events).length

/-- What a run reaches. -/
structure Reached (sampleRate : UInt32) (sampleBitLength : UInt16) (buffer front : Bytes) (taken : List (Buffer 512))
    (events : List Event) (device : Device) : Prop where
  still :
    ¬ Ended buffer.length taken events ->
      Holds sampleRate sampleBitLength buffer front (taken ++ completed events) .recording device
  ended :
    Ended buffer.length taken events ->
      Holds sampleRate sampleBitLength buffer
        (headerOf sampleRate sampleBitLength ((taken ++ completed events).take (capacity buffer.length)).length).bytes
        ((taken ++ completed events).take (capacity buffer.length)) .recordingFinish device

/-- The recording ends with an event. -/
theorem Holds.closing (holds : Holds sampleRate sampleBitLength buffer front taken .recording device) {event : Event}
    {events : List Event} (stops : event.perform device = device.stop)
    (ended : Ended buffer.length taken (event :: events))
    (all : (taken ++ completed (event :: events)).take (capacity buffer.length) = taken) :
    exists reached, Audio.run device (event :: events) = some reached ∧
      Reached sampleRate sampleBitLength buffer front taken (event :: events) reached := by
  rcases holds.stop with ⟨reached, stopped, finished⟩
  refine ⟨reached, ?_, fun still => absurd ended still, fun _ => ?_⟩
  · rw [Audio.run, List.foldlM_cons, stops, stopped]
    exact finished.run_finished events
  · rw [all]
    exact finished

theorem Holds.run (large : waveHeaderSize ≤ buffer.length) (events : List Event)
    (holds : Holds sampleRate sampleBitLength buffer front taken .recording device) :
    exists reached, Audio.run device events = some reached ∧
      Reached sampleRate sampleBitLength buffer front taken events reached := by
  induction events generalizing taken device with
  | nil =>
      refine ⟨device, rfl, fun _ => ?_, fun ended => ?_⟩
      · rw [completed, List.append_nil]
        exact holds
      · rcases ended with impossible | more
        · cases impossible
        · rw [completed, List.append_nil] at more
          exact absurd holds.room (Nat.not_le.mpr more)
  | cons event events inductionHypothesis =>
      cases event with
      | stop =>
          apply holds.closing
          · rfl
          · exact Or.inl List.mem_cons_self
          · rw [completed, List.append_nil, List.take_of_length_le holds.room]
      | transfer transfer =>
          by_cases room : taken.length < capacity buffer.length
          · rcases holds.take large room transfer with ⟨next, taking, after⟩
            rcases inductionHypothesis after with ⟨reached, runs, still, ended⟩
            have same : taken ++ completed (.transfer transfer :: events) = taken ++ [transfer] ++ completed events := by
              rw [completed, List.append_assoc, List.singleton_append]
            have ending : Ended buffer.length taken (.transfer transfer :: events) <->
                Ended buffer.length (taken ++ [transfer]) events := by
              rw [Ended, Ended, same, List.mem_cons]
              simp
            refine ⟨reached, ?_, ?_, ?_⟩
            · rw [Audio.run, List.foldlM_cons, Event.perform, taking]
              exact runs
            · rw [same, ending]
              exact still
            · rw [same, ending]
              exact ended
          · have full : taken.length = capacity buffer.length := by
              have most := holds.room
              omega
            apply holds.closing
            · exact holds.full large (Nat.le_of_eq full.symm) transfer
            · refine Or.inr ?_
              rw [List.length_append, completed, List.length_cons]
              omega
            · rw [← full, List.take_left]

end Runs

/-! ## The recording -/

/-- What should be known of a device after a run on a buffer, when a number of transfers has been recorded. -/
structure Recorded (sampleRate : UInt32) (sampleBitLength : UInt16) (buffer : Bytes) (events : List Event)
    (count : Nat) (device : Device) (region : Bytes) : Prop where
  buffer_eq : device.audioBuffer = some region
  length_eq : region.length = buffer.length
  currentSize : device.getCurrentSize = ((waveHeaderSize + audioChunkSize * count : Nat) : Int)
  data : slice region waveHeaderSize (audioChunkSize * count) = chunks ((completed events).take count)
  untouched :
    region.drop (waveHeaderSize + audioChunkSize * count) = buffer.drop (waveHeaderSize + audioChunkSize * count)
  /-- It has ended when somebody has stopped it, or at the first transfer that does not fit. -/
  finished :
    device.audioState = .recordingFinish <->
      Event.stop ∈ events ∨ capacity buffer.length < (completed events).length
  unfinished :
    device.audioState ≠ .recordingFinish ->
      device.audioState = .recording ∧ region.take waveHeaderSize = buffer.take waveHeaderSize
  header :
    device.audioState = .recordingFinish ->
      exists hdr : WaveHeader, region.take waveHeaderSize = hdr.bytes ∧
        Describes hdr 2 sampleBitLength.toNat sampleRate.toNat (audioChunkSize * count)

section Recorded

variable {sampleRate : UInt32} {sampleBitLength : UInt16} {buffer front : Bytes} {state : AudioState} {device : Device}
variable {events : List Event}

/-- What is in the buffer. -/
theorem Holds.recorded {count : Nat}
    (holds : Holds sampleRate sampleBitLength buffer front ((completed events).take count) state device)
    (large : waveHeaderSize ≤ buffer.length) (length : ((completed events).take count).length = count)
    (finish : state = .recordingFinish <-> Event.stop ∈ events ∨ capacity buffer.length < (completed events).length)
    (known : state = .recordingFinish ∧ front = (headerOf sampleRate sampleBitLength count).bytes ∨
      state = .recording ∧ front = buffer.take waveHeaderSize) (small : buffer.length < 2 ^ 31) :
    exists region, Recorded sampleRate sampleBitLength buffer events count device region := by
  have inside := (fits_iff large).mpr (length ▸ holds.room)
  have written : (front ++ chunks ((completed events).take count)).length = waveHeaderSize + audioChunkSize * count := by
    rw [List.length_append, length_chunks, holds.length_front, length]
  have content := holds.content
  rw [length] at content
  refine ⟨_, {
    buffer_eq := content
    length_eq := ?_
    currentSize := ?_
    data := ?_
    untouched := ?_
    finished := by rw [holds.state_eq]; exact finish
    unfinished := ?_
    header := ?_ }⟩
  · rw [List.length_append, written, List.length_drop]
    omega
  · have recorded : device.audioState = .recording ∨ device.audioState = .recordingFinish := by
      rw [holds.state_eq]
      exact known.elim (fun finished => Or.inr finished.1) fun still => Or.inl still.1
    rw [Device.getCurrentSize, if_pos ⟨recorded, by simp [content]⟩, holds.cursor, length]
  · rw [slice, List.append_assoc, ← holds.length_front, List.drop_left, List.take_append_of_le_length,
      List.take_of_length_le]
    all_goals
      rw [length_chunks, length]
  · rw [← written, List.drop_left]
  · intro different
    rw [holds.state_eq] at different ⊢
    rcases known with ⟨finished, -⟩ | ⟨recording, same⟩
    · exact absurd finished different
    · refine ⟨recording, ?_⟩
      rw [same, List.append_assoc, List.take_append_of_le_length, List.take_take, Nat.min_self]
      rw [← same, holds.length_front]
  · intro finished
    rw [holds.state_eq] at finished
    rcases known with ⟨-, same⟩ | ⟨recording, -⟩
    · refine ⟨headerOf sampleRate sampleBitLength count, ?_, ?_⟩
      · rw [List.append_assoc, ← holds.length_front, List.take_left, same]
      · have few : audioChunkSize * count < 2 ^ 31 := by omega
        exact genericWAVHeader_describes few sampleRate sampleBitLength (by decide)
    · rw [recording] at finished
      cases finished

/-- A recording is the longest prefix of the transfers that fits. -/
theorem recording_takes_fitting_prefix (device : Device) (sampleRate : UInt32) (sampleBitLength : UInt16)
    (buffer : Bytes) (large : waveHeaderSize ≤ buffer.length) (small : buffer.length < 2 ^ 31) (events : List Event) :
    exists reached region,
      run ((device.format sampleRate sampleBitLength).startRecord (some buffer) buffer.length).2 events =
          some reached ∧
        Recorded sampleRate sampleBitLength buffer events
          (min (completed events).length (capacity buffer.length)) reached region := by
  have started : Holds sampleRate sampleBitLength buffer (buffer.take waveHeaderSize) [] .recording
      ((device.format sampleRate sampleBitLength).startRecord (some buffer) buffer.length).2 := by
    rw [Device.startRecord, if_neg (by simp; omega)]
    exact {
      formatted := ⟨rfl, rfl, rfl⟩
      state_eq := rfl
      length_front := List.length_take_of_le large
      room := Nat.zero_le _
      cursor := rfl
      size := rfl
      content := by
        change some _ = some _
        rw [chunks, List.flatMap_nil, List.append_nil, List.length_nil, Nat.mul_zero, Nat.add_zero,
          List.take_append_drop] }
  rcases started.run large events with ⟨reached, runs, still, ended⟩
  rw [List.nil_append] at still ended
  by_cases done : Ended buffer.length [] events
  · have holds := ended done
    rw [List.take_eq_take_min, Nat.min_comm] at holds
    have recorded := holds.recorded large (by rw [List.length_take]; omega) (iff_of_true rfl done)
      (Or.inl ⟨rfl, by rw [List.length_take]; congr 2; omega⟩) small
    rcases recorded with ⟨region, recorded⟩
    exact ⟨reached, region, runs, recorded⟩
  · have fits : (completed events).length ≤ capacity buffer.length := by
      by_contra more
      exact done (Or.inr (Nat.not_le.mp more))
    have holds := still done
    rw [Nat.min_eq_left fits]
    have whole : (completed events).take (completed events).length = completed events := List.take_length
    rw [← whole] at holds
    have recorded := holds.recorded large (by rw [List.length_take, Nat.min_self])
      (iff_of_false (by decide) done) (Or.inr ⟨rfl, rfl⟩) small
    rcases recorded with ⟨region, recorded⟩
    exact ⟨reached, region, runs, recorded⟩

/-- Of three transfers, one fits into 600 bytes. -/
theorem recording_takes_fitting_prefix_600 :
    exists reached region,
      run (((Device.mk 0 0 0 .idle none 0 0 0).format 8000 16).startRecord (some (List.replicate 600 0)) 600).2
          [.transfer (Buffer.fill 512 [1]), .transfer (Buffer.fill 512 [2]), .transfer (Buffer.fill 512 [3])] =
          some reached ∧
        Recorded 8000 16 (List.replicate 600 0)
          [.transfer (Buffer.fill 512 [1]), .transfer (Buffer.fill 512 [2]), .transfer (Buffer.fill 512 [3])] 1
          reached region := by
  have length : (List.replicate 600 (0 : UInt8)).length = 600 := List.length_replicate
  have general := recording_takes_fitting_prefix (Device.mk 0 0 0 .idle none 0 0 0) 8000 16 (List.replicate 600 0)
    (by rw [length]; decide) (by rw [length]; decide)
    [.transfer (Buffer.fill 512 [1]), .transfer (Buffer.fill 512 [2]), .transfer (Buffer.fill 512 [3])]
  rw [length] at general
  exact general

end Recorded

end Audio
end DevKit

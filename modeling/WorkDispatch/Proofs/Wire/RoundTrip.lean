import WorkDispatch.Proofs.Wire.Parts
import WorkDispatch.Wire.Protocol

/-!
# Messages are read as they were written

Every message of the protocol is `Lossless`: its parts, one for each field that it declares, make up
the whole of it. `Kind` names the types of message.

`decode_padded` says that a message of any type is read back as it was written, whatever fields that
the type does not declare lie between its own, and in whatever order its maps are written. The bytes
of one message are fewer than 64 bits can count; nothing else limits the values.
-/

set_option autoImplicit false

namespace WorkDispatch.Wire

/-! ## The messages of the protocol -/

theorem lossless_timestamp : Lossless Timestamp 2 where
  room := by decide
  reads _ m := by
    obtain ⟨seconds, nanos⟩ := m
    exact (Reads.nil.part
      (.int64 seconds (Timestamp.mk · 0) fun _ => rfl)).part
      (.int32 nanos (Timestamp.mk seconds ·) fun _ => rfl)
  passed _ m f hf := by
    simp only [Message.merge]
    split
    all_goals first | omega | rfl

theorem lossless_registerRequest : Lossless RegisterRequest 5 where
  room := by decide
  reads depth m := by
    obtain ⟨workerId, name, capabilities, version, metadata⟩ := m
    exact ((((Reads.nil.part
      (.string workerId (RegisterRequest.mk · "" [] "" .empty) fun _ => rfl)).part
      (.string name (RegisterRequest.mk workerId · [] "" .empty) fun _ => rfl)).part
      (.packed capabilities (RegisterRequest.mk workerId name · "" .empty) fun _ => rfl)).part
      (.string version (RegisterRequest.mk workerId name capabilities · .empty) fun _ => rfl)).part
      (.labels depth metadata
        (RegisterRequest.mk workerId name capabilities version ·) fun _ _ => rfl)
  passed _ m f hf := by
    simp only [Message.merge]
    split
    all_goals first | omega | rfl

theorem lossless_registerResponse : Lossless RegisterResponse 4 where
  room := by decide
  reads _ m := by
    obtain ⟨success, message, token, interval⟩ := m
    exact (((Reads.nil.part
      (.bool success (RegisterResponse.mk · "" "" 0) fun _ => rfl)).part
      (.string message (RegisterResponse.mk success · "" 0) fun _ => rfl)).part
      (.string token (RegisterResponse.mk success message · 0) fun _ => rfl)).part
      (.int32 interval (RegisterResponse.mk success message token ·) fun _ => rfl)
  passed _ m f hf := by
    simp only [Message.merge]
    split
    all_goals first | omega | rfl

theorem lossless_stats : Lossless Stats 6 where
  room := by decide
  reads depth m := by
    obtain ⟨active, completed, failed, memory, uptime, health⟩ := m
    exact (((((Reads.nil.part
      (.int32 active (Stats.mk · 0 0 0 0 .empty) fun _ => rfl)).part
      (.int64 completed (Stats.mk active · 0 0 0 .empty) fun _ => rfl)).part
      (.int64 failed (Stats.mk active completed · 0 0 .empty) fun _ => rfl)).part
      (.int64 memory (Stats.mk active completed failed · 0 .empty) fun _ => rfl)).part
      (.int64 uptime (Stats.mk active completed failed memory · .empty) fun _ => rfl)).part
      (.labels depth health (Stats.mk active completed failed memory uptime ·) fun _ _ => rfl)
  passed _ m f hf := by
    simp only [Message.merge]
    split
    all_goals first | omega | rfl

theorem lossless_heartbeatRequest : Lossless HeartbeatRequest 5 where
  room := by decide
  reads depth m := by
    obtain ⟨workerId, token, status, stats, timestamp⟩ := m
    exact ((((Reads.nil.part
      (.string workerId (HeartbeatRequest.mk · "" 0 none none) fun _ => rfl)).part
      (.string token (HeartbeatRequest.mk workerId · 0 none none) fun _ => rfl)).part
      (.int32 status (HeartbeatRequest.mk workerId token · none none) fun _ => rfl)).part
      (.inner lossless_stats depth stats
        (HeartbeatRequest.mk workerId token status · none) fun _ => rfl)).part
      (.inner lossless_timestamp depth timestamp
        (HeartbeatRequest.mk workerId token status stats ·) fun _ => rfl)
  passed _ m f hf := by
    simp only [Message.merge]
    split
    all_goals first | omega | rfl

theorem lossless_heartbeatResponse : Lossless HeartbeatResponse 3 where
  room := by decide
  reads depth m := by
    obtain ⟨connectionHealthy, message, serverTime⟩ := m
    exact ((Reads.nil.part
      (.bool connectionHealthy (HeartbeatResponse.mk · "" none) fun _ => rfl)).part
      (.string message (HeartbeatResponse.mk connectionHealthy · none) fun _ => rfl)).part
      (.inner lossless_timestamp depth serverTime
        (HeartbeatResponse.mk connectionHealthy message ·) fun _ => rfl)
  passed _ m f hf := by
    simp only [Message.merge]
    split
    all_goals first | omega | rfl

theorem lossless_streamRequest : Lossless StreamRequest 3 where
  room := by decide
  reads _ m := by
    obtain ⟨workerId, token, capabilities⟩ := m
    exact ((Reads.nil.part
      (.string workerId (StreamRequest.mk · "" []) fun _ => rfl)).part
      (.string token (StreamRequest.mk workerId · []) fun _ => rfl)).part
      (.packed capabilities (StreamRequest.mk workerId token ·) fun _ => rfl)
  passed _ m f hf := by
    simp only [Message.merge]
    split
    all_goals first | omega | rfl

theorem lossless_taskItem : Lossless TaskItem 7 where
  room := by decide
  reads depth m := by
    obtain ⟨taskId, taskType, payload, priority, deadline, metadata, createdAt⟩ := m
    exact ((((((Reads.nil.part
      (.string taskId (TaskItem.mk · 0 [] 0 none .empty none) fun _ => rfl)).part
      (.int32 taskType (TaskItem.mk taskId · [] 0 none .empty none) fun _ => rfl)).part
      (.bytes payload (TaskItem.mk taskId taskType · 0 none .empty none) fun _ => rfl)).part
      (.int32 priority (TaskItem.mk taskId taskType payload · none .empty none) fun _ => rfl)).part
      (.inner lossless_timestamp depth deadline
        (TaskItem.mk taskId taskType payload priority · .empty none) fun _ => rfl)).part
      (.labels depth metadata
        (TaskItem.mk taskId taskType payload priority deadline · none) fun _ _ => rfl)).part
      (.inner lossless_timestamp depth createdAt
        (TaskItem.mk taskId taskType payload priority deadline metadata ·) fun _ => rfl)
  passed _ m f hf := by
    simp only [Message.merge]
    split
    all_goals first | omega | rfl

theorem lossless_resultRequest : Lossless ResultRequest 7 where
  room := by decide
  reads depth m := by
    obtain ⟨taskId, workerId, status, result, error, startedAt, completedAt⟩ := m
    exact ((((((Reads.nil.part
      (.string taskId (ResultRequest.mk · "" 0 [] "" none none) fun _ => rfl)).part
      (.string workerId (ResultRequest.mk taskId · 0 [] "" none none) fun _ => rfl)).part
      (.int32 status (ResultRequest.mk taskId workerId · [] "" none none) fun _ => rfl)).part
      (.bytes result (ResultRequest.mk taskId workerId status · "" none none) fun _ => rfl)).part
      (.string error
        (ResultRequest.mk taskId workerId status result · none none) fun _ => rfl)).part
      (.inner lossless_timestamp depth startedAt
        (ResultRequest.mk taskId workerId status result error · none) fun _ => rfl)).part
      (.inner lossless_timestamp depth completedAt
        (ResultRequest.mk taskId workerId status result error startedAt ·) fun _ => rfl)
  passed _ m f hf := by
    simp only [Message.merge]
    split
    all_goals first | omega | rfl

theorem lossless_resultResponse : Lossless ResultResponse 2 where
  room := by decide
  reads _ m := by
    obtain ⟨resultReceived, message⟩ := m
    exact (Reads.nil.part
      (.bool resultReceived (ResultResponse.mk · "") fun _ => rfl)).part
      (.string message (ResultResponse.mk resultReceived ·) fun _ => rfl)
  passed _ m f hf := by
    simp only [Message.merge]
    split
    all_goals first | omega | rfl

theorem lossless_progressUpdate : Lossless ProgressUpdate 5 where
  room := by decide
  reads depth m := by
    obtain ⟨taskId, workerId, percent, message, updatedAt⟩ := m
    exact ((((Reads.nil.part
      (.string taskId (ProgressUpdate.mk · "" 0 "" none) fun _ => rfl)).part
      (.string workerId (ProgressUpdate.mk taskId · 0 "" none) fun _ => rfl)).part
      (.int32 percent (ProgressUpdate.mk taskId workerId · "" none) fun _ => rfl)).part
      (.string message (ProgressUpdate.mk taskId workerId percent · none) fun _ => rfl)).part
      (.inner lossless_timestamp depth updatedAt
        (ProgressUpdate.mk taskId workerId percent message ·) fun _ => rfl)
  passed _ m f hf := by
    simp only [Message.merge]
    split
    all_goals first | omega | rfl

theorem lossless_healthResponse : Lossless HealthResponse 4 where
  room := by decide
  reads depth m := by
    obtain ⟨status, timestamp, services, workers⟩ := m
    exact (((Reads.nil.part
      (.string status (HealthResponse.mk · none .empty 0) fun _ => rfl)).part
      (.inner lossless_timestamp depth timestamp
        (HealthResponse.mk status · .empty 0) fun _ => rfl)).part
      (.labels depth services (HealthResponse.mk status timestamp · 0) fun _ _ => rfl)).part
      (.int32 workers (HealthResponse.mk status timestamp services ·) fun _ => rfl)
  passed _ m f hf := by
    simp only [Message.merge]
    split
    all_goals first | omega | rfl

theorem lossless_nothing : Lossless Nothing 0 where
  room := by decide
  reads _ _ := Reads.nil
  passed _ _ _ _ := rfl

/-- The types of message that the protocol has. -/
inductive Kind
  | timestamp
  | registerRequest
  | registerResponse
  | stats
  | heartbeatRequest
  | heartbeatResponse
  | streamRequest
  | taskItem
  | resultRequest
  | resultResponse
  | progressUpdate
  | healthResponse
  | nothing
  deriving DecidableEq

namespace Kind

/-- The messages of a type. -/
abbrev Value : Kind → Type
  | timestamp => Timestamp
  | registerRequest => RegisterRequest
  | registerResponse => RegisterResponse
  | stats => Stats
  | heartbeatRequest => HeartbeatRequest
  | heartbeatResponse => HeartbeatResponse
  | streamRequest => StreamRequest
  | taskItem => TaskItem
  | resultRequest => ResultRequest
  | resultResponse => ResultResponse
  | progressUpdate => ProgressUpdate
  | healthResponse => HealthResponse
  | nothing => Nothing

/-- How many fields a type of message declares. They are numbered from one. -/
def count : Kind → Nat
  | timestamp => 2
  | registerRequest => 5
  | registerResponse => 4
  | stats => 6
  | heartbeatRequest => 5
  | heartbeatResponse => 3
  | streamRequest => 3
  | taskItem => 7
  | resultRequest => 7
  | resultResponse => 2
  | progressUpdate => 5
  | healthResponse => 4
  | nothing => 0

instance (k : Kind) : Message k.Value :=
  match k with
  | timestamp => inferInstanceAs (Message Timestamp)
  | registerRequest => inferInstanceAs (Message RegisterRequest)
  | registerResponse => inferInstanceAs (Message RegisterResponse)
  | stats => inferInstanceAs (Message Stats)
  | heartbeatRequest => inferInstanceAs (Message HeartbeatRequest)
  | heartbeatResponse => inferInstanceAs (Message HeartbeatResponse)
  | streamRequest => inferInstanceAs (Message StreamRequest)
  | taskItem => inferInstanceAs (Message TaskItem)
  | resultRequest => inferInstanceAs (Message ResultRequest)
  | resultResponse => inferInstanceAs (Message ResultResponse)
  | progressUpdate => inferInstanceAs (Message ProgressUpdate)
  | healthResponse => inferInstanceAs (Message HealthResponse)
  | nothing => inferInstanceAs (Message Nothing)

/-- Messages of every kind are written without loss. -/
theorem lossless (k : Kind) : Lossless k.Value k.count := by
  cases k with
  | timestamp => exact lossless_timestamp
  | registerRequest => exact lossless_registerRequest
  | registerResponse => exact lossless_registerResponse
  | stats => exact lossless_stats
  | heartbeatRequest => exact lossless_heartbeatRequest
  | heartbeatResponse => exact lossless_heartbeatResponse
  | streamRequest => exact lossless_streamRequest
  | taskItem => exact lossless_taskItem
  | resultRequest => exact lossless_resultRequest
  | resultResponse => exact lossless_resultResponse
  | progressUpdate => exact lossless_progressUpdate
  | healthResponse => exact lossless_healthResponse
  | nothing => exact lossless_nothing

end Kind

/-- A message of any type is read back from the bytes that it was encoded to, and also when foreign
fields lie between its own and when its maps were written in another order. -/
theorem decode_padded (k : Kind) (m : k.Value) :
    ((Message.encode m).length < Bits.count64 → Message.decode? (Message.encode m) = some m) ∧
      ∀ (fs : List Field) (bs : Bytes), Shuffled fs (Message.fields m) → Padded k.count fs bs →
        bs.length < Bits.count64 → Message.decode? bs = some m := by
  have read : ∀ (fs : List Field) (bs : Bytes), Shuffled fs (Message.fields m) →
      Padded k.count fs bs → bs.length < Bits.count64 → Message.decode? bs = some m :=
    fun _ _ shuffled padded short => k.lossless.mergeBytes shuffled padded short depthLimit
  refine ⟨fun short => ?_, read⟩
  exact read _ _ (.refl _) (padded_writeFields k.count (Message.fields m)) short

/-- The entries of a map that were not written in order, with a field of 32 bits between them, and
behind them a number that is spelled with a group more than it needs. -/
theorem decode_padded_shuffled :
    Message.decode? [26, 6, 10, 1, 98, 18, 1, 49, 77, 1, 2, 3, 4, 26, 3, 10, 1, 97, 40, 133, 0, 32,
        253, 255, 255, 255, 255, 255, 255, 255, 255, 1] =
      some (⟨"", none, .ofList [("b", "1"), ("a", "")], -3⟩ : HealthResponse) := by
  have bytes : [26, 6, 10, 1, 98, 18, 1, 49, 77, 1, 2, 3, 4, 26, 3, 10, 1, 97, 40, 133, 0, 32, 253,
      255, 255, 255, 255, 255, 255, 255, 255, 1] =
      (entryField 3 ("b", "1")).write ++ ([77] ++ [1, 2, 3, 4] ++
        ((entryField 3 ("a", "")).write ++ ([40] ++ [133, 0] ++
          (Field.write ⟨4, .varint (Write.word (-3))⟩ ++ [])))) := by decide +kernel
  have five : ∀ left, Groups (left + 1) [133, 0] 5 := fun left =>
    .more (b := 133) (by decide) (.last (b := 0) (by decide) fun _ => by decide)
  have fixed : Field.Spelled ⟨9, .fixed32 [1, 2, 3, 4]⟩ ([77] ++ [1, 2, 3, 4]) :=
    .mk (by decide) (by decide) (.last (by decide) fun h => absurd h (by decide)) (.fixed32 rfl)
  have number : Field.Spelled ⟨5, .varint 5⟩ ([40] ++ [133, 0]) :=
    .mk (by decide) (by decide) (.last (by decide) fun h => absurd h (by decide)) (.varint (five 8))
  rw [bytes]
  refine (decode_padded .healthResponse _).2 _ _ ⟨.swap _ _ _, rfl⟩ ?_ ?_
  · exact .own _ (.foreign (by decide) fixed (.own _ (.foreign (by decide) number (.own _ .done))))
  · decide +kernel

end WorkDispatch.Wire

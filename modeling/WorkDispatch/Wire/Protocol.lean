import WorkDispatch.Wire.Message

/-!
The messages of the protocol between workers and the coordinator, with their field numbers.
-/

set_option autoImplicit false

namespace WorkDispatch.Wire

/-- A point in time as the wire has it, whether it denotes one or not. -/
structure Timestamp where
  seconds : Int64
  nanos : Int32
  deriving DecidableEq

instance : Message Timestamp where
  blank := ⟨0, 0⟩
  fields m :=
    Write.int64 1 m.seconds ++
    Write.int32 2 m.nanos
  merge _ m f :=
    match f.number with
    | 1 => (Read.int64? f.content).map fun x => { m with seconds := x }
    | 2 => (Read.int32? f.content).map fun x => { m with nanos := x }
    | _ => some m

/-- A worker introduces itself. -/
structure RegisterRequest where
  workerId : String
  workerName : String
  capabilities : List Int32
  version : String
  metadata : Labels
  deriving DecidableEq

instance : Message RegisterRequest where
  blank := ⟨"", "", [], "", .empty⟩
  fields m :=
    Write.string 1 m.workerId ++
    Write.string 2 m.workerName ++
    Write.packed 3 m.capabilities ++
    Write.string 4 m.version ++
    Write.labels 5 m.metadata
  merge depth m f :=
    match f.number with
    | 1 => (Read.string? f.content).map fun x => { m with workerId := x }
    | 2 => (Read.string? f.content).map fun x => { m with workerName := x }
    | 3 => (Read.packed? m.capabilities f.content).map fun x => { m with capabilities := x }
    | 4 => (Read.string? f.content).map fun x => { m with version := x }
    | 5 => (Read.labels? depth m.metadata f.content).map fun x => { m with metadata := x }
    | _ => some m

/-- The coordinator's answer to a worker that introduces itself. -/
structure RegisterResponse where
  success : Bool
  message : String
  sessionToken : String
  heartbeatIntervalSeconds : Int32
  deriving DecidableEq

instance : Message RegisterResponse where
  blank := ⟨false, "", "", 0⟩
  fields m :=
    Write.bool 1 m.success ++
    Write.string 2 m.message ++
    Write.string 3 m.sessionToken ++
    Write.int32 4 m.heartbeatIntervalSeconds
  merge _ m f :=
    match f.number with
    | 1 => (Read.bool? f.content).map fun x => { m with success := x }
    | 2 => (Read.string? f.content).map fun x => { m with message := x }
    | 3 => (Read.string? f.content).map fun x => { m with sessionToken := x }
    | 4 => (Read.int32? f.content).map fun x => { m with heartbeatIntervalSeconds := x }
    | _ => some m

/-- A worker's load and the health of what it depends on. -/
structure Stats where
  activeTasks : Int32
  completedTasks : Int64
  failedTasks : Int64
  memoryUsageBytes : Int64
  uptimeSeconds : Int64
  serviceHealth : Labels
  deriving DecidableEq

instance : Message Stats where
  blank := ⟨0, 0, 0, 0, 0, .empty⟩
  fields m :=
    Write.int32 1 m.activeTasks ++
    Write.int64 2 m.completedTasks ++
    Write.int64 3 m.failedTasks ++
    Write.int64 4 m.memoryUsageBytes ++
    Write.int64 5 m.uptimeSeconds ++
    Write.labels 6 m.serviceHealth
  merge depth m f :=
    match f.number with
    | 1 => (Read.int32? f.content).map fun x => { m with activeTasks := x }
    | 2 => (Read.int64? f.content).map fun x => { m with completedTasks := x }
    | 3 => (Read.int64? f.content).map fun x => { m with failedTasks := x }
    | 4 => (Read.int64? f.content).map fun x => { m with memoryUsageBytes := x }
    | 5 => (Read.int64? f.content).map fun x => { m with uptimeSeconds := x }
    | 6 => (Read.labels? depth m.serviceHealth f.content).map fun x => { m with serviceHealth := x }
    | _ => some m

/-- A sign of life. -/
structure HeartbeatRequest where
  workerId : String
  sessionToken : String
  status : Int32
  stats : Option Stats
  timestamp : Option Timestamp
  deriving DecidableEq

instance : Message HeartbeatRequest where
  blank := ⟨"", "", 0, none, none⟩
  fields m :=
    Write.string 1 m.workerId ++
    Write.string 2 m.sessionToken ++
    Write.int32 3 m.status ++
    Write.inner 4 m.stats ++
    Write.inner 5 m.timestamp
  merge depth m f :=
    match f.number with
    | 1 => (Read.string? f.content).map fun x => { m with workerId := x }
    | 2 => (Read.string? f.content).map fun x => { m with sessionToken := x }
    | 3 => (Read.int32? f.content).map fun x => { m with status := x }
    | 4 => (Read.inner? depth m.stats f.content).map fun x => { m with stats := x }
    | 5 => (Read.inner? depth m.timestamp f.content).map fun x => { m with timestamp := x }
    | _ => some m

/-- The answer to a sign of life. -/
structure HeartbeatResponse where
  connectionHealthy : Bool
  message : String
  serverTime : Option Timestamp
  deriving DecidableEq

instance : Message HeartbeatResponse where
  blank := ⟨false, "", none⟩
  fields m :=
    Write.bool 1 m.connectionHealthy ++
    Write.string 2 m.message ++
    Write.inner 3 m.serverTime
  merge depth m f :=
    match f.number with
    | 1 => (Read.bool? f.content).map fun x => { m with connectionHealthy := x }
    | 2 => (Read.string? f.content).map fun x => { m with message := x }
    | 3 => (Read.inner? depth m.serverTime f.content).map fun x => { m with serverTime := x }
    | _ => some m

/-- A worker asks for tasks. -/
structure StreamRequest where
  workerId : String
  sessionToken : String
  capabilities : List Int32
  deriving DecidableEq

instance : Message StreamRequest where
  blank := ⟨"", "", []⟩
  fields m :=
    Write.string 1 m.workerId ++
    Write.string 2 m.sessionToken ++
    Write.packed 3 m.capabilities
  merge _ m f :=
    match f.number with
    | 1 => (Read.string? f.content).map fun x => { m with workerId := x }
    | 2 => (Read.string? f.content).map fun x => { m with sessionToken := x }
    | 3 => (Read.packed? m.capabilities f.content).map fun x => { m with capabilities := x }
    | _ => some m

/-- A task on its way to a worker. -/
structure TaskItem where
  taskId : String
  taskType : Int32
  payload : Bytes
  priority : Int32
  deadline : Option Timestamp
  metadata : Labels
  createdAt : Option Timestamp
  deriving DecidableEq

instance : Message TaskItem where
  blank := ⟨"", 0, [], 0, none, .empty, none⟩
  fields m :=
    Write.string 1 m.taskId ++
    Write.int32 2 m.taskType ++
    Write.bytes 3 m.payload ++
    Write.int32 4 m.priority ++
    Write.inner 5 m.deadline ++
    Write.labels 6 m.metadata ++
    Write.inner 7 m.createdAt
  merge depth m f :=
    match f.number with
    | 1 => (Read.string? f.content).map fun x => { m with taskId := x }
    | 2 => (Read.int32? f.content).map fun x => { m with taskType := x }
    | 3 => (Read.bytes? f.content).map fun x => { m with payload := x }
    | 4 => (Read.int32? f.content).map fun x => { m with priority := x }
    | 5 => (Read.inner? depth m.deadline f.content).map fun x => { m with deadline := x }
    | 6 => (Read.labels? depth m.metadata f.content).map fun x => { m with metadata := x }
    | 7 => (Read.inner? depth m.createdAt f.content).map fun x => { m with createdAt := x }
    | _ => some m

/-- A worker reports how a task ended. -/
structure ResultRequest where
  taskId : String
  workerId : String
  status : Int32
  result : Bytes
  errorMessage : String
  startedAt : Option Timestamp
  completedAt : Option Timestamp
  deriving DecidableEq

instance : Message ResultRequest where
  blank := ⟨"", "", 0, [], "", none, none⟩
  fields m :=
    Write.string 1 m.taskId ++
    Write.string 2 m.workerId ++
    Write.int32 3 m.status ++
    Write.bytes 4 m.result ++
    Write.string 5 m.errorMessage ++
    Write.inner 6 m.startedAt ++
    Write.inner 7 m.completedAt
  merge depth m f :=
    match f.number with
    | 1 => (Read.string? f.content).map fun x => { m with taskId := x }
    | 2 => (Read.string? f.content).map fun x => { m with workerId := x }
    | 3 => (Read.int32? f.content).map fun x => { m with status := x }
    | 4 => (Read.bytes? f.content).map fun x => { m with result := x }
    | 5 => (Read.string? f.content).map fun x => { m with errorMessage := x }
    | 6 => (Read.inner? depth m.startedAt f.content).map fun x => { m with startedAt := x }
    | 7 => (Read.inner? depth m.completedAt f.content).map fun x => { m with completedAt := x }
    | _ => some m

/-- The answer to a report. -/
structure ResultResponse where
  resultReceived : Bool
  message : String
  deriving DecidableEq

instance : Message ResultResponse where
  blank := ⟨false, ""⟩
  fields m :=
    Write.bool 1 m.resultReceived ++
    Write.string 2 m.message
  merge _ m f :=
    match f.number with
    | 1 => (Read.bool? f.content).map fun x => { m with resultReceived := x }
    | 2 => (Read.string? f.content).map fun x => { m with message := x }
    | _ => some m

/-- A worker says how far a task has come. -/
structure ProgressUpdate where
  taskId : String
  workerId : String
  progressPercent : Int32
  statusMessage : String
  updatedAt : Option Timestamp
  deriving DecidableEq

instance : Message ProgressUpdate where
  blank := ⟨"", "", 0, "", none⟩
  fields m :=
    Write.string 1 m.taskId ++
    Write.string 2 m.workerId ++
    Write.int32 3 m.progressPercent ++
    Write.string 4 m.statusMessage ++
    Write.inner 5 m.updatedAt
  merge depth m f :=
    match f.number with
    | 1 => (Read.string? f.content).map fun x => { m with taskId := x }
    | 2 => (Read.string? f.content).map fun x => { m with workerId := x }
    | 3 => (Read.int32? f.content).map fun x => { m with progressPercent := x }
    | 4 => (Read.string? f.content).map fun x => { m with statusMessage := x }
    | 5 => (Read.inner? depth m.updatedAt f.content).map fun x => { m with updatedAt := x }
    | _ => some m

/-- How the coordinator is. -/
structure HealthResponse where
  status : String
  timestamp : Option Timestamp
  services : Labels
  activeWorkerCount : Int32
  deriving DecidableEq

instance : Message HealthResponse where
  blank := ⟨"", none, .empty, 0⟩
  fields m :=
    Write.string 1 m.status ++
    Write.inner 2 m.timestamp ++
    Write.labels 3 m.services ++
    Write.int32 4 m.activeWorkerCount
  merge depth m f :=
    match f.number with
    | 1 => (Read.string? f.content).map fun x => { m with status := x }
    | 2 => (Read.inner? depth m.timestamp f.content).map fun x => { m with timestamp := x }
    | 3 => (Read.labels? depth m.services f.content).map fun x => { m with services := x }
    | 4 => (Read.int32? f.content).map fun x => { m with activeWorkerCount := x }
    | _ => some m

/-- A message that says nothing. -/
structure Nothing where
  deriving DecidableEq

instance : Message Nothing where
  blank := ⟨⟩
  fields _ := []
  merge _ m _ := some m

end WorkDispatch.Wire

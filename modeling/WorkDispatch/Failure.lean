import WorkDispatch.Text.Quoted
import WorkDispatch.Vocabulary

/-!
Why an operation failed. A `Failure` names the cause; an operation that was tried several times wraps
the last cause. What a caller may do about a failure hangs on its root: `Failure.root` looks through
all wrappers, and `code`, `shouldRetry`, `isAuthFailure` and `isConnectionFailure` ask it.
-/

set_option autoImplicit false

namespace WorkDispatch

/-- The status codes of remote calls. -/
inductive StatusCode
  | ok | cancelled | unknown | invalidArgument | deadlineExceeded | notFound | alreadyExists
  | permissionDenied | resourceExhausted | failedPrecondition | aborted | outOfRange | unimplemented
  | internal | unavailable | dataLoss | unauthenticated
  deriving DecidableEq, Repr

instance : Named StatusCode where
  all := [.ok, .cancelled, .unknown, .invalidArgument, .deadlineExceeded, .notFound, .alreadyExists,
    .permissionDenied, .resourceExhausted, .failedPrecondition, .aborted, .outOfRange,
    .unimplemented, .internal, .unavailable, .dataLoss, .unauthenticated]
  name
    | .ok => "Ok"
    | .cancelled => "Cancelled"
    | .unknown => "Unknown"
    | .invalidArgument => "InvalidArgument"
    | .deadlineExceeded => "DeadlineExceeded"
    | .notFound => "NotFound"
    | .alreadyExists => "AlreadyExists"
    | .permissionDenied => "PermissionDenied"
    | .resourceExhausted => "ResourceExhausted"
    | .failedPrecondition => "FailedPrecondition"
    | .aborted => "Aborted"
    | .outOfRange => "OutOfRange"
    | .unimplemented => "Unimplemented"
    | .internal => "Internal"
    | .unavailable => "Unavailable"
    | .dataLoss => "DataLoss"
    | .unauthenticated => "Unauthenticated"

/-- The code of a number; a number that has none counts as unknown. -/
def StatusCode.ofNumber (n : Int) : StatusCode := (Named.ofNumber? n).getD .unknown

/-- How a remote call ended other than well. -/
structure Status where
  code : StatusCode
  message : String
  deriving DecidableEq

/-- The status as messages show it. What metadata came with it is not kept, and shows as none. -/
def Status.text (s : Status) : String :=
  "status: " ++ Named.name s.code ++ ", message: " ++ Text.quoted s.message ++
    ", details: [], metadata: MetadataMap \x7b headers: \x7b\x7d \x7d"

/-- Why an operation failed. -/
inductive Failure
  | invalidArgument (message : String)
  | notFound (message : String)
  | unauthenticated (message : String)
  | queueFull (capacity : Nat)
  | circuitOpen (component : String)
  | notConnected (message : String)
  | rpc (status : Status)
  | transport (message : String)
  | timeout (message : String)
  | cancelled (message : String)
  | retriesExhausted (operation : String) (attempts : Nat) (source : Failure)
  | nonRetriable (operation : String) (source : Failure)
  | unsupportedTaskType (type : String)
  | taskExecution (message : String)
  | deadlineExceeded (message : String)
  | serialization (message : String)
  | ai (message : String)
  | configuration (message : String)
  | internal (message : String)
  deriving DecidableEq

namespace Failure

/-- What went wrong, in words. -/
def message : Failure → String
  | invalidArgument m => "Invalid argument: " ++ m
  | notFound m => "Not found: " ++ m
  | unauthenticated m => "Unauthenticated: " ++ m
  | queueFull n => "Task queue is full (capacity " ++ toString n ++ ")"
  | circuitOpen c => "Circuit breaker is open for " ++ c
  | notConnected m => "Not connected: " ++ m
  | rpc s => "RPC error: " ++ s.text
  | transport m => "Transport error: " ++ m
  | timeout m => "Timeout: " ++ m
  | cancelled m => "Cancelled: " ++ m
  | retriesExhausted op n source =>
    op ++ " failed after " ++ toString n ++ " attempts: " ++ source.message
  | nonRetriable op source => op ++ " failed with non-retriable error: " ++ source.message
  | unsupportedTaskType t => "Unsupported task type: " ++ t
  | taskExecution m => "Task execution failed: " ++ m
  | deadlineExceeded m => "Deadline exceeded: " ++ m
  | serialization m => "Serialization error: " ++ m
  | ai m => "AI service error: " ++ m
  | configuration m => "Configuration error: " ++ m
  | internal m => "Internal error: " ++ m

/-- The short name of a cause. -/
def name : Failure → String
  | invalidArgument _ => "InvalidArgument"
  | notFound _ => "NotFound"
  | unauthenticated _ => "Unauthenticated"
  | queueFull _ => "QueueFull"
  | circuitOpen _ => "CircuitOpen"
  | notConnected _ => "NotConnected"
  | rpc _ => "Rpc"
  | transport _ => "Transport"
  | timeout _ => "Timeout"
  | cancelled _ => "Cancelled"
  | retriesExhausted .. => "RetriesExhausted"
  | nonRetriable .. => "NonRetriable"
  | unsupportedTaskType _ => "UnsupportedTaskType"
  | taskExecution _ => "TaskExecution"
  | deadlineExceeded _ => "DeadlineExceeded"
  | serialization _ => "Serialization"
  | ai _ => "Ai"
  | configuration _ => "Configuration"
  | internal _ => "Internal"

/-- The failure that wrappers wrap. -/
def root : Failure → Failure
  | retriesExhausted _ _ source => source.root
  | nonRetriable _ source => source.root
  | f => f

/-- The status code that a failure is answered with. -/
def code : Failure → StatusCode
  | invalidArgument _ | serialization _ => .invalidArgument
  | notFound _ => .notFound
  | unauthenticated _ => .unauthenticated
  | queueFull _ => .resourceExhausted
  | circuitOpen _ | notConnected _ | transport _ => .unavailable
  | rpc s => s.code
  | timeout _ | deadlineExceeded _ => .deadlineExceeded
  | cancelled _ => .cancelled
  | retriesExhausted _ _ source => source.code
  | nonRetriable _ source => source.code
  | unsupportedTaskType _ => .unimplemented
  | taskExecution _ | ai _ | configuration _ | internal _ => .internal

/-- Whether the peer does not know the caller, or not its token. -/
def isAuthFailure (f : Failure) : Bool := f.code == .notFound || f.code == .unauthenticated

/-- Whether the failure says something of the connection rather than of the request. -/
def isConnectionFailure (f : Failure) : Bool :=
  match f.root with
  | notConnected _ | transport _ | timeout _ => true
  | rpc s => s.code == .unavailable || s.code == .deadlineExceeded || s.code == .cancelled
  | _ => false

/-- Whether the same operation may succeed when it is tried again. -/
def shouldRetry (f : Failure) : Bool :=
  match f.root with
  | rpc s =>
    s.code == .unavailable || s.code == .deadlineExceeded || s.code == .resourceExhausted ||
      s.code == .aborted || s.code == .internal || s.code == .unknown
  | invalidArgument _ | notFound _ | unauthenticated _ | queueFull _ | circuitOpen _ | cancelled _
  | unsupportedTaskType _ | deadlineExceeded _ | serialization _ | configuration _ => false
  | _ => true

/-- The status that a failure is answered with; a status that came from a peer is passed on. -/
def toStatus : Failure → Status
  | rpc s => s
  | f => ⟨f.code, f.message⟩

/-- What the failures and the status that a failure wraps say, from the outside in. -/
def sources : Failure → List String
  | retriesExhausted _ _ source => source.message :: source.sources
  | nonRetriable _ source => source.message :: source.sources
  | rpc s => [s.text]
  | _ => []

end Failure

end WorkDispatch

import WorkDispatch.Connection.Basic
import WorkDispatch.Connection.Endpoint

/-!
Why a dial fails. Everything that a dial meets is given: which files can be read, whether a connection
can be secured with them, and what becomes of the attempt to reach a peer.
-/

set_option autoImplicit false

namespace WorkDispatch.Connection

/-- What becomes of the attempt to reach a peer. -/
inductive Contact
  | made
  | refused (why : String)
  /-- Nothing came back in time. -/
  | overdue

/-- What a dial meets. -/
structure Surroundings where
  /-- Why a file cannot be read, if it cannot. -/
  unreadable? : String → Option String
  /-- What becomes of the attempt to reach a peer at an address. -/
  contact : String → Contact
  /-- Why no connection can be secured with a certificate that can be read, for a peer that may have a
  name of its own, if none can. -/
  unsuited? : String → Option String → Option String := fun _ _ => none

/-- Surroundings without files, in which nobody answers. -/
def Surroundings.deserted : Surroundings where
  unreadable? _ := some "no such file"
  contact _ := .refused "transport error"

/-- What is wrong with the files of a secured connection, if anything. -/
def tlsProblem? (w : Surroundings) (t : Settings.ClientTls) : Option Failure :=
  match t.caCertPath with
  | none => some (.configuration "TLS enabled without ca_cert_path")
  | some path =>
    match w.unreadable? path with
    | some why => some (.configuration ("cannot read " ++ path ++ ": " ++ why))
    | none => (w.unsuited? path t.domainName).map .transport

/-- Why a dial fails, if it does: for its address, then for its files, then for the peer. -/
def dialFailure? (w : Surroundings) (s : Settings.Connection) : Option Failure :=
  if !Endpoint.isAddress s.endpoint then
    some (.configuration ("invalid coordinator endpoint '" ++ s.endpoint ++ "': invalid URI"))
  else
    (if s.tls.enabled then tlsProblem? w s.tls else none) <|>
    match w.contact s.endpoint with
    | .made => none
    | .refused why => some (.transport ("failed to connect to " ++ s.endpoint ++ ": " ++ why))
    | .overdue =>
      some (.timeout ("connecting to " ++ s.endpoint ++ " took longer than " ++
        s.connectTimeout.text))

end WorkDispatch.Connection

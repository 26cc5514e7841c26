import WorkDispatch.Plain.Message
import WorkDispatch.Settings.Basic

/-!
The plain form of what settings come to: the spans that are set in seconds or milliseconds.
-/

set_option autoImplicit false

namespace WorkDispatch.Plain

open Json

/-- Every span that is set, under a short name. -/
def ofDurations (s : Settings) : Json :=
  let w := s.worker
  let c := w.connection
  let r := s.coordinator
  .object <|
    [("check", w.connectionCheckInterval), ("connect", c.connectTimeout),
     ("coord_shutdown", r.shutdownTimeout), ("heartbeat", w.heartbeatInterval),
     ("keepalive", c.keepaliveInterval), ("keepalive_timeout", c.keepaliveTimeout),
     ("poll", c.healthPollInterval), ("request", c.requestTimeout), ("shutdown", w.shutdownTimeout),
     ("stale", r.staleWorkerThreshold), ("stats", w.statsLogInterval), ("sweep", r.sweepInterval),
     ("task", w.taskTimeout)].map fun (k, d) => (k, ofSpan d)

end WorkDispatch.Plain

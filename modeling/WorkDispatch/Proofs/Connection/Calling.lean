import WorkDispatch.Connection.Dial
import WorkDispatch.Connection.Line
import WorkDispatch.Proofs.Connection.Replacing
import WorkDispatch.Proofs.Retry.Run

/-!
# What a call leaves of its connection

A call is a run of attempts, and an attempt finds a channel or does not. Without one it dials, once, if the
breaker lets it; then it makes the call, once, on the channel that is installed. `Goes` tells the four ways
of an attempt, and `goes_attempt` that there is no other for a connection that is open and that has a
channel when it is connected (`Fit`), as every connection is that was not closed (`Fit.reached`).

Callers look at the failure and not at the connection. `leaves_what_result_implies` says that the two agree
when a run is over: after an answer there is a channel in use, after a failure of the connection there is
none, and a refusal by the peer that says nothing of the connection leaves the channel it came on. What
dials and calls come to is given, and so is what is between the attempts; all that is asked of a dial is
that it does not fail with the status of a call, which none does (`root_dialFailure?`), and of what is
between attempts that it leaves the connection alone (`Rests`), as a backoff does that is slept or cut short.
-/

set_option autoImplicit false

namespace WorkDispatch.Connection

/-! ## Connections that are open -/

/-- Open, and with a channel when it is connected. -/
structure Fit (c : Connection) : Prop where
  opened : c.closed = false
  installed : c.connected = true → ∃ n, c.channel = some n

section

variable {c : Connection}

/-- Who is given a channel has a usable connection. -/
theorem isUsable_of_channel? {n : Nat} (h : c.channel? = .ok n) : c.isUsable = true := by
  unfold channel? at h
  split at h
  · next usable => exact usable
  · cases h

/-- A usable connection gives the channel that is installed. -/
theorem channel?_of_installed {n : Nat} (usable : c.isUsable = true) (installed : c.channel = some n) :
    c.channel? = .ok n := by
  unfold Connection.channel?
  rw [if_pos usable, installed]

/-- A connection that is fit gives a channel whenever it is usable. -/
theorem Fit.channel? (h : c.Fit) (usable : c.isUsable = true) : ∃ n, c.channel? = .ok n := by
  obtain ⟨n, installed⟩ := h.installed (Traffic.connected_of_isUsable usable)
  exact ⟨n, channel?_of_installed usable installed⟩

/-- It is not usable when it gives none. -/
theorem Fit.unusable {e : Failure} (h : c.Fit) (none : c.channel? = .error e) : c.isUsable = false := by
  cases usable : c.isUsable with
  | false => rfl
  | true =>
    obtain ⟨n, some⟩ := h.channel? usable
    rw [none] at some
    cases some

theorem Fit.countReconnect (h : c.Fit) : c.countReconnect.Fit := ⟨h.opened, h.installed⟩

theorem Fit.breaker (h : c.Fit) (b : Breaker) : Fit { c with breaker := b } := ⟨h.opened, h.installed⟩

theorem Fit.connecting (h : c.Fit) : Fit { c with connectivity := .connecting } :=
  ⟨h.opened, h.installed⟩

/-- A connection that is marked stays fit. -/
theorem Fit.markDisconnected (h : c.Fit) : c.markDisconnected.Fit := ⟨h.opened, nofun⟩

/-- So does one that notes a failure. -/
theorem Fit.noteFailure (h : c.Fit) (f : Failure) : (c.noteFailure f).Fit := by
  unfold Connection.noteFailure
  split
  · exact h.markDisconnected
  · exact h

/-- A dial leaves it fit, however it ends. -/
theorem Fit.endDial (h : c.Fit) (failure : Option Failure) : (c.endDial failure).Fit := by
  cases failure with
  | none => exact ⟨h.opened, fun _ => ⟨_, rfl⟩⟩
  | some e => exact h.markDisconnected

/-- Whatever happens to a connection, it is fit as long as nobody closes it. -/
theorem Fit.reached (s : Settings.Connection) (b : Breaker.Config) (es : List Traffic.Event)
    (opened : ((Traffic.idle (.new s b)).applyAll es).connection.closed = false) :
    ((Traffic.idle (.new s b)).applyAll es).connection.Fit :=
  ⟨opened, fun connected => ⟨_, ((Traffic.sound_idle s b).applyAll es).latest connected⟩⟩

end

namespace Line

variable {σ α : Type} {operation : String} {dial : Dial σ} {f : Ask σ α} {l l' : Line σ}

/-! ## One attempt -/

/-- A call is made on a channel. What it fails with is noted. -/
structure Asked (operation : String) (f : Ask σ α) (l : Line σ) (n : Nat) (q : Except Failure α × Line σ) :
    Prop where
  channel : l.connection.channel? = .ok n
  calls : q.2.calls = l.calls + 1
  outside : q.2.outside = (f l.outside).2
  result : q.1 = (f l.outside).1.toResult operation l.connection.settings.requestTimeout
  connection : q.2.connection =
    match q.1 with
    | .ok _ => l.connection
    | .error e => l.connection.noteFailure e

/-- How a dial behind the breaker goes. -/
inductive Redials (dial : Dial σ) (l : Line σ) : Except Failure Unit × Line σ → Prop
  /-- The breaker does not let it through. -/
  | rejected {component : String} {l' : Line σ} (barred : (l.connection.breaker.arrive l.now).1 = false)
    (calls : l'.calls = l.calls) (outside : l'.outside = l.outside)
    (still : l'.connection.isUsable = l.connection.isUsable) :
    Redials dial l (.error (.circuitOpen component), l')
  | unreached {e : Failure} {l' : Line σ} (failed : (dial l.outside).1 = some e)
    (calls : l'.calls = l.calls) (outside : l'.outside = (dial l.outside).2)
    (still : l'.connection.connected = false) :
    Redials dial l (.error e, l')
  /-- The next channel is installed. -/
  | replaced {l' : Line σ} (made : (dial l.outside).1 = none)
    (calls : l'.calls = l.calls) (outside : l'.outside = (dial l.outside).2)
    (installed : l'.connection.channel? = .ok (l.connection.generation + 1)) :
    Redials dial l (.ok (), l')

/-- How an attempt goes, and on which channel it makes the call, if it makes one: on the one in use, on
none because there is none and the dial is not let through or fails, or on the one that the dial installs. -/
inductive Goes (operation : String) (dial : Dial σ) (f : Ask σ α) (l : Line σ) :
    Option Nat → Except Failure α × Line σ → Prop
  | used {n : Nat} {q : Except Failure α × Line σ} (asked : Asked operation f l n q) :
    Goes operation dial f l (some n) q
  | undialed {e : Failure} {l' : Line σ} (unusable : l.connection.isUsable = false)
    (dialed : Redials dial l (.error e, l')) : Goes operation dial f l none (.error e, l')
  | replaced {l' : Line σ} {q : Except Failure α × Line σ} (unusable : l.connection.isUsable = false)
    (dialed : Redials dial l (.ok (), l')) (asked : Asked operation f l' (l.connection.generation + 1) q) :
    Goes operation dial f l (some (l.connection.generation + 1)) q

/-- A call that is overdue lets time pass, and no other does. -/
theorem ask_of_channel {n : Nat} (channel : l.connection.channel? = .ok n) :
    ask operation f l =
      let limit := l.connection.settings.requestTimeout
      let l' := { l with
        now := match (f l.outside).1 with
          | .overdue => l.now + limit
          | _ => l.now
        calls := l.calls + 1
        outside := (f l.outside).2 }
      match (f l.outside).1.toResult operation limit with
      | .ok a => (.ok a, l')
      | .error e => (.error e, l'.modify (·.noteFailure e)) := by
  unfold ask
  rw [channel]
  rcases f l.outside with ⟨reply, outside⟩
  cases reply with
  | answer | refusal | overdue => rfl

/-- Over a channel, the call is made. -/
theorem asked_ask {n : Nat} (channel : l.connection.channel? = .ok n) :
    Asked operation f l n (ask operation f l) := by
  rw [ask_of_channel channel]
  simp only
  cases result : (f l.outside).1.toResult operation l.connection.settings.requestTimeout with
  | ok | error => exact ⟨channel, rfl, rfl, result.symm, rfl⟩

/-- A call leaves the connection fit. -/
theorem fit_ask (fit : l.connection.Fit) : (ask operation f l).2.connection.Fit := by
  rcases channel : l.connection.channel? with e | n
  · unfold ask
    rw [channel]
    exact fit
  · rw [(asked_ask channel).connection]
    split
    · exact fit
    · exact fit.noteFailure _

/-- A dial of an open connection is made, and ends. -/
theorem establish_opened (dial : Dial σ) (opened : l.connection.closed = false) :
    establish dial l =
      (match (dial l.outside).1 with
        | none => .ok ()
        | some e => .error e,
      { l with
        connection := { l.connection with connectivity := .connecting }.endDial (dial l.outside).1
        outside := (dial l.outside).2 }) := by
  unfold establish beginDial
  rw [if_neg (Bool.eq_false_iff.mp opened)]
  rcases dial l.outside with ⟨failure, outside⟩
  cases failure with
  | none | some => rfl

/-- A dial behind the breaker leads to a new channel, or to a failure without a call. -/
theorem redials_guardedDial (dial : Dial σ) (fit : l.connection.Fit) :
    Redials dial l (guardedDial dial l) := by
  unfold guardedDial
  rcases arrived : (place.get l).arrive (place.now l) with ⟨admitted, b⟩
  cases admitted with
  | false =>
    rw [Breaker.guarded_of_rejected arrived]
    exact .rejected (congrArg Prod.fst arrived) rfl rfl rfl
  | true =>
    have ended := establish_opened dial (l := place.set b l) fit.opened
    rw [Breaker.guarded_of_admitted arrived ended]
    have outside : (place.set b l).outside = l.outside := rfl
    rw [outside]
    rcases dialed : (dial l.outside).1 with _ | e
    · exact .replaced dialed rfl rfl rfl
    · exact .unreached dialed rfl rfl rfl

/-- It leaves the connection fit. -/
theorem fit_guardedDial (fit : l.connection.Fit) : (guardedDial dial l).2.connection.Fit := by
  unfold guardedDial
  rcases arrived : (place.get l).arrive (place.now l) with ⟨admitted, b⟩
  cases admitted with
  | false =>
    rw [Breaker.guarded_of_rejected arrived]
    exact fit.breaker b
  | true =>
    rw [Breaker.guarded_of_admitted arrived (establish_opened dial fit.opened)]
    exact ((fit.breaker b).connecting.endDial _).breaker _

/-- Without a usable connection, to reconnect is to dial. -/
theorem reconnectOnce_unusable (fit : l.connection.Fit) (unusable : l.connection.isUsable = false) :
    reconnectOnce dial l = guardedDial dial (l.modify Connection.countReconnect) := by
  unfold reconnectOnce
  rw [if_neg (Bool.eq_false_iff.mp unusable), if_neg (Bool.eq_false_iff.mp fit.opened)]

/-- That it is counted changes nothing else. -/
theorem redials_reconnectOnce (dial : Dial σ) (fit : l.connection.Fit)
    (unusable : l.connection.isUsable = false) :
    Redials dial l (reconnectOnce dial l) := by
  rw [reconnectOnce_unusable fit unusable]
  have dialed := redials_guardedDial dial (l := l.modify Connection.countReconnect)
    fit.countReconnect
  generalize guardedDial dial (l.modify Connection.countReconnect) = q at dialed ⊢
  cases dialed with
  | rejected barred calls outside still => exact .rejected barred calls outside still
  | unreached failed calls outside still => exact .unreached failed calls outside still
  | replaced made calls outside installed => exact .replaced made calls outside installed

/-- After a dial that succeeded the connection gives its new channel. -/
theorem Redials.installed {q : Except Failure Unit × Line σ} (h : Redials dial l q) (ok : q.1 = .ok ()) :
    q.2.connection.channel? = .ok (l.connection.generation + 1) := by
  cases h with
  | rejected | unreached => cases ok
  | replaced _ _ _ installed => exact installed

/-- There is nothing else that an attempt does. -/
theorem goes_attempt (operation : String) (dial : Dial σ) (f : Ask σ α) (fit : l.connection.Fit) :
    ∃ k, Goes operation dial f l k (attempt operation dial f l) := by
  unfold attempt
  rcases channel : l.connection.channel? with e | n
  · have unusable := fit.unusable channel
    have dialed := redials_reconnectOnce dial fit unusable
    simp only
    generalize reconnectOnce dial l = q at dialed ⊢
    rcases q with ⟨e | u, l'⟩
    · exact ⟨none, .undialed unusable dialed⟩
    · exact ⟨_, .replaced unusable dialed (asked_ask (dialed.installed rfl))⟩
  · exact ⟨some n, .used (asked_ask channel)⟩

/-- An attempt leaves the connection fit. -/
theorem fit_attempt (operation : String) (dial : Dial σ) (f : Ask σ α) (fit : l.connection.Fit) :
    (attempt operation dial f l).2.connection.Fit := by
  unfold attempt
  rcases channel : l.connection.channel? with e | n
  · have fit' : (reconnectOnce dial l).2.connection.Fit := by
      rw [reconnectOnce_unusable fit (fit.unusable channel)]
      exact fit_guardedDial fit.countReconnect
    simp only
    generalize reconnectOnce dial l = q at fit' ⊢
    rcases q with ⟨e | u, l'⟩
    · exact fit'
    · exact fit_ask fit'
  · exact fit_ask fit

/-! ## What an attempt leaves -/

variable {k : Option Nat} {n : Nat} {q : Except Failure α × Line σ} {e : Failure}

/-- A dial that fails does so with no status of a call. -/
def Plain (dial : Dial σ) : Prop := ∀ s e, (dial s).1 = some e → ∀ status, e.root ≠ .rpc status

/-- After an answer the connection is usable. -/
theorem Asked.usable (h : Asked operation f l n q) {a : α} (ok : q.1 = .ok a) :
    q.2.connection.isUsable = true := by
  rw [h.connection, ok]
  exact isUsable_of_channel? h.channel

/-- After a failure that means the connection it is not. -/
theorem Asked.lost (h : Asked operation f l n q) (failed : q.1 = .error e)
    (meant : e.isConnectionFailure = true) : q.2.connection.connected = false := by
  rw [h.connection, failed]
  simp only [noteFailure, meant, if_true]
  rfl

/-- After any other it gives the same channel. -/
theorem Asked.kept (h : Asked operation f l n q) (failed : q.1 = .error e)
    (other : e.isConnectionFailure = false) : q.2.connection.channel? = .ok n := by
  rw [h.connection, failed]
  simp only [noteFailure, other, Bool.false_eq_true, if_false]
  exact h.channel

/-- A dial makes no call. -/
theorem Redials.calls {q : Except Failure Unit × Line σ} (h : Redials dial l q) :
    q.2.calls = l.calls := by
  cases h with
  | rejected _ calls | unreached _ calls | replaced _ calls => exact calls

/-- An attempt makes one call, or none. -/
theorem Goes.calls (h : Goes operation dial f l k q) :
    q.2.calls = l.calls + if k.isSome then 1 else 0 := by
  cases h with
  | used asked => exact asked.calls
  | undialed _ dialed => exact dialed.calls
  | replaced _ dialed asked => rw [asked.calls, dialed.calls]; rfl

/-- After an attempt that succeeded the connection is usable. -/
theorem Goes.usable (h : Goes operation dial f l k q) {a : α} (ok : q.1 = .ok a) :
    q.2.connection.isUsable = true := by
  cases h with
  | used asked | replaced _ _ asked => exact asked.usable ok
  | undialed => cases ok

/-- After one that failed for the connection it is not. -/
theorem Goes.lost (h : Goes operation dial f l k q) (failed : q.1 = .error e)
    (meant : e.isConnectionFailure = true) : q.2.connection.connected = false := by
  cases h with
  | used asked | replaced _ _ asked => exact asked.lost failed meant
  | undialed _ dialed =>
    cases failed
    cases dialed with
    | rejected => cases meant
    | unreached _ _ _ still => exact still

/-- A status comes from a call. -/
theorem Goes.kept (h : Goes operation dial f l k q) (plain : Plain dial) (failed : q.1 = .error e)
    {status : Status} (root : e.root = .rpc status) (other : e.isConnectionFailure = false) :
    ∃ n, k = some n ∧ q.2.connection.channel? = .ok n := by
  cases h with
  | used asked | replaced _ _ asked => exact ⟨_, rfl, asked.kept failed other⟩
  | undialed _ dialed =>
    cases failed
    cases dialed with
    | rejected => cases root
    | unreached refused => exact absurd root (plain _ _ refused status)

/-! ## Runs -/

/-- What is between attempts leaves the connection and what is outside alone. -/
structure Rests (backoff : Nat → Line σ → Bool × Line σ) : Prop where
  connection : ∀ n l, (backoff n l).2.connection = l.connection
  calls : ∀ n l, (backoff n l).2.calls = l.calls
  outside : ∀ n l, (backoff n l).2.outside = l.outside

/-- So does a backoff, whether it is slept or not. -/
theorem rests_backoff (cancelled : Bool) : Rests (backoff cancelled (σ := σ)) := by
  cases cancelled with
  | false | true => exact ⟨fun _ _ => rfl, fun _ _ => rfl, fun _ _ => rfl⟩

/-- Whether a failure means the connection depends on its root. -/
theorem isConnectionFailure_congr {e e' : Failure} (same : e.root = e'.root) :
    e.isConnectionFailure = e'.isConnectionFailure := by
  unfold Failure.isConnectionFailure
  rw [same]

/-- A status of any other code does not mean the connection. -/
theorem isConnectionFailure_rpc {status : Status} (root : e.root = .rpc status)
    (other : status.code ∉ [StatusCode.unavailable, .deadlineExceeded, .cancelled]) :
    e.isConnectionFailure = false := by
  have same : e.isConnectionFailure = (Failure.rpc status).isConnectionFailure :=
    isConnectionFailure_congr root
  rw [same]
  simpa [Failure.isConnectionFailure, Failure.root, and_assoc] using other

/-- In a run of attempts at a call on an open connection, every attempt goes in one of the four ways, so
there are no more calls than attempts, and no more attempts than the run may make. The connection is left
as the result implies: usable after an answer, disconnected after a failure of the connection; and a status
that says nothing of the connection leaves it with the channel that the last call was made on. -/
theorem leaves_what_result_implies (operation : String) (maxAttempts : Nat) (f : Ask σ α)
    {backoff : Nat → Line σ → Bool × Line σ} (plain : Plain dial) (rests : Rests backoff)
    (fit : l.connection.Fit) :
    let r : Retry.Attempts (Line σ) α := ⟨attempt operation dial f, backoff⟩
    let starts := Retry.starts r (maxAttempts - 1) 1 l
    let q := Retry.run operation maxAttempts r l
    (starts.length ≤ max 1 maxAttempts ∧ q.2.calls ≤ l.calls + starts.length) ∧
      (∀ t ∈ starts, ∃ k, Goes operation dial f t k (attempt operation dial f t)) ∧
      (∀ a, q.1 = .ok a → q.2.connection.isUsable = true) ∧
      (∀ e, q.1 = .error e → e.isConnectionFailure = true → q.2.connection.connected = false) ∧
      (∀ e status, q.1 = .error e → e.root = .rpc status →
        status.code ∉ [StatusCode.unavailable, .deadlineExceeded, .cancelled] →
        ∃ t n, starts.getLast? = some t ∧ Goes operation dial f t (some n) (attempt operation dial f t) ∧
          q.2.connection.channel? = .ok n) ∧
      q.2.connection.Fit := by
  intro r starts q
  have ended : Retry.Ended r operation (maxAttempts - 1) 1 l q :=
    Retry.ended_attemptsFrom r operation (maxAttempts - 1) 1 l
  have keeps : ∀ n (t : Line σ), t.connection.Fit → (backoff n t).2.connection.Fit :=
    fun n t h => (rests.connection n t).symm ▸ h
  have fits := ended.forall_starts (p := fun t => t.connection.Fit)
    (fun t => fit_attempt operation dial f) keeps fit
  have goes : ∀ t ∈ starts, ∃ k, Goes operation dial f t k (attempt operation dial f t) :=
    fun t ht => goes_attempt operation dial f (fits t ht)
  have calls : q.2.calls ≤ l.calls + starts.length := by
    refine ended.count_le (fun t ht => ?_) rests.calls
    obtain ⟨k, h⟩ := goes t ht
    rw [h.calls]
    split
    · exact Nat.le_refl _
    · exact Nat.le_succ _
  have within : starts.length ≤ max 1 maxAttempts := by
    have most : starts.length ≤ maxAttempts - 1 + 1 := ended.length_starts
    omega
  -- Only the last attempt matters to the result.
  obtain ⟨t, last, closes⟩ := ended.closes
  obtain ⟨k, h⟩ := goes t (List.mem_of_getLast? last)
  refine ⟨⟨within, calls⟩, goes, fun a ok => ?_, fun e failed meant => ?_,
    fun e status failed root other => ?_,
    ended.keeps (p := fun t => t.connection.Fit) (fun t => fit_attempt operation dial f) keeps fit⟩
  · have came : attempt operation dial f t = q := closes.of_ok ok
    rw [came] at h
    exact h.usable ok
  · rcases closes.of_error failed with ⟨e', came, same⟩ | ⟨n, rfl⟩
    · have lost := h.lost (congrArg Prod.fst came) (isConnectionFailure_congr same ▸ meant)
      rwa [show attempt operation dial f t = _ from came] at lost
    · cases meant
  · rcases closes.of_error failed with ⟨e', came, same⟩ | ⟨n, rfl⟩
    · obtain ⟨n, rfl, kept⟩ := h.kept plain (congrArg Prod.fst came) (same ▸ root)
        (isConnectionFailure_rpc (same ▸ root) other)
      rw [show (attempt operation dial f t).2 = _ from congrArg Prod.snd came] at kept
      exact ⟨t, n, last, h, kept⟩
    · cases root

/-- A peer that cannot be reached at first. -/
def shy : Dial Nat := fun n => (if n = 0 then some (.transport "refused") else none, n + 1)

/-- A peer that is gone after the first call, and does not know who calls again. -/
def forgetful : Ask Nat Unit := fun n =>
  (.refusal (if n = 2 then ⟨.unavailable, "gone"⟩ else ⟨.notFound, "no such worker"⟩), n + 1)

/-- Its dials fail without a status. -/
theorem shy_plain : Plain shy := by
  intro n e failed status root
  unfold shy at failed
  split at failed
  · cases failed
    cases root
  · cases failed

/-- What a first call to them comes to. -/
def firstProbe : Except Failure Unit × Line Nat :=
  call "probe" false shy forgetful ⟨.new .default .connection, .default, .zero, 0, 0⟩

/-- A dial that fails, a channel that is lost with the call on it, and a call that is refused on the next
one, which is kept. -/
theorem leaves_what_result_implies_refused :
    let refused := Failure.nonRetriable "probe" (.rpc ⟨.notFound, "no such worker"⟩)
    Plain shy ∧ Rests (backoff false (σ := Nat)) ∧ (Connection.new .default .connection).Fit ∧
      firstProbe.1 = .error refused ∧ firstProbe.2.calls = 2 ∧
      firstProbe.2.connection.channel? = .ok 2 := by
  intro refused
  have fit : (Connection.new .default .connection).Fit := ⟨rfl, nofun⟩
  have result : firstProbe.1 = .error refused := by
    have failed : (match firstProbe.1 with
      | .error e => e == refused
      | .ok _ => false) = true := by decide +kernel
    generalize firstProbe.1 = r at failed ⊢
    cases r with
    | error e => rw [beq_iff_eq.mp failed]
    | ok => cases failed
  have leaves := leaves_what_result_implies (l := ⟨.new .default .connection, .default, .zero, 0, 0⟩)
    "probe" Retry.Policy.default.maxAttempts forgetful shy_plain (rests_backoff false) fit
  have run : firstProbe = Retry.run "probe" Retry.Policy.default.maxAttempts
      ⟨attempt "probe" shy forgetful, backoff false⟩
      ⟨.new .default .connection, .default, .zero, 0, 0⟩ := by
    unfold firstProbe call
    rfl
  simp only [← run] at leaves
  obtain ⟨-, -, -, -, kept, -⟩ := leaves
  obtain ⟨t, n, -, -, channel⟩ := kept refused ⟨.notFound, "no such worker"⟩ result rfl (by decide)
  have installed := (Traffic.installed_of_channel? channel).2
  have second : firstProbe.2.connection.channel = some 2 := by decide +kernel
  rw [second, Option.some.injEq] at installed
  subst installed
  exact ⟨shy_plain, rests_backoff false, fit, result, by decide +kernel, channel⟩

end Line

/-- What is wrong with files is no status. -/
theorem root_tlsProblem? {w : Surroundings} {t : Settings.ClientTls} {e : Failure}
    (h : tlsProblem? w t = some e) (status : Status) : e.root ≠ .rpc status := by
  unfold tlsProblem? at h
  split at h
  · cases h
    nofun
  · split at h
    · cases h
      nofun
    · obtain ⟨why, -, rfl⟩ := Option.map_eq_some_iff.mp h
      nofun

/-- A dial fails with no status, whatever it meets. -/
theorem root_dialFailure? {w : Surroundings} {s : Settings.Connection} {e : Failure}
    (h : dialFailure? w s = some e) (status : Status) : e.root ≠ .rpc status := by
  unfold dialFailure? at h
  split at h
  · cases h
    nofun
  · rw [Option.orElse_eq_orElse, Option.orElse_eq_or, Option.or_eq_some_iff] at h
    rcases h with files | ⟨-, contact⟩
    · split at files
      · exact root_tlsProblem? files status
      · cases files
    · split at contact
      · cases contact
      · cases contact
        nofun
      · cases contact
        nofun

end WorkDispatch.Connection

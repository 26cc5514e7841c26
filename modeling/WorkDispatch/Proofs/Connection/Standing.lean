import Mathlib.Logic.Relation
import WorkDispatch.Proofs.Connection.Calling

/-!
# A connection that is connected has a channel

What is known of a connection is written in three places: whether it is connected, its connectivity, and
the channel that is installed. Few writes touch all three. `Writes` lists every write that is one step, so
that nothing comes between its parts: a dial writes once when it begins and once when it ends, a call and a
probe when they fail, closing first bars dials and then takes the channel away. They are taken in any
order, whoever writes and whatever was asked before: a dial that asked whether the connection is closed may
begin after it was, and a probe may speak of a channel that is gone.

`Standing` says that a connection that is connected has a channel and that its connectivity is no failure,
and every write keeps it (`Standing.writes`). So whoever asks for a channel gets one exactly when the
connection is usable (`channel_iff_usable`). All that happens in a traffic is such writes
(`Traffic.reaches_applyAll`), and so is all that is done on a line (`Line.reaches_connect`, `Line.reaches_call`).
-/

set_option autoImplicit false

namespace WorkDispatch.Connection

/-! ## Writes -/

/-- One write to a connection. -/
inductive Writes (c : Connection) : Connection → Prop
  /-- A dial begins. What is installed stays in use. -/
  | dialing : Writes c { c with connectivity := .connecting }
  | dialed (failure : Option Failure) : Writes c (c.endDial failure)
  | failed (f : Failure) : Writes c (c.noteFailure f)
  /-- A probe of a channel of any number, late or not. -/
  | silent (channel : Nat) : Writes c (c.noteSilence channel)
  | markedDisconnected : Writes c c.markDisconnected
  | counted : Writes c c.countReconnect
  /-- The breaker is told something. -/
  | told (b : Breaker) : Writes c { c with breaker := b }
  /-- No dial begins from here on. -/
  | barred : Writes c { c with closed := true }
  | emptied : Writes c ({ c with channel := none }.disconnect .shutdown)

/-- Writes lead from one state of a connection to another. -/
abbrev Reaches : Connection → Connection → Prop := Relation.ReflTransGen Writes

variable {c c' : Connection}

/-- To close a connection is two writes, between which anything may happen. -/
theorem reaches_close (c : Connection) : Reaches c c.close := by
  unfold Connection.close
  split
  · exact .refl
  · exact .tail (.single .barred) .emptied

/-! ## What every write keeps -/

/-- If it is connected then a channel is installed, and its connectivity is no failure. -/
structure Standing (c : Connection) : Prop where
  installed : c.connected = true → ∃ n, c.channel = some n
  connectivity : c.connected = true → c.connectivity = .connecting ∨ c.connectivity = .ready

/-- A new connection is not connected. -/
theorem standing_new (s : Settings.Connection) (b : Breaker.Config) : (new s b).Standing := ⟨nofun, nofun⟩

/-- A connection that is not connected stands, whatever else is known of it. -/
theorem standing_disconnect (c : Connection) (k : Connectivity) : (c.disconnect k).Standing :=
  ⟨nofun, nofun⟩

/-- No single write connects without a channel. -/
theorem Standing.writes (h : c.Standing) (w : Writes c c') : c'.Standing := by
  cases w with
  | dialing => exact ⟨h.installed, fun _ => .inl rfl⟩
  | dialed failure =>
    cases failure with
    | some f => exact standing_disconnect c .transientFailure
    | none => exact ⟨fun _ => ⟨_, rfl⟩, fun _ => .inr rfl⟩
  | failed f =>
    unfold noteFailure
    split
    · exact standing_disconnect c .transientFailure
    · exact h
  | silent channel =>
    unfold noteSilence
    split
    · exact standing_disconnect c .transientFailure
    · exact h
  | markedDisconnected => exact standing_disconnect c .transientFailure
  | counted | told | barred => exact ⟨h.installed, h.connectivity⟩
  | emptied => exact standing_disconnect _ .shutdown

/-- Nor do any writes, one after another. -/
theorem Standing.reaches (h : c.Standing) (writes : Reaches c c') : c'.Standing := by
  induction writes with
  | refl => exact h
  | tail _ last ih => exact ih.writes last

/-! ## Asking for a channel -/

/-- A connection that stands is usable when it is connected. -/
theorem Standing.usable (h : c.Standing) (connected : c.connected = true) : c.isUsable = true := by
  unfold isUsable
  rcases h.connectivity connected with connecting | ready
  · rw [connected, connecting]
    rfl
  · rw [connected, ready]
    rfl

/-- A usable connection has a channel, and gives it. -/
theorem Standing.channel?_ok (h : c.Standing) (usable : c.isUsable = true) :
    ∃ n, c.channel = some n ∧ c.channel? = .ok n := by
  obtain ⟨n, installed⟩ := h.installed (Traffic.connected_of_isUsable usable)
  exact ⟨n, installed, channel?_of_installed usable installed⟩

/-- One that refuses is not connected, and says in which state it is. -/
theorem Standing.channel?_error (h : c.Standing) {e : Failure} (refused : c.channel? = .error e) :
    c.connected = false ∧ e = .notConnected ("no usable channel to " ++ c.settings.endpoint ++
      " (" ++ c.connectivity.label ++ ")") := by
  cases connected : c.connected with
  | true =>
    obtain ⟨n, -, given⟩ := h.channel?_ok (h.usable connected)
    rw [refused] at given
    cases given
  | false =>
    have unusable : ¬ c.isUsable = true := by
      unfold isUsable
      rw [connected]
      exact Bool.false_ne_true
    unfold Connection.channel? at refused
    rw [if_neg unusable] at refused
    cases refused
    exact ⟨rfl, rfl⟩

/-! ## What happens in a traffic -/

namespace Traffic

/-- Each event of the traffic is some writes. -/
theorem reaches_apply (t : Traffic) (e : Event) : Reaches t.connection (t.apply e).connection := by
  cases e with
  | dial =>
    simp only [apply, beginDial]
    split
    · exact .refl
    · split
      · next begun =>
        split at begun
        · cases begun
        · cases begun
          exact .single .dialing
      · exact .refl
  | dialed failure =>
    simp only [apply]
    split
    · exact .single (.dialed failure)
    · exact .refl
  | dialDropped => exact .refl
  | call =>
    simp only [apply]
    split
    · exact .refl
    · exact .refl
  | replied number failure =>
    simp only [apply]
    split
    · exact .single (.failed _)
    · exact .refl
    · exact .refl
  | silent channel =>
    simp only [apply]
    split
    · exact .single (.silent channel)
    · exact .refl
  | markDisconnected => exact .single .markedDisconnected
  -- The one event that is two writes, between which anything may happen.
  | reconnect => exact .tail (.single .markedDisconnected) .counted
  | close => exact reaches_close t.connection

/-- So are all events together. -/
theorem reaches_applyAll (t : Traffic) (es : List Event) :
    Reaches t.connection (t.applyAll es).connection := by
  induction es generalizing t with
  | nil => exact .refl
  | cons e es ih => exact (reaches_apply t e).trans (ih (t.apply e))

end Traffic

/-! ## What is done on a line -/

namespace Line

variable {σ α : Type} {l l' : Line σ}

/-- To establish a connection is some writes. -/
theorem reaches_establish (dial : Dial σ) (l : Line σ) :
    Reaches l.connection (establish dial l).2.connection := by
  unfold establish
  split
  · exact .refl
  · next begun =>
    unfold beginDial at begun
    split at begun
    · cases begun
    · cases begun
      simp only
      split
      · next made =>
        exact .tail (.single .dialing) (.dialed (dial l.outside).1)
      · exact .tail (.single .dialing) (.dialed (dial l.outside).1)

/-- So is to dial behind the breaker. -/
theorem reaches_guardedDial (dial : Dial σ) (l : Line σ) :
    Reaches l.connection (guardedDial dial l).2.connection := by
  unfold guardedDial
  rcases arrived : (place.get l).arrive (place.now l) with ⟨admitted, b⟩
  cases admitted with
  | false =>
    rw [Breaker.guarded_of_rejected arrived]
    exact .single (.told b)
  | true =>
    rcases dialed : establish dial (place.set b l) with ⟨r, l'⟩
    rw [Breaker.guarded_of_admitted arrived dialed]
    have writes := reaches_establish dial (place.set b l)
    rw [dialed] at writes
    exact .tail (.head (.told b) writes) (.told _)

/-- So is to reconnect once. -/
theorem reaches_reconnectOnce (dial : Dial σ) (l : Line σ) :
    Reaches l.connection (reconnectOnce dial l).2.connection := by
  unfold reconnectOnce
  split
  · exact .refl
  · split
    · exact .refl
    · exact .head .counted (reaches_guardedDial dial (l.modify countReconnect))

/-- So is to ask. -/
theorem reaches_ask (operation : String) (f : Ask σ α) (l : Line σ) :
    Reaches l.connection (ask operation f l).2.connection := by
  rcases channel : l.connection.channel? with e | n
  · unfold ask
    rw [channel]
  · rw [(asked_ask channel).connection]
    split
    · exact .refl
    · exact .single (.failed _)

/-- So is an attempt. -/
theorem reaches_attempt (operation : String) (dial : Dial σ) (f : Ask σ α) (l : Line σ) :
    Reaches l.connection (attempt operation dial f l).2.connection := by
  unfold attempt
  split
  · exact reaches_ask operation f l
  · have dialed := reaches_reconnectOnce dial l
    split
    · next l' connected =>
      rw [connected] at dialed
      exact dialed.trans (reaches_ask operation f l')
    · next e l' failed =>
      rw [failed] at dialed
      exact dialed

/-- A run of attempts, each of which is writes, is writes. -/
theorem reaches_run (operation : String) (maxAttempts : Nat) (cancelled : Bool)
    {attempt : Line σ → Except Failure α × Line σ}
    (writes : ∀ l, Reaches l.connection (attempt l).2.connection) (l : Line σ) :
    Reaches l.connection
      (Retry.run operation maxAttempts ⟨attempt, backoff cancelled⟩ l).2.connection := by
  have ended := Retry.ended_attemptsFrom ⟨attempt, backoff cancelled⟩ operation (maxAttempts - 1) 1 l
  refine ended.keeps (p := fun l' => Reaches l.connection l'.connection) (fun l' before => ?_)
    (fun n l' before => ?_) .refl
  · exact before.trans (writes l')
  · rw [(rests_backoff cancelled).connection n l']
    exact before

/-- So is to connect. -/
theorem reaches_connect (dial : Dial σ) (l : Line σ) :
    Reaches l.connection (connect dial l).2.connection :=
  reaches_run "connect" l.policy.maxAttempts l.connection.closed (reaches_guardedDial dial) l

/-- So is to reconnect, however often it is tried. -/
theorem reaches_reconnect (dial : Dial σ) (l : Line σ) :
    Reaches l.connection (reconnect dial l).2.connection := by
  have given : Reaches l.connection l.connection.markDisconnected.countReconnect :=
    .tail (.single .markedDisconnected) .counted
  exact given.trans (reaches_connect dial (l.modify fun c => c.markDisconnected.countReconnect))

/-- So is a call, however often it is tried. -/
theorem reaches_call (operation : String) (cancelled : Bool) (dial : Dial σ) (f : Ask σ α)
    (l : Line σ) : Reaches l.connection (call operation cancelled dial f l).2.connection :=
  reaches_run operation l.policy.maxAttempts cancelled (reaches_attempt operation dial f) l

end Line

/-! ## Every state -/

/-- In every state that writes in any order lead to from a new connection, one that is connected has a
channel and is connecting or ready. So a channel is given exactly if the connection is usable, which it is
when it is connected; it is the installed one, and what is refused is always refused for want of a usable
one. What happens in a traffic, dials given up and late probes included, leads to such states only, and so
does all that is done on a line. -/
theorem channel_iff_usable (s : Settings.Connection) (b : Breaker.Config) :
    (∀ c, Reaches (.new s b) c →
      (c.connected = true →
        (∃ n, c.channel = some n) ∧ (c.connectivity = .connecting ∨ c.connectivity = .ready)) ∧
      ((∃ n, c.channel? = .ok n) ↔ c.isUsable = true) ∧
      (c.isUsable = true ↔ c.connected = true) ∧
      (c.isUsable = true → ∃ n, c.channel = some n ∧ c.channel? = .ok n) ∧
      ∀ e, c.channel? = .error e → e = .notConnected ("no usable channel to " ++ c.settings.endpoint ++
        " (" ++ c.connectivity.label ++ ")")) ∧
    (∀ es, Reaches (.new s b) ((Traffic.idle (.new s b)).applyAll es).connection) ∧
    ∀ (σ α : Type) (operation : String) (cancelled : Bool) (dial : Dial σ) (f : Ask σ α) (l : Line σ),
      Reaches (.new s b) l.connection →
        Reaches (.new s b) (l.connect dial).2.connection ∧
        Reaches (.new s b) (l.reconnect dial).2.connection ∧
        Reaches (.new s b) (l.call operation cancelled dial f).2.connection := by
  refine ⟨fun c writes => ?_, fun es => Traffic.reaches_applyAll (.idle (.new s b)) es,
    fun σ α operation cancelled dial f l writes => ⟨?_, ?_, ?_⟩⟩
  · have standing : c.Standing := (standing_new s b).reaches writes
    refine ⟨fun connected => ⟨standing.installed connected, standing.connectivity connected⟩,
      ⟨fun ⟨n, given⟩ => isUsable_of_channel? given, fun usable => ?_⟩,
      ⟨Traffic.connected_of_isUsable, standing.usable⟩, standing.channel?_ok,
      fun e refused => (standing.channel?_error refused).2⟩
    obtain ⟨n, -, given⟩ := standing.channel?_ok usable
    exact ⟨n, given⟩
  · exact writes.trans (Line.reaches_connect dial l)
  · exact writes.trans (Line.reaches_reconnect dial l)
  · exact writes.trans (Line.reaches_call operation cancelled dial f l)

/-- A dial begins while a channel is in use, which calls are still made on. -/
theorem channel_iff_usable_redialed :
    let c := (Traffic.unused.applyAll [.dial, .dialed none, .dial]).connection
    c.connectivity = .connecting ∧ c.isUsable = true ∧ ∃ n, c.channel = some n ∧ c.channel? = .ok n := by
  intro c
  obtain ⟨every, happens, -⟩ := channel_iff_usable .default .connection
  obtain ⟨-, -, inUse, given, -⟩ := every c (happens _)
  have usable : c.isUsable = true := inUse.mpr (by decide)
  exact ⟨by decide, usable, given usable⟩

end WorkDispatch.Connection

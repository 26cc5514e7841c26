import WorkDispatch.Connection.Traffic

/-!
# Closing a connection

A connection that was closed begins no dial, and nothing but the end of a dial makes a connection usable.
So `Shut` is kept by every event but one: the dial that was in flight when the connection was closed, if
it ends well. Whether the connection is closed is asked before a dial and not after it, so the channel
of such a dial is installed, and calls are made on it.

`barred_after_close_iff` says that this is the only way: a connection that is closed bars every call for
good if and only if no dial was in flight or that dial does not end with a channel. A dial begins, ends
and is given up in one step each, and a close is one step.
-/

set_option autoImplicit false

namespace WorkDispatch.Connection

/-! ## One change -/

/-- Closed, and without a channel in use. -/
structure Shut (c : Connection) : Prop where
  closed : c.closed = true
  unconnected : c.connected = false

variable {c : Connection}

/-- A connection that is shut is not usable. -/
theorem Shut.isUsable (h : c.Shut) : c.isUsable = false := by
  rw [Connection.isUsable, h.unconnected]
  rfl

/-- It gives no channel. -/
theorem Shut.channel? (h : c.Shut) : ∃ e, c.channel? = .error e := by
  unfold Connection.channel?
  rw [h.isUsable]
  exact ⟨_, rfl⟩

/-- It begins no dial. -/
theorem Shut.beginDial (h : c.Shut) : c.beginDial = .error closedFailure := by
  unfold Connection.beginDial
  rw [h.closed]
  rfl

/-- It stays shut when it is marked. -/
theorem Shut.markDisconnected (h : c.Shut) : c.markDisconnected.Shut := ⟨h.closed, rfl⟩

/-- It stays shut whatever failure it notes. -/
theorem Shut.noteFailure (h : c.Shut) (f : Failure) : (c.noteFailure f).Shut := by
  unfold Connection.noteFailure
  split
  · exact h.markDisconnected
  · exact h

/-- It stays shut whatever silence it notes. -/
theorem Shut.noteSilence (h : c.Shut) (channel : Nat) : (c.noteSilence channel).Shut := by
  unfold Connection.noteSilence
  split
  · exact h.markDisconnected
  · exact h

/-- It stays shut when it is closed again. -/
theorem Shut.close (h : c.Shut) : c.close.Shut := by
  unfold Connection.close
  rw [h.closed]
  exact h

/-- Closing shuts. -/
theorem shut_close (h : c.closed = false) : c.close.Shut := by
  unfold Connection.close
  rw [h]
  exact ⟨rfl, rfl⟩

namespace Traffic

variable {t : Traffic}

/-! ## One event -/

/-- A dial in flight, if there is one, is over. -/
def Event.endsDial : Event → Bool
  | .dialed _ | .dialDropped => true
  | _ => false

/-- Nothing opens what is shut, but the end of a dial that was under way. -/
theorem Shut.next (h : t.connection.Shut) {e : Event}
    (he : t.dialing = false ∨ e ≠ .dialed none) : (t.apply e).connection.Shut := by
  cases e with
  | dial =>
    simp only [apply, h.beginDial, ite_self]
    exact h
  | dialed failure =>
    cases hd : t.dialing with
    | false =>
      simp only [apply, hd, Bool.false_eq_true, if_false]
      exact h
    | true =>
      simp only [apply, hd, if_true]
      cases failure with
      -- The one case that the assumption keeps out.
      | none => simp [hd] at he
      | some f => exact h.markDisconnected
  | dialDropped => exact h
  | call =>
    obtain ⟨e, refused⟩ := h.channel?
    simp only [apply, refused]
    exact h
  | replied number failure =>
    simp only [apply]
    split
    · exact h.noteFailure _
    · exact h
    · exact h
  | silent channel =>
    simp only [apply]
    split
    · exact h.noteSilence channel
    · exact h
  | markDisconnected => exact h.markDisconnected
  | reconnect => exact ⟨h.closed, rfl⟩
  | close => exact h.close

/-- A closed connection begins no dial, so a dial in flight was so before. -/
theorem Shut.dialing_next (h : t.connection.Shut) (e : Event) :
    (t.apply e).dialing = (t.dialing && !e.endsDial) := by
  cases e with
  | dial =>
    simp only [apply, h.beginDial, ite_self]
    exact (Bool.and_true _).symm
  | dialed failure =>
    cases hd : t.dialing with
    | false => simp only [apply, hd, Bool.false_eq_true, if_false, Bool.false_and]
    | true =>
      simp only [apply, hd, if_true]
      rfl
  | dialDropped => exact (Bool.and_false _).symm
  | call =>
    obtain ⟨e, refused⟩ := h.channel?
    simp only [apply, refused]
    exact (Bool.and_true _).symm
  | replied number failure =>
    simp only [apply]
    split
    · exact (Bool.and_true _).symm
    · exact (Bool.and_true _).symm
    · exact (Bool.and_true _).symm
  | silent channel =>
    simp only [apply]
    split
    · exact (Bool.and_true _).symm
    · exact (Bool.and_true _).symm
  | markDisconnected => exact (Bool.and_true _).symm
  | reconnect => exact (Bool.and_true _).symm
  | close => exact (Bool.and_true _).symm

/-- A dial in flight that ends well makes the connection usable, closed or not. -/
theorem isUsable_dialed (h : t.dialing = true) :
    (t.apply (.dialed none)).connection.isUsable = true := by
  simp only [apply, h, if_true]
  rfl

/-! ## Every run -/

/-- No call can be made on the connection, and none begins. -/
structure Barred (t : Traffic) : Prop where
  unusable : t.connection.isUsable = false
  refused : ∃ e, t.connection.channel? = .error e
  still : t.apply .call = t

/-- What is shut, with no dial under way, is barred for good. -/
theorem Shut.barred (h : t.connection.Shut) : t.Barred := by
  obtain ⟨e, refused⟩ := h.channel?
  exact ⟨h.isUsable, ⟨e, refused⟩, by simp only [apply, refused]⟩

/-- Whether a dial in flight ends with a channel: the first of the events that end it is its success. -/
def dialEndsWell : List Event → Bool
  | [] => false
  | e :: es => if e.endsDial then e == .dialed none else dialEndsWell es

/-- Only the first end of a dial matters. -/
theorem dialEndsWell_cons {e : Event} (he : e ≠ .dialed none) (es : List Event) :
    dialEndsWell (e :: es) = (!e.endsDial && dialEndsWell es) := by
  rw [dialEndsWell, beq_false_of_ne he]
  cases e.endsDial with
  | true => rfl
  | false => rfl

/-- What holds all along holds now and all along afterwards. -/
theorem prefixes_cons {p : Traffic → Prop} (t : Traffic) (e : Event) (es : List Event) :
    (∀ later, later <+: e :: es → p (t.applyAll later)) ↔
      p t ∧ ∀ later, later <+: es → p ((t.apply e).applyAll later) := by
  constructor
  · intro h
    exact ⟨h [] List.nil_prefix, fun later hl => h (e :: later) (List.cons_prefix_cons.mpr ⟨rfl, hl⟩)⟩
  · rintro ⟨now, after⟩ later hl
    cases later with
    | nil => exact now
    | cons e' later =>
      obtain ⟨rfl, rest⟩ := List.cons_prefix_cons.mp hl
      exact after later rest

/-- From a shut connection on, every state bars every call unless the dial in flight ends well. -/
theorem Shut.barred_iff (h : t.connection.Shut) (es : List Event) :
    (∀ later, later <+: es → (t.applyAll later).Barred) ↔
      ¬ (t.dialing = true ∧ dialEndsWell es = true) := by
  induction es generalizing t with
  | nil =>
    refine iff_of_true ?_ (fun ended => nomatch ended.2)
    intro later hl
    rw [List.prefix_nil.mp hl]
    exact Shut.barred h
  | cons e es ih =>
    rw [prefixes_cons, and_iff_right (Shut.barred h)]
    cases hd : t.dialing with
    | false =>
      -- Without a dial in flight now there is none later, and the connection stays shut.
      have idle : (t.apply e).dialing = false := by rw [Shut.dialing_next h, hd, Bool.false_and]
      rw [ih (Shut.next h (.inl hd)), idle]
      exact iff_of_true nofun nofun
    | true =>
      by_cases well : e = .dialed none
      · -- The one event that does not leave the connection shut.
        subst well
        refine iff_of_false ?_ (fun denied => denied ⟨rfl, rfl⟩)
        intro barred
        have unusable : (t.apply (.dialed none)).connection.isUsable = false :=
          (barred [] List.nil_prefix).unusable
        rw [isUsable_dialed hd] at unusable
        cases unusable
      · rw [ih (Shut.next h (.inr well)), Shut.dialing_next h, hd, dialEndsWell_cons well]
        simp only [Bool.true_and, Bool.and_eq_true, true_and]

/-- Once a connection is closed no call can be made on it and none begins, in any later state, if and only
if no dial was in flight then or that dial does not end with a channel. -/
theorem barred_after_close_iff (hc : t.connection.closed = false) (es : List Event) :
    (∀ later, later <+: es → ((t.apply .close).applyAll later).Barred) ↔
      ¬ (t.dialing = true ∧ dialEndsWell es = true) :=
  Shut.barred_iff (t := t.apply .close) (shut_close hc) es

/-- A connection with its default settings. -/
def unused : Traffic := idle (.new .default .connection)

/-- A dial fails and the connection is closed. Nobody can use it after that, whatever is tried. -/
theorem barred_after_close_iff_unused :
    let t := unused.applyAll [.dial, .dialed (some (.transport "refused"))]
    t.connection.closed = false ∧
      ((t.apply .close).applyAll [.dial, .reconnect, .dialed none, .call]).Barred := by
  intro t
  have unclosed : t.connection.closed = false := by decide
  have idle : ¬ (t.dialing = true ∧ dialEndsWell [.dial, .reconnect, .dialed none, .call] = true) := by
    decide
  exact ⟨unclosed, (barred_after_close_iff unclosed _).mpr idle _ List.prefix_rfl⟩

/-- The connection is closed while a dial is in flight, and the dial ends well. The connection is usable,
and the next call is made on its channel. -/
theorem closed_connection_reopened :
    let t := unused.applyAll [.dial, .close]
    let t' := t.applyAll [.dialed none]
    t.connection.closed = true ∧ t.connection.isUsable = false ∧ t'.connection.closed = true ∧
      t'.connection.isUsable = true ∧ (t'.apply .call).calls = [1] := by
  decide

end Traffic

end WorkDispatch.Connection

import WorkDispatch.Proofs.Connection.Closing

/-!
# What takes a channel out of use

A connection in use loses its channel for one of six causes (`IsCause`): a dial fails, a call or a probe
of the channel that is installed fails, or somebody outside gives the channel up, asks for another one
or closes the connection. Channels are numbered as they are installed, and a probe says which one it
asked; so a probe of a channel that was replaced meanwhile changes nothing (`silent_replaced`).

A call does not say on which channel it was made. One that comes back after its channel was replaced
(`IsLate`) takes the next channel out of use, on which nothing has failed. `given_up_for_cause_iff` says
that this is the only other way: along a run every loss has its cause if and only if no such call comes
back to a connection in use. `late_call_takes_next_channel` is a run in which one does.

Whether the channel that is given up was still any good is not said.
-/

set_option autoImplicit false

namespace WorkDispatch.Connection.Traffic

variable {t : Traffic}

/-! ## Channels and their numbers -/

/-- A connection that is connected has the latest channel, and no call is on a later one. -/
structure Sound (t : Traffic) : Prop where
  latest : t.connection.connected = true → t.connection.channel = some t.connection.generation
  made : ∀ n ∈ t.calls, n ≤ t.connection.generation

/-- What is usable is connected. -/
theorem connected_of_isUsable {c : Connection} (h : c.isUsable = true) : c.connected = true :=
  (Bool.and_eq_true_iff.mp h).1

/-- The channel that a call is made on is the one that is installed. -/
theorem installed_of_channel? {c : Connection} {n : Nat} (h : c.channel? = .ok n) :
    c.connected = true ∧ c.channel = some n := by
  unfold Connection.channel? at h
  split at h
  · next usable =>
    split at h
    · next m installed =>
      cases h
      exact ⟨connected_of_isUsable usable, installed⟩
    · cases h
  · cases h

/-- Nothing goes on over a new connection. -/
theorem sound_idle (s : Settings.Connection) (b : Breaker.Config) : (idle (.new s b)).Sound :=
  ⟨nofun, nofun⟩

/-- Giving a channel up leaves the numbers as they are. -/
theorem Sound.disconnect (h : t.Sound) (k : Connectivity) : (t.modify (·.disconnect k)).Sound :=
  ⟨nofun, h.made⟩

/-- A failure that is noted installs no channel. -/
theorem Sound.noteFailure (h : t.Sound) (f : Failure) : (t.modify (·.noteFailure f)).Sound := by
  simp only [modify, Connection.noteFailure]
  split
  · exact h.disconnect .transientFailure
  · exact h

/-- Nor does silence that is noted. -/
theorem Sound.noteSilence (h : t.Sound) (n : Nat) : (t.modify (·.noteSilence n)).Sound := by
  simp only [modify, Connection.noteSilence]
  split
  · exact h.disconnect .transientFailure
  · exact h

/-- Nor does closing. -/
theorem Sound.close (h : t.Sound) : (t.modify Connection.close).Sound := by
  unfold modify Connection.close
  split
  · exact h
  · exact ⟨nofun, h.made⟩

/-- A call that ended leaves the others sound. -/
theorem Sound.ended (h : t.Sound) (number : Nat) : Sound { t with calls := t.calls.eraseIdx number } :=
  ⟨h.latest, fun n hn => h.made n (List.mem_of_mem_eraseIdx hn)⟩

/-- An event leaves the traffic sound. -/
theorem Sound.apply (h : t.Sound) (e : Event) : (t.apply e).Sound := by
  cases e with
  | dial =>
    simp only [Traffic.apply, Connection.beginDial]
    split
    · exact h
    · split
      · next begun =>
        split at begun
        · cases begun
        · cases begun
          exact ⟨h.latest, h.made⟩
      · exact h
  | dialed failure =>
    simp only [Traffic.apply]
    split
    · cases failure with
      | some f => exact ⟨fun connected => absurd connected Bool.false_ne_true, h.made⟩
      -- The calls under way keep the number of the channel that was replaced.
      | none => exact ⟨fun _ => rfl, fun n hn => Nat.le_succ_of_le (h.made n hn)⟩
    · exact h
  | dialDropped => exact ⟨h.latest, h.made⟩
  | call =>
    simp only [Traffic.apply]
    split
    · next n asked =>
      obtain ⟨connected, installed⟩ := installed_of_channel? asked
      refine ⟨h.latest, fun m hm => ?_⟩
      rcases List.mem_append.mp hm with before | new
      · exact h.made m before
      · rw [h.latest connected, Option.some.injEq] at installed
        cases List.mem_singleton.mp new
        exact Nat.le_of_eq installed.symm
    · exact h
  | replied number failure =>
    simp only [Traffic.apply]
    split
    · exact (h.noteFailure _).ended number
    · exact h.ended number
    · exact h
  | silent n =>
    simp only [Traffic.apply]
    split
    · exact h.noteSilence n
    · exact h
  | markDisconnected => exact h.disconnect .transientFailure
  | reconnect => exact ⟨fun connected => absurd connected Bool.false_ne_true, h.made⟩
  | close => exact h.close

/-- Whatever happens, the traffic stays sound. -/
theorem Sound.applyAll (h : t.Sound) (es : List Event) : (t.applyAll es).Sound := by
  induction es generalizing t with
  | nil => exact h
  | cons e es ih => exact ih (h.apply e)

/-! ## Causes -/

/-- The connection is in use before an event and out of use after it. -/
structure Loses (t : Traffic) (e : Event) : Prop where
  before : t.connection.isUsable = true
  after : (t.apply e).connection.isUsable = false

/-- What a channel may be given up for: a dial that fails, a call or a probe of the channel itself, or
somebody outside. -/
inductive IsCause (t : Traffic) : Event → Prop
  | dial (f : Failure) (dialing : t.dialing = true) : IsCause t (.dialed (some f))
  | call {number n : Nat} (f : Failure) (made : t.calls[number]? = some n)
      (current : t.connection.channel = some n) : IsCause t (.replied number (some f))
  | probe {n : Nat} (current : t.connection.channel = some n) : IsCause t (.silent n)
  | markDisconnected : IsCause t .markDisconnected
  | reconnect : IsCause t .reconnect
  | close : IsCause t .close

/-- A call that was made on a channel that has been replaced fails in a way that says something of a
connection. -/
inductive IsLate (t : Traffic) : Event → Prop
  | call {number n : Nat} {f : Failure} (made : t.calls[number]? = some n)
      (replaced : n < t.connection.generation) (meant : f.isConnectionFailure = true) :
      IsLate t (.replied number (some f))

/-- Nothing else takes a connection out of use. -/
theorem Sound.cause_or_late (h : t.Sound) {e : Event} (lost : t.Loses e) :
    t.IsCause e ∨ t.IsLate e := by
  have latest := h.latest (connected_of_isUsable lost.before)
  have same : ∀ {t' : Traffic}, t'.connection = t.connection → t'.connection.isUsable ≠ false := by
    intro t' unchanged
    rw [unchanged, lost.before]
    exact nofun
  have after := lost.after
  cases e with
  | dial =>
    simp only [Traffic.apply, Connection.beginDial] at after
    split at after
    · exact absurd after (same rfl)
    · split at after
      · next begun =>
        split at begun
        · cases begun
        · -- A dial that begins leaves the channel in use.
          cases begun
          have connected := connected_of_isUsable lost.before
          simp only [Connection.isUsable, connected, Bool.true_and] at after
          cases after
      · exact absurd after (same rfl)
  | dialed failure =>
    simp only [Traffic.apply] at after
    split at after
    · next dialing =>
      cases failure with
      | some f => exact .inl (.dial f dialing)
      | none => cases after
    · exact absurd after (same rfl)
  | dialDropped => exact absurd after (same rfl)
  | call =>
    simp only [Traffic.apply] at after
    split at after
    · exact absurd after (same rfl)
    · exact absurd after (same rfl)
  | replied number failure =>
    simp only [Traffic.apply] at after
    split at after
    · next n f made =>
      by_cases meant : f.isConnectionFailure = true
      · have upTo := h.made n (List.mem_of_getElem? made)
        -- The failure does not say of which channel it is, but the number of its call does.
        rcases Nat.lt_or_eq_of_le upTo with replaced | current
        · exact .inr (.call made replaced meant)
        · exact .inl (.call f made (current ▸ latest))
      · simp only [modify, Connection.noteFailure, meant] at after
        exact absurd after (same rfl)
    · exact absurd after (same rfl)
    · exact absurd after (same rfl)
  | silent n =>
    simp only [Traffic.apply] at after
    split at after
    · simp only [modify, Connection.noteSilence] at after
      split at after
      · next current => exact .inl (.probe (current ▸ latest))
      · exact absurd after (same rfl)
    · exact absurd after (same rfl)
  | markDisconnected => exact .inl .markDisconnected
  | reconnect => exact .inl .reconnect
  | close => exact .inl .close

/-- A late call takes the connection out of use, whatever channel is installed. -/
theorem IsLate.after {e : Event} (h : t.IsLate e) : (t.apply e).connection.isUsable = false := by
  cases h with
  | call made replaced meant =>
    simp only [Traffic.apply, made, modify, Connection.noteFailure, meant, if_true]
    rfl

/-- A late call is no cause. -/
theorem Sound.not_cause_of_late (h : t.Sound) (usable : t.connection.isUsable = true) {e : Event}
    (late : t.IsLate e) : ¬ t.IsCause e := by
  have latest := h.latest (connected_of_isUsable usable)
  intro cause
  cases late with
  | call made replaced =>
    cases cause with
    | call _ made' current =>
      rw [made, Option.some.injEq] at made'
      rw [latest, Option.some.injEq] at current
      omega

/-- An event that takes the connection out of use has a cause unless it is a late call. -/
theorem Sound.cause_iff (h : t.Sound) (e : Event) :
    (t.Loses e → t.IsCause e) ↔ (t.connection.isUsable = true → ¬ t.IsLate e) := by
  constructor
  · intro caused usable late
    exact h.not_cause_of_late usable late (caused ⟨usable, late.after⟩)
  · intro timely lost
    exact (h.cause_or_late lost).resolve_right (timely lost.before)

/-- A probe of a channel that has been replaced changes nothing. -/
theorem silent_replaced {n : Nat} (replaced : n < t.connection.generation) :
    t.apply (.silent n) = t := by
  simp only [Traffic.apply, modify, Connection.noteSilence, if_neg (Nat.ne_of_lt replaced), ite_self]

/-! ## Every run -/

/-- Along a run of a new connection, whatever happens to it in whatever order, every loss of a channel in
use has its cause if and only if no call comes back late, with a failure of the connection, while a
channel is in use. A probe that comes back late changes nothing. -/
theorem given_up_for_cause_iff (s : Settings.Connection) (b : Breaker.Config) (es : List Event) :
    let after (before : List Event) := (idle (.new s b)).applyAll before
    ((∀ before e, before ++ [e] <+: es → (after before).Loses e → (after before).IsCause e) ↔
      ∀ before e, before ++ [e] <+: es → (after before).connection.isUsable = true →
        ¬ (after before).IsLate e) ∧
    ∀ before n, before <+: es → n < (after before).connection.generation →
      (after before).apply (.silent n) = after before := by
  intro after
  refine ⟨?_, fun before n _ replaced => silent_replaced replaced⟩
  refine forall_congr' fun before => forall_congr' fun e => imp_congr_right fun _ => ?_
  have sound : (after before).Sound := (sound_idle s b).applyAll before
  exact sound.cause_iff e

/-- Two calls are made on one channel. The first fails, and the channel is replaced. -/
def replacement : List Event :=
  [.dial, .dialed none, .call, .call, .replied 0 (some (.rpc ⟨.unavailable, "gone"⟩)), .dial,
    .dialed none]

/-- The second call comes back when its channel has been replaced, and takes the new channel out of use,
on which no call was ever made. -/
theorem late_call_takes_next_channel :
    let t := unused.applyAll replacement
    let late := Event.replied 0 (some (.timeout "heartbeat exceeded 30s"))
    t.connection.channel = some 2 ∧ t.calls = [1] ∧ t.Loses late ∧ ¬ t.IsCause late := by
  intro t late
  have installed : t.connection.channel = some 2 := by decide
  have calls : t.calls = [1] := by decide
  refine ⟨installed, calls, ⟨by decide, by decide⟩, ?_⟩
  intro cause
  change t.IsCause (.replied 0 (some (.timeout "heartbeat exceeded 30s"))) at cause
  cases cause with
  | call _ made current =>
    rw [installed, Option.some.injEq] at current
    rw [calls, ← current] at made
    cases made

end WorkDispatch.Connection.Traffic

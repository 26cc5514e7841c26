import WorkDispatch.Worker.Client

/-!
# Whether a worker moves back

A start and its shutdowns are on their way at once, and each sets the phase that it comes to without
looking at the one that there is. So the phases need not come in their order: a start that goes on after
a shutdown has begun sets an earlier phase. `onward_iff` says that nothing else moves a worker back:
with one start, the phases come in their order, and a worker that was shut down stays stopped, if and
only if the start does not go on after a shutdown. `stopped_worker_runs` is a schedule in which it does.

`Client.events_start` and `Client.events_shutdown` are the schedules of a client that makes its calls
one after another. A shutdown after a whole start is in order (`Client.runFor_stops`).
-/

set_option autoImplicit false

namespace WorkDispatch.Worker

namespace Lifecycle

/-! ## Schedules -/

/-- The phases of a worker along a schedule, the first one first, each once as long as it lasts. -/
def passed (l : Lifecycle) : List Event → List Phase
  | [] => [l.phase]
  | e :: es =>
    if (l.apply e).phase = l.phase then passed (l.apply e) es else l.phase :: passed (l.apply e) es

/-- A start goes on with the event: it begins, or what it has waited for has succeeded. -/
def goesOn (l : Lifecycle) : Event → Bool
  | .start => l.start == .notBegun || l.start == .done
  | .connected succeeded => succeeded && l.start == .connecting
  | .registered succeeded => succeeded && l.start == .registering
  | .shutdown | .drained => false

/-- A shutdown begins with the event, and has something to do. -/
def shutsDown (l : Lifecycle) (e : Event) : Bool := e == .shutdown && l.canShutDown

/-- A start goes on after a shutdown has begun, which may have been before the schedule. -/
def resumes : Bool → Lifecycle → List Event → Bool
  | _, _, [] => false
  | down, l, e :: es => down && l.goesOn e || resumes (down || l.shutsDown e) (l.apply e) es

/-- No event of a schedule moves the worker to an earlier phase. -/
def Ascends : Lifecycle → List Event → Prop
  | _, [] => True
  | l, e :: es => Named.number l.phase ≤ Named.number (l.apply e).phase ∧ Ascends (l.apply e) es

/-! ## Phases in their order -/

/-- Phases have numbers of their own. -/
theorem eq_of_number_eq {p q : Phase} (h : Named.number p = Named.number q) : p = q := by
  cases p <;> cases q <;> first | rfl | cases h

/-- From a phase on come the phases with greater numbers. -/
theorem drop_number (p : Phase) : (Named.all (α := Phase)).drop (Named.number p) =
    p :: (Named.all (α := Phase)).drop (Named.number p + 1) := by
  cases p <;> rfl

/-- The first phase that is passed is the one at hand. -/
theorem exists_passed (l : Lifecycle) (es : List Event) : ∃ ps, l.passed es = l.phase :: ps := by
  induction es generalizing l with
  | nil => exact ⟨[], rfl⟩
  | cons e es ih =>
    unfold passed
    split
    · next same => exact same ▸ ih (l.apply e)
    · exact ⟨_, rfl⟩

/-- The phases come in their order if and only if none is earlier than the one before it. -/
theorem passed_sublist_iff {l : Lifecycle} {es : List Event} :
    (l.passed es).Sublist Named.all ↔ l.Ascends es := by
  have order : (Named.all (α := Phase)).Pairwise fun p q => Named.number p < Named.number q := by decide
  constructor
  · intro inOrder
    induction es generalizing l with
    | nil => trivial
    | cons e es ih =>
      unfold passed at inOrder
      split at inOrder
      · next same => exact ⟨Nat.le_of_eq (congrArg Named.number same.symm), ih inOrder⟩
      · refine ⟨?_, ih (List.sublist_of_cons_sublist inOrder)⟩
        obtain ⟨ps, next⟩ := exists_passed (l.apply e) es
        rw [next] at inOrder
        exact Nat.le_of_lt ((List.pairwise_cons.mp (order.sublist inOrder)).1 _ List.mem_cons_self)
  · intro ascends
    have fromPhase : (l.passed es).Sublist ((Named.all (α := Phase)).drop (Named.number l.phase)) := by
      induction es generalizing l with
      | nil =>
        rw [passed, drop_number]
        exact (List.nil_sublist _).cons_cons _
      | cons e es ih =>
        have rest := ih ascends.2
        unfold passed
        split
        · next same => exact same ▸ rest
        · next moves =>
          have later : Named.number l.phase + 1 ≤ Named.number (l.apply e).phase :=
            Nat.lt_of_le_of_ne ascends.1 fun same => moves (eq_of_number_eq same).symm
          rw [drop_number]
          exact (rest.trans (List.drop_sublist_drop_left _ later)).cons_cons _
    exact fromPhase.trans (List.drop_sublist _ _)

/-! ## What moves a worker -/

/-- What comes of an event. -/
inductive Happens (l : Lifecycle) : Event → Lifecycle → Prop
  | begins (free : l.start = .notBegun ∨ l.start = .done) :
      Happens l .start { l with phase := .connecting, start := .connecting }
  | connects (waits : l.start = .connecting) :
      Happens l (.connected true) { l with phase := .registering, start := .registering }
  | unconnected (waits : l.start = .connecting) :
      Happens l (.connected false) { l with phase := .stopped, start := .done }
  | registers (waits : l.start = .registering) :
      Happens l (.registered true) { l with phase := .running, start := .done }
  | unregistered (waits : l.start = .registering) :
      Happens l (.registered false) { l with phase := .stopped, start := .done }
  | shuts (able : l.canShutDown = true) :
      Happens l .shutdown { l with phase := .shuttingDown, draining := l.draining + 1 }
  | drains (waits : 0 < l.draining) :
      Happens l .drained { l with phase := .stopped, draining := l.draining - 1 }
  | nothing {e : Event} (stays : l.goesOn e = false) (idle : l.shutsDown e = false)
      (undrained : e = .drained → l.draining = 0) : Happens l e l

/-- There is nothing else that an event does. -/
theorem happens_apply (l : Lifecycle) (e : Event) : Happens l e (l.apply e) := by
  cases e with
  | start =>
    by_cases free : l.start = .notBegun ∨ l.start = .done
    · simp only [apply, if_pos free]
      exact .begins free
    · simp only [apply, if_neg free]
      exact .nothing (by simpa [goesOn] using free) rfl (by simp)
  | connected succeeded =>
    by_cases waits : l.start = .connecting
    · cases succeeded with
      | true =>
        simp only [apply, waits, ne_eq, not_true, if_false, if_true]
        exact .connects waits
      | false =>
        simp only [apply, waits, ne_eq, not_true, if_false]
        exact .unconnected waits
    · simp only [apply, ne_eq, waits, not_false_iff, if_true]
      exact .nothing (by simp [goesOn, waits]) rfl (by simp)
  | registered succeeded =>
    by_cases waits : l.start = .registering
    · cases succeeded with
      | true =>
        simp only [apply, waits, ne_eq, not_true, if_false, if_true]
        exact .registers waits
      | false =>
        simp only [apply, waits, ne_eq, not_true, if_false]
        exact .unregistered waits
    · simp only [apply, ne_eq, waits, not_false_iff, if_true]
      exact .nothing (by simp [goesOn, waits]) rfl (by simp)
  | shutdown =>
    cases able : l.canShutDown with
    | true =>
      simp only [apply, able, if_true]
      exact .shuts able
    | false =>
      simp only [apply, able, Bool.false_eq_true, if_false]
      exact .nothing rfl (by simp [shutsDown, able]) (by simp)
  | drained =>
    by_cases waits : 0 < l.draining
    · simp only [apply, if_pos waits]
      exact .drains waits
    · simp only [apply, if_neg waits]
      exact .nothing rfl rfl fun _ => by omega

/-- The phase is the one that the start has come to. -/
def agrees : Start → Phase → Bool
  | .notBegun, .init | .connecting, .connecting | .registering, .registering => true
  | .done, .running | .done, .stopped => true
  | _, _ => false

/-- A worker that no start has moved since a shutdown has begun, if one has. -/
inductive Sound : Bool → Lifecycle → Prop
  | up {p : Phase} {s : Start} (h : agrees s p = true) : Sound false ⟨p, s, 0⟩
  | down {l : Lifecycle} (ended : l.phase = .shuttingDown ∨ l.phase = .stopped) : Sound true l

/-- A worker that can shut down has not gone beyond that. -/
theorem number_le_of_canShutDown {p : Phase} {s : Start} {n : Nat}
    (able : canShutDown ⟨p, s, n⟩ = true) : Named.number p ≤ Named.number Phase.shuttingDown := by
  cases p with
  | stopped => cases able
  | _ => decide

/-- Until a shutdown begins a worker moves with its start, and then it moves to the shutdown. -/
theorem apply_up {p : Phase} {s : Start} {e : Event} (h : agrees s p = true)
    (once : e = .start → s = .notBegun) :
    Sound (shutsDown ⟨p, s, 0⟩ e) (apply ⟨p, s, 0⟩ e) ∧
      Named.number p ≤ Named.number (apply ⟨p, s, 0⟩ e).phase := by
  have happens := happens_apply ⟨p, s, 0⟩ e
  generalize apply ⟨p, s, 0⟩ e = l' at happens
  cases happens with
  | begins =>
    cases once rfl
    cases p with
    | init => exact ⟨.up rfl, by decide⟩
    | _ => cases h
  | connects waits | unconnected waits =>
    cases waits
    cases p with
    | connecting => exact ⟨.up rfl, by decide⟩
    | _ => cases h
  | registers waits | unregistered waits =>
    cases waits
    cases p with
    | registering => exact ⟨.up rfl, by decide⟩
    | _ => cases h
  | shuts able =>
    have shuts : shutsDown ⟨p, s, 0⟩ .shutdown = true := able
    rw [shuts]
    exact ⟨.down (.inl rfl), number_le_of_canShutDown able⟩
  | drains waits => cases waits
  | nothing _ idle => exact ⟨idle.symm ▸ .up h, Nat.le_refl _⟩

/-- A worker that is shut down moves no further than to stop, unless its start goes on. -/
theorem apply_down {l : Lifecycle} {e : Event}
    (ended : l.phase = .shuttingDown ∨ l.phase = .stopped) (calm : l.goesOn e = false) :
    (l.apply e).phase = l.phase ∨ (l.apply e).phase = .stopped := by
  have happens := happens_apply l e
  generalize l.apply e = l' at happens
  cases happens with
  | begins free =>
    simp only [goesOn, Bool.or_eq_false_iff, beq_eq_false_iff_ne] at calm
    exact absurd free (not_or.mpr calm)
  | connects waits => simp [goesOn, waits] at calm
  | registers waits => simp [goesOn, waits] at calm
  | shuts able =>
    rcases ended with phase | phase
    · simp [canShutDown, phase] at able
    · simp [canShutDown, phase] at able
  | unconnected | unregistered | drains => exact .inr rfl
  | nothing => exact .inl rfl

/-- A start that goes on sets a phase that is earlier than those of a shutdown. -/
theorem number_of_goesOn {l : Lifecycle} {e : Event} (on : l.goesOn e = true) :
    Named.number (l.apply e).phase < Named.number Phase.shuttingDown := by
  have happens := happens_apply l e
  generalize l.apply e = l' at happens
  cases happens with
  | begins => exact show Named.number Phase.connecting < _ by decide
  | connects => exact show Named.number Phase.registering < _ by decide
  | registers => exact show Named.number Phase.running < _ by decide
  | unconnected | unregistered | shuts | drains => cases on
  | nothing stays => rw [stays] at on; cases on

/-- A worker that shuts down, or has, is beyond all the phases of a start. -/
theorem number_of_ended {l : Lifecycle} (ended : l.phase = .shuttingDown ∨ l.phase = .stopped) :
    Named.number Phase.shuttingDown ≤ Named.number l.phase := by
  rcases ended with phase | phase
  · exact Nat.le_of_eq (congrArg Named.number phase.symm)
  · rw [phase]
    decide

/-- While no start goes on after a shutdown, an event leads to no earlier phase. -/
theorem Sound.apply {down : Bool} {l : Lifecycle} {e : Event} (h : Sound down l)
    (once : e = .start → l.start = .notBegun) (calm : (down && l.goesOn e) = false) :
    Sound (down || l.shutsDown e) (l.apply e) ∧
      Named.number l.phase ≤ Named.number (l.apply e).phase := by
  cases h with
  | up h => exact apply_up h once
  | down ended =>
    rcases apply_down ended calm with same | stopped
    · exact ⟨.down (same ▸ ended), Nat.le_of_eq (congrArg Named.number same.symm)⟩
    · refine ⟨.down (.inr stopped), ?_⟩
      rw [stopped]
      cases l.phase <;> decide

/-! ## One start -/

/-- How many more starts can begin when there is one at most. -/
def startsLeft (l : Lifecycle) : Nat := if l.start = .notBegun then 1 else 0

/-- A start that begins was the one that was left. -/
theorem once_of_count {l : Lifecycle} {e : Event} {es : List Event}
    (one : (e :: es).count .start ≤ l.startsLeft) :
    (e = .start → l.start = .notBegun) ∧ es.count .start ≤ (l.apply e).startsLeft := by
  rw [List.count_cons] at one
  unfold startsLeft at one ⊢
  have once : e = .start → l.start = .notBegun := by
    rintro rfl
    by_cases free : l.start = .notBegun
    · exact free
    · rw [if_neg free, if_pos (beq_self_eq_true _)] at one
      omega
  refine ⟨once, ?_⟩
  have happens := happens_apply l e
  generalize l.apply e = l' at happens
  cases happens with
  | begins =>
    rw [if_pos (once rfl), if_pos (beq_self_eq_true _)] at one
    omega
  | connects waits | unconnected waits | registers waits | unregistered waits =>
    rw [waits] at one
    simpa using one
  | shuts | drains => simpa using one
  | nothing => omega

/-- The phases ascend if and only if the start does not go on after a shutdown. -/
theorem Sound.ascends_iff {down : Bool} {l : Lifecycle} {es : List Event} (h : Sound down l)
    (one : es.count .start ≤ l.startsLeft) : l.Ascends es ↔ resumes down l es = false := by
  induction es generalizing down l with
  | nil => exact ⟨fun _ => rfl, fun _ => trivial⟩
  | cons e es ih =>
    obtain ⟨once, rest⟩ := once_of_count one
    unfold resumes
    cases on : down && l.goesOn e with
    | true =>
      -- The start goes on from the phase of a shutdown, and so back.
      obtain ⟨rfl, on⟩ := Bool.and_eq_true_iff.mp on
      cases h with
      | down ended =>
        refine ⟨fun ascends => ?_, nofun⟩
        exact absurd ascends.1 (Nat.not_le.mpr
          (Nat.lt_of_lt_of_le (number_of_goesOn on) (number_of_ended ended)))
    | false =>
      obtain ⟨sound, later⟩ := h.apply once on
      rw [Bool.false_or, ← ih sound rest]
      exact ⟨fun ascends => ascends.2, fun ascends => ⟨later, ascends⟩⟩

/-- A worker that a shutdown has stopped stays so, unless its start goes on. -/
theorem phase_of_stopped {l : Lifecycle} {es : List Event} (stopped : l.phase = .stopped)
    (calm : resumes true l es = false) : (l.applyAll es).phase = .stopped := by
  induction es generalizing l with
  | nil => exact stopped
  | cons e es ih =>
    obtain ⟨stays, calm⟩ := Bool.or_eq_false_iff.mp calm
    rcases apply_down (.inr stopped) stays with same | stops
    · exact ih (same.trans stopped) calm
    · exact ih stops calm

/-- A schedule in which no start goes on late begins with one. -/
theorem resumes_of_append {down : Bool} {l : Lifecycle} {es fs : List Event}
    (calm : resumes down l (es ++ fs) = false) : resumes down l es = false := by
  induction es generalizing down l with
  | nil => rfl
  | cons e es ih =>
    obtain ⟨first, rest⟩ := Bool.or_eq_false_iff.mp calm
    exact Bool.or_eq_false_iff.mpr ⟨first, ih rest⟩

/-- From when a shutdown has waited for the executions the worker is stopped, and stays so unless its
start goes on. -/
theorem Sound.stays_stopped {down : Bool} {l : Lifecycle} {before after rest : List Event}
    (h : Sound down l) (one : (before ++ .drained :: (after ++ rest)).count .start ≤ l.startsLeft)
    (calm : resumes down l (before ++ .drained :: (after ++ rest)) = false)
    (waits : 0 < (l.applyAll before).draining) :
    (l.applyAll (before ++ .drained :: after)).phase = .stopped := by
  induction before generalizing down l with
  | nil =>
    cases h with
    | up => cases waits
    | down =>
      have stops : (l.apply .drained).phase = .stopped := by
        have happens := happens_apply l .drained
        generalize l.apply .drained = l' at happens
        cases happens with
        | drains => rfl
        | nothing _ _ undrained => exact absurd (undrained rfl) (Nat.ne_of_gt waits)
      obtain ⟨-, calm⟩ := Bool.or_eq_false_iff.mp calm
      exact phase_of_stopped (l := l.apply .drained) stops (resumes_of_append calm)
  | cons e before ih =>
    obtain ⟨once, left⟩ := once_of_count one
    obtain ⟨on, calm⟩ := Bool.or_eq_false_iff.mp calm
    exact ih (h.apply once on).1 left calm waits

/-- Whatever the order of the events of one start and any shutdowns: the worker goes through its phases
in their order, and stays stopped from when a shutdown that had something to do has ended, if and only if
the start does not go on after a shutdown has begun. -/
theorem onward_iff {es : List Event} (one : es.count .start ≤ 1) :
    ((new.passed es).Sublist Named.all ∧
      ∀ before after rest, es = before ++ .drained :: (after ++ rest) →
        0 < (new.applyAll before).draining →
          (new.applyAll (before ++ .drained :: after)).phase = .stopped) ↔
      resumes false new es = false := by
  have sound : Sound false new := .up rfl
  rw [passed_sublist_iff, sound.ascends_iff one]
  constructor
  · exact fun h => h.1
  · intro calm
    refine ⟨calm, fun before after rest same waits => ?_⟩
    subst same
    exact sound.stays_stopped one calm waits

/-- A whole start, and two shutdowns after it. -/
theorem onward_iff_run :
    (new.passed [.start, .connected true, .registered true, .shutdown, .shutdown, .drained]).Sublist
      Named.all :=
  ((onward_iff (by decide)).mpr (by decide)).1

/-- A shutdown begins and ends while the start waits to be registered, and then the start goes on. -/
def overtaken : List Event := [.start, .connected true, .shutdown, .drained, .registered true]

/-- The worker was shut down, and runs. -/
theorem stopped_worker_runs :
    overtaken.count .start = 1 ∧ 0 < (new.applyAll (overtaken.take 3)).draining ∧
      (new.applyAll (overtaken.take 4)).phase = .stopped ∧ (new.applyAll overtaken).phase = .running ∧
      ¬ (new.passed overtaken).Sublist Named.all := by decide

-- A shutdown before the start is no better.
example : new.passed [.shutdown, .drained, .start] =
    [.init, .shuttingDown, .stopped, .connecting] := by decide

end Lifecycle

/-! ## The schedule of a client -/

namespace Client

open Connection Lifecycle

variable {σ : Type}

/-- What an operation behind a breaker leaves as it is, when telling the breaker does. -/
theorem guarded_keeps {τ α β : Type} {p : Breaker.Place τ} {f : τ → Except Failure α × τ}
    (view : τ → β) (told : ∀ b s, view (p.set b s) = view s) (kept : ∀ s, view (f s).2 = view s)
    (s : τ) : view (Breaker.guarded p f s).2 = view s := by
  unfold Breaker.guarded
  simp only
  split
  · split
    · rw [Breaker.Place.modify, told, kept, told]
    · rw [Breaker.Place.modify, told, kept, told]
  · exact told _ s

/-- Registering leaves the phase to the start. -/
theorem lifecycle_register (r : Remote σ) (c : Client σ) :
    (c.register r).2.lifecycle = c.lifecycle := by
  have kept := guarded_keeps (p := place)
    (f := call "register_worker" r (r.register c.registerRequest)) Client.lifecycle
    (fun _ _ => rfl) (fun _ => rfl) c
  unfold register
  split
  · next h => rw [h] at kept; exact kept
  · next h =>
    rw [h] at kept
    split
    · exact kept
    · exact kept

/-- The events of a start, by how it ends. -/
inductive Started : Except Failure Unit → List Event → Prop
  | unconnected (e : Failure) : Started (.error e) [.start, .connected false]
  | unregistered (e : Failure) : Started (.error e) [.start, .connected true, .registered false]
  | registered : Started (.ok ()) [.start, .connected true, .registered true]

theorem lifecycle_live (c : Client σ) (e : Event) :
    (c.live e).lifecycle = c.lifecycle.apply e := rfl

/-- What a start does to the lifecycle is events, up to where it failed. -/
theorem events_start (r : Remote σ) (c : Client σ) :
    ∃ es, Started (c.start r).1 es ∧ (c.start r).2.lifecycle = c.lifecycle.applyAll es := by
  unfold start
  split
  · next e d dials =>
    have begun : d.lifecycle = c.lifecycle.apply .start :=
      congrArg (fun x => x.2.lifecycle) dials.symm
    refine ⟨_, .unconnected e, ?_⟩
    rw [lifecycle_live, begun]
    rfl
  · next d dials =>
    have begun : d.lifecycle = c.lifecycle.apply .start :=
      congrArg (fun x => x.2.lifecycle) dials.symm
    have kept := lifecycle_register r (d.live (.connected true))
    rw [lifecycle_live, begun] at kept
    split
    · next e d' registers =>
      rw [registers] at kept
      refine ⟨_, .unregistered e, ?_⟩
      exact congrArg (fun l => l.apply (.registered false)) kept
    · next d' registers =>
      rw [registers] at kept
      refine ⟨_, .registered, ?_⟩
      exact congrArg (fun l => l.apply (.registered true)) kept

/-- A shutdown goes to its end unless there was one. -/
theorem events_shutdown {c : Client σ} {l : Lifecycle} (h : c.lifecycle = l) : c.shutdown.lifecycle =
    l.applyAll (if l.canShutDown then [.shutdown, .drained] else []) := by
  subst h
  unfold shutdown
  split
  · rfl
  · rfl

/-- A new client that is stopped after its start, if it could start, goes through its phases in their
order and is stopped. -/
theorem runFor_stops {r : Remote σ} {s : Span} {c : Client σ} (fresh : c.lifecycle = .new) :
    ∃ es, (c.runFor r s).2.lifecycle = Lifecycle.new.applyAll es ∧
      (Lifecycle.new.passed es).Sublist Named.all ∧ (c.runFor r s).2.phase = .stopped := by
  obtain ⟨es, started, lifecycle⟩ := events_start r c
  rw [fresh] at lifecycle
  unfold runFor
  split
  · next e d starts =>
    rw [starts] at started lifecycle
    refine ⟨es, lifecycle, ?_, ?_⟩
    · cases started <;> decide
    · refine (congrArg Lifecycle.phase lifecycle).trans ?_
      cases started <;> rfl
  · next d starts =>
    rw [starts] at started lifecycle
    cases started
    have stopped := events_shutdown (c := { d with workshop := d.workshop.advance s }) lifecycle
    exact ⟨[.start, .connected true, .registered true, .shutdown, .drained], stopped, by decide,
      congrArg Lifecycle.phase stopped⟩

end Client

end WorkDispatch.Worker

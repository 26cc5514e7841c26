import Mathlib.Data.List.Nodup
import WorkDispatch.Proofs.Coordinator.Holdings
import WorkDispatch.Proofs.Coordinator.Records
import WorkDispatch.Proofs.Fresh

/-!
# Sessions and the streams that are opened in them

A registration begins a session of the worker: from then on its token and no other is taken from it,
and what it could do before is forgotten. A stream is opened with the token of the session that there
is, and from then on nobody asks for a token: its loop goes by what the worker could do when the stream
was opened. `Sessions` writes down which sessions a run begins and in which of them each stream is
opened.

`sent_in_session` says that a loop sends its worker only what it could do in the session of the stream,
which is its latest one as long as the token of the stream is the one that the worker has. When the worker
registers again the old token is refused from then on, but the streams stay as they are, each in its
session, and a loop ends only when its worker has gone away from the stream or the coordinator shuts
down. `sent_in_old_session` is a run in which a stream is used after its session.
-/

set_option autoImplicit false

namespace WorkDispatch.Coordinator

/-- How a worker introduced itself, and the token that it was given for it. -/
structure Session where
  registration : Registration
  token : String
  deriving DecidableEq

/-- The session of a worker with a record. -/
def Record.session (w : Record) : Session := ⟨w.registration, w.token⟩

/-- What is written down of sessions along a run. -/
structure Sessions where
  /-- Those that were begun, the latest first. -/
  begun : List Session
  /-- By the number of the stream, the token that it was opened with, and the latest session of its
  worker at that time. -/
  opened : List (String × Option Session)

namespace Sessions

/-- Nothing was begun or opened. -/
def blank : Sessions := ⟨[], []⟩

/-- The latest session of a worker. -/
def latest? (l : Sessions) (id : String) : Option Session :=
  l.begun.find? fun σ => σ.registration.workerId == id

/-- The latest session of a worker is one that was begun for it. -/
theorem mem_of_latest? {l : Sessions} {id : String} {σ : Session} (h : l.latest? id = some σ) :
    σ ∈ l.begun ∧ σ.registration.workerId = id :=
  ⟨List.mem_of_find?_eq_some h, by simpa using List.find?_some h⟩

/-- Writes a step down. -/
def record (l : Sessions) (c : Coordinator) : Step → Sessions
  | .register g =>
    match c.register g with
    | .ok (grant, _) => { l with begun := ⟨g, grant.token⟩ :: l.begun }
    | .error _ => l
  | .openStream id token room announces =>
    match c.openStream id token room announces with
    | .ok _ => { l with opened := l.opened ++ [(token, l.latest? id)] }
    | .error _ => l
  | _ => l

/-- The sessions of a run. -/
def ofRun (c : Coordinator) (ss : List Step) : Sessions := writtenAlong record c blank ss

/-- The sessions are those that the coordinator goes by: the records are of the latest ones, no token
was given twice, and each stream was opened in a session of its worker and has what the worker could do
in it. -/
structure Shows (l : Sessions) (c : Coordinator) : Prop where
  latest : ∀ id, (c.registry.get? id).map Record.session = l.latest? id
  supplied : ∀ σ ∈ l.begun, ∃ n < c.supply, σ.token = Fresh.token n
  once : (l.begun.map Session.token).Nodup
  length : l.opened.length = c.streams.length
  streams : ∀ (i : Nat) (s : Stream), c.streams[i]? = some s → ∃ σ ∈ l.begun,
    l.opened[i]? = some (σ.token, some σ) ∧ σ.registration.workerId = s.workerId ∧
      σ.registration.capabilities = s.capabilities

end Sessions

variable {c c' : Coordinator} {st : Step}

/-! ## Steps between registrations -/

/-- Only a registration changes whose session a record is of. -/
theorem session_next (h : c.next? st = some c') (hst : ∀ g, st ≠ .register g) (id : String) :
    (c'.registry.get? id).map Record.session = (c.registry.get? id).map Record.session := by
  have next := record_next h id
  generalize c.registry.get? id = w at next
  generalize c'.registry.get? id = w' at next
  cases next with
  | replaced => exact absurd rfl (hst _)
  | _ => rfl

/-- Only a registration uses up a token. -/
theorem supply_next (h : c.next? st = some c') (hst : ∀ g, st ≠ .register g) :
    c'.supply = c.supply := by
  cases happens_of_next h with
  | registered => exact absurd rfl (hst _)
  | moved hs move => cases move <;> rfl
  | _ => rfl

namespace Sessions

variable {l : Sessions}

/-- A step that neither begins a session nor opens a stream changes nothing of what is written down. -/
theorem Shows.of_same (hl : l.Shows c) (h : c.next? st = some c') (hr : ∀ g, st ≠ .register g)
    (ho : ∀ id token room announces, st ≠ .openStream id token room announces) : l.Shows c' where
  latest := fun id => by rw [session_next h hr, hl.latest]
  supplied := by rw [supply_next h hr]; exact hl.supplied
  once := hl.once
  length := by rw [length_streams_next h ho, hl.length]
  streams := fun i s' hs' => by
    rcases stream_before h hs' with ⟨id, token, room, announces, _, _, rfl, _⟩ | ⟨s, hs, change⟩
    · exact absurd rfl (ho id token room announces)
    · rw [change.owner.1, change.owner.2]
      exact hl.streams i s hs

/-- A registration begins the session that it records, with a token that nobody has had. -/
theorem shows_register (hl : l.Shows c) {g : Registration} (h : c.next? (.register g) = some c') :
    (l.record c (.register g)).Shows c' := by
  cases happens_of_next h with
  | unregistered hr =>
    have same : l.record c (.register g) = l := by
      simp only [record, Coordinator.register, hr]
    rw [same]
    exact hl
  | @registered _ r hr =>
    have begun : l.record c (.register g) =
        { l with begun := ⟨g, Fresh.token c.supply⟩ :: l.begun } := by
      simp only [record, Coordinator.register, hr]
    rw [begun]
    refine ⟨fun id => ?_, fun σ hσ => ?_, ?_, hl.length, fun i s hs => ?_⟩
    · have before := hl.latest id
      rw [latest?] at before
      simp only [(Registry.get?_of_register hr).2, latest?, List.find?_cons]
      by_cases own : id = g.workerId
      · subst own
        simp only [if_true, Option.map_some, beq_self_eq_true]
        rfl
      · have other : (g.workerId == id) = false := beq_eq_false_iff_ne.mpr (Ne.symm own)
        simp only [own, if_false, other, before]
    · rcases List.mem_cons.mp hσ with rfl | hσ
      · exact ⟨c.supply, Nat.lt_succ_self _, rfl⟩
      · obtain ⟨n, early, token⟩ := hl.supplied σ hσ
        exact ⟨n, Nat.lt_succ_of_lt early, token⟩
    · refine List.nodup_cons.mpr ⟨fun again => ?_, hl.once⟩
      obtain ⟨σ, hσ, token⟩ := List.mem_map.mp again
      obtain ⟨n, early, given⟩ := hl.supplied σ hσ
      have same : n = c.supply := Fresh.token_injective (given.symm.trans token)
      exact absurd early (same ▸ Nat.lt_irrefl _)
    · obtain ⟨σ, hσ, opened⟩ := hl.streams i s hs
      exact ⟨σ, List.mem_cons_of_mem _ hσ, opened⟩

/-- A stream is opened with the token of the latest session of its worker, or not at all. -/
theorem shows_openStream (hl : l.Shows c) {id token : String} {room : Nat} {announces : Bool}
    (h : c.next? (.openStream id token room announces) = some c') :
    (l.record c (.openStream id token room announces)).Shows c' := by
  have sessions := session_next h nofun
  have supply := supply_next h nofun
  cases happens_of_next h with
  | unopened hr =>
    have same : l.record c (.openStream id token room announces) = l := by
      simp only [record, Coordinator.openStream, hr]
    rw [same]
    exact hl
  | opened hr =>
    have opened : l.record c (.openStream id token room announces) =
        { l with opened := l.opened ++ [(token, l.latest? id)] } := by
      simp only [record, Coordinator.openStream, hr]
    rw [opened]
    refine ⟨fun id => (sessions id).trans (hl.latest id), ?_, hl.once, ?_, fun i s' hs' => ?_⟩
    · rw [supply]
      exact hl.supplied
    · rw [List.length_append, List.length_append, hl.length]
      rfl
    · rcases stream_before h hs' with ⟨_, _, _, _, _, _, same, attached, rfl, rfl⟩ | ⟨s, hs, change⟩
      · cases same
        -- The record whose token was shown is of the latest session.
        obtain ⟨-, w, there, rfl, rfl, -⟩ := Registry.get?_of_attach attached
        have latest : l.latest? id = some w.session := by rw [← hl.latest id, there, Option.map_some]
        obtain ⟨begun, own⟩ := mem_of_latest? latest
        refine ⟨w.session, begun, ?_, own, rfl⟩
        rw [← hl.length, List.getElem?_concat_length, latest]
        rfl
      · obtain ⟨σ, hσ, before, owner⟩ := hl.streams i s hs
        rw [change.owner.1, change.owner.2]
        refine ⟨σ, hσ, ?_, owner⟩
        rw [List.getElem?_append_left (List.getElem?_eq_some_iff.mp before).1, before]

/-- What the sessions show of a coordinator, they show after each step. -/
theorem shows_next (hl : l.Shows c) (h : c.next? st = some c') : (l.record c st).Shows c' := by
  cases st with
  | register g => exact shows_register hl h
  | openStream id token room announces => exact shows_openStream hl h
  | _ => exact hl.of_same h nofun nofun

/-- Nothing has happened to a coordinator that has just started. -/
theorem shows_start (settings : Settings.Coordinator) (now : Instant) :
    blank.Shows (start settings now) :=
  ⟨fun _ => rfl, nofun, .nil, rfl, fun _ _ hs => by cases hs⟩

/-- In every run the sessions recorded so far show what the coordinator holds. -/
theorem shows_ofRun {settings : Settings.Coordinator} {now : Instant} {ss : List Step}
    (h : (start settings now).run? ss = some c) : (ofRun (start settings now) ss).Shows c :=
  writtenAlong_keeps shows_next h (shows_start settings now)

/-- Two sessions with one token are one. -/
theorem Shows.eq_of_token_eq (hl : l.Shows c) {σ τ : Session} (hσ : σ ∈ l.begun) (hτ : τ ∈ l.begun)
    (same : σ.token = τ.token) : σ = τ :=
  List.inj_on_of_nodup_map hl.once hσ hτ same

end Sessions

/-! ## What is sent down a stream -/

/-- The loop of the stream has the task for its worker, or has put it into the channel. -/
def Stream.Sends (s : Stream) (t : Task) : Prop := s.hand = some t ∨ Delivery.task t ∈ s.buffer

instance (s : Stream) (t : Task) : Decidable (s.Sends t) :=
  inferInstanceAs (Decidable (s.hand = some t ∨ Delivery.task t ∈ s.buffer))

/-- A stream sends what it sent before, and what its loop has just taken from the queue because it
suited. -/
theorem Stream.Changes.sends {i : Nat} {s s' : Stream} (h : s.Changes c i st s') {t : Task}
    (sends : s'.Sends t) : s.Sends t ∨ c.suits s t = true := by
  cases h with
  | stays | deaf => exact .inl sends
  | told | fed =>
    rcases sends with held | buffered
    · cases held
    · exact .inl (.inr buffered)
  | read _ first =>
    rcases sends with held | buffered
    · exact .inl (.inl held)
    · exact .inl (.inr (first ▸ List.mem_cons_of_mem _ buffered))
  | closed =>
    rcases sends with held | buffered
    · exact .inl (.inl held)
    · cases buffered
  | moved move =>
    rcases sends with held | buffered
    · cases move with
      -- Only here does a task come into a stream, and the look has asked whether it suits.
      | pick _ first => cases held; exact .inr (List.find?_some first)
      | giveUp phase => cases held; exact .inl (.inl (by rw [← Stream.phase_hand, phase]; rfl))
      | leave =>
        rw [← Stream.phase_hand] at held
        simp only at held
        split at held
        · cases held
        · cases held
      | _ => cases held
    · cases move with
      | deliver phase =>
        rcases List.mem_append.mp buffered with buffered | new
        · exact .inl (.inr buffered)
        · cases List.mem_singleton.mp new
          exact .inl (.inl (by rw [← Stream.phase_hand, phase]; rfl))
      | notice =>
        rcases List.mem_append.mp buffered with buffered | new
        · exact .inl (.inr buffered)
        · cases List.mem_singleton.mp new
      | _ => exact .inl (.inr buffered)

/-- Every stream sends only what its worker could do when it was opened. -/
def SendsAble (c : Coordinator) : Prop :=
  ∀ (i : Nat) (s : Stream), c.streams[i]? = some s →
    ∀ t, s.Sends t → s.capabilities.canHandle t.type = true

/-- A step lets no loop send what its stream was not opened for. -/
theorem sendsAble_next (hc : c.SendsAble) (h : c.next? st = some c') : c'.SendsAble := by
  intro i s' hs' t sends
  rcases stream_before h hs' with ⟨_, _, _, _, _, _, _, _, _, rfl⟩ | ⟨s, hs, change⟩
  · rcases sends with held | buffered
    · cases held
    · cases buffered
  · rw [change.owner.2]
    rcases change.sends sends with before | suits
    · exact hc i s hs t before
    · exact (Bool.and_eq_true_iff.mp suits).1

/-- In every run a loop sends only what its stream was opened for. -/
theorem sendsAble_run {settings : Settings.Coordinator} {now : Instant} {ss : List Step}
    (h : (start settings now).run? ss = some c) : c.SendsAble :=
  run?_always sendsAble_next h fun _ _ hs => by cases hs

/-! ## Old tokens -/

/-- Neither a heartbeat nor a stream is taken from somebody who shows a token for a worker. -/
def Refuses (c : Coordinator) (id token : String) : Prop :=
  (∀ status stats, ∃ e, (c.heartbeat id token status stats).1 = .error e) ∧
    ∀ room announces, ∃ e, c.openStream id token room announces = .error e

/-- Who cannot show the token of a worker can neither say that it lives nor open a stream. -/
theorem refuses_of_authenticate {id token : String} {e : Failure}
    (h : c.registry.authenticate id token = .error e) : c.Refuses id token := by
  constructor
  · intro status stats
    have begun : (c.beginHeartbeat id).heartbeats[c.heartbeats.length]? =
        some (id, c.registry.isActiveAt id c.now) := List.getElem?_concat_length
    have refused : (c.beginHeartbeat id).registry.heartbeat id token status stats
        (c.beginHeartbeat id).now = .error e := by
      change c.registry.heartbeat id token status stats c.now = _
      simp only [Registry.heartbeat, h]
    exact ⟨e, by simp only [heartbeat, endHeartbeat, begun, refused]⟩
  · intro room announces
    exact ⟨e, by simp only [openStream, Registry.attach, h]⟩

/-- The token of a session that is not the latest of its worker is refused. -/
theorem Sessions.Shows.refuses {l : Sessions} (hl : l.Shows c) {σ : Session} (hσ : σ ∈ l.begun)
    (old : l.latest? σ.registration.workerId ≠ some σ) :
    c.Refuses σ.registration.workerId σ.token := by
  obtain ⟨τ, hτ⟩ : ∃ τ, l.latest? σ.registration.workerId = some τ :=
    Option.isSome_iff_exists.mp (List.find?_isSome.mpr ⟨σ, hσ, beq_iff_eq.mpr rfl⟩)
  have latest := hl.latest σ.registration.workerId
  rw [hτ] at latest
  obtain ⟨w, hw, rfl⟩ := Option.map_eq_some_iff.mp latest
  have other : w.token ≠ σ.token := fun same =>
    old (hτ.trans (congrArg some (hl.eq_of_token_eq (Sessions.mem_of_latest? hτ).1 hσ same)))
  exact refuses_of_authenticate (by simp only [Registry.authenticate, hw, other, if_false]; rfl)

/-! ## Loops that end -/

/-- The loop is about to end, or it has: all that it still does is to give back a task and its stream. -/
def Stream.Phase.isClosing : Phase → Bool
  | .returning _ | .returned | .leaving _ | .announcing _ | .ended _ => true
  | _ => false

/-- A worker that went away does not come back to its stream. -/
theorem Stream.Changes.isOpen {i : Nat} {s s' : Stream} (h : s.Changes c i st s')
    (left : s.isOpen = false) : s'.isOpen = false := by
  cases h with
  | closed => rfl
  | moved move => cases move <;> exact left
  | _ => exact left

/-- A loop is closing because it was, because its worker went away, or because of the shutdown. -/
theorem Stream.Changes.closing {i : Nat} {s s' : Stream} (h : s.Changes c i st s')
    (closing : s'.phase.isClosing = true) :
    s.phase.isClosing = true ∨ s.isOpen = false ∨ c.isShuttingDown = true := by
  cases h with
  | stays | deaf | read | closed => exact .inl closing
  | told | fed => cases closing
  | moved move =>
    cases move with
    | stop _ down => exact .inr (.inr down)
    | miss _ _ left => exact .inr (.inl left)
    | giveUp _ reason => exact .inr reason
    | putBack phase | explain phase | leave phase | notice phase | silence phase =>
      exact .inl (by rw [phase]; rfl)
    | _ => cases closing

/-- A loop is closing only if its worker has gone away from the stream or the coordinator shuts down. -/
def ClosesDuly (c : Coordinator) : Prop :=
  ∀ (i : Nat) (s : Stream), c.streams[i]? = some s → s.phase.isClosing = true →
    s.isOpen = false ∨ c.isShuttingDown = true

/-- No step lets a loop begin to close without a reason, nor takes a reason away. -/
theorem closesDuly_next (hc : c.ClosesDuly) (h : c.next? st = some c') : c'.ClosesDuly := by
  intro i s' hs' closing
  rcases stream_before h hs' with ⟨_, _, _, _, _, _, _, _, _, rfl⟩ | ⟨s, hs, change⟩
  · cases closing
  · have reason : s.isOpen = false ∨ c.isShuttingDown = true := by
      rcases change.closing closing with before | reason
      · exact hc i s hs before
      · exact reason
    exact reason.imp change.isOpen (shuttingDown_next h)

/-- In every run a loop that is closing has a reason to. -/
theorem closesDuly_run {settings : Settings.Coordinator} {now : Instant} {ss : List Step}
    (h : (start settings now).run? ss = some c) : c.ClosesDuly :=
  run?_always closesDuly_next h fun _ _ hs => by cases hs

/-! ## Streams and their sessions -/

/-- A worker that registers has a record of a new session, with a token that none had before, and all
streams stay as they are. -/
theorem Sessions.Shows.register {l : Sessions} (hl : l.Shows c) {g : Registration} {grant : Grant}
    {d : Coordinator} (h : c.register g = .ok (grant, d)) :
    d.streams = c.streams ∧ (∀ σ ∈ l.begun, σ.token ≠ grant.token) ∧
      (d.registry.get? g.workerId).map Record.session = some ⟨g, grant.token⟩ := by
  unfold Coordinator.register at h
  simp only at h
  split at h
  · next r registered =>
    cases h
    refine ⟨rfl, fun σ hσ same => ?_, ?_⟩
    · obtain ⟨n, early, token⟩ := hl.supplied σ hσ
      exact absurd early (Fresh.token_injective (token.symm.trans same) ▸ Nat.lt_irrefl _)
    · rw [(Registry.get?_of_register registered).2 g.workerId, if_pos rfl]
      rfl
  · cases h

/-- After any run, what a stream sends is what its worker could do in the session in which the stream
was opened: the latest one at that time, with whose token it was opened. If the worker still has this
token, that is its session still, and what it registered to be able to do includes the task.

A worker that registers again is in a new session, and the token of a session that is not the latest of its
worker is refused; but registering leaves every stream as it is, and no loop begins to end before its
worker goes away from the stream or the coordinator shuts down. -/
theorem sent_in_session {settings : Settings.Coordinator} {now : Instant} {ss : List Step}
    (h : (start settings now).run? ss = some c) :
    let l := Sessions.ofRun (start settings now) ss
    (∀ (i : Nat) (s : Stream) (t : Task), c.streams[i]? = some s → s.Sends t →
      ∃ σ, l.opened[i]? = some (σ.token, some σ) ∧ σ.registration.workerId = s.workerId ∧
        σ.registration.capabilities.canHandle t.type = true ∧
        ∃ w, c.registry.get? s.workerId = some w ∧ l.latest? s.workerId = some w.session ∧
          (w.token = σ.token → w.session = σ)) ∧
    (∀ g grant d, c.register g = .ok (grant, d) →
      d.streams = c.streams ∧ (∀ σ ∈ l.begun, σ.token ≠ grant.token) ∧
        (d.registry.get? g.workerId).map Record.session = some ⟨g, grant.token⟩) ∧
    (∀ σ ∈ l.begun, l.latest? σ.registration.workerId ≠ some σ →
      c.Refuses σ.registration.workerId σ.token) ∧
    ∀ (i : Nat) (s : Stream), c.streams[i]? = some s → s.phase.isClosing = true →
      s.isOpen = false ∨ c.isShuttingDown = true := by
  intro l
  have shows : l.Shows c := Sessions.shows_ofRun h
  refine ⟨fun i s t hs ht => ?_, fun g grant d => shows.register, fun σ => shows.refuses,
    closesDuly_run h⟩
  obtain ⟨σ, hσ, opened, own, able⟩ := shows.streams i s hs
  have latest := shows.latest s.workerId
  -- The session of the stream has begun, so that its worker has a latest one.
  obtain ⟨τ, hτ⟩ : ∃ τ, l.latest? s.workerId = some τ :=
    Option.isSome_iff_exists.mp (List.find?_isSome.mpr ⟨σ, hσ, beq_iff_eq.mpr own⟩)
  rw [hτ] at latest
  obtain ⟨w, hw, rfl⟩ := Option.map_eq_some_iff.mp latest
  refine ⟨σ, opened, own, ?_, w, hw, hτ, fun same => ?_⟩
  · rw [able]
    exact sendsAble_run h i s hs t ht
  · exact shows.eq_of_token_eq (Sessions.mem_of_latest? hτ).1 hσ same

/-- What is sent in the runs below. -/
def order : Task := .plain "a" .insightGeneration [] .epoch

/-- A stream is opened for a worker with a capability, something happens, and then a task comes in that
needs the capability, and its loop sends it. -/
def service (between : List Step) : List Step :=
  [.register ⟨"w", "worker", .ofList [.aiInsights], "1", .empty⟩,
    .openStream "w" (Fresh.token 0) 1 false, .feed 0] ++ between ++
  [.queueTask order, .loop 0 .check, .loop 0 .wake, .loop 0 .look, .loop 0 .deliver]

/-- A worker that did not register again gets the task in its session. -/
theorem sent_in_session_service :
    ∃ c s, (start .default .epoch).run? (service []) = some c ∧ c.streams[0]? = some s ∧
      s.Sends order ∧ ∃ σ, (Sessions.ofRun (start .default .epoch) (service [])).opened[0]? =
        some (σ.token, some σ) ∧ σ.registration.capabilities.canHandle order.type = true := by
  have ends : ((start .default .epoch).run? (service [])).any
      (fun c => c.streams[0]?.any fun s => decide (s.Sends order)) = true := by decide +kernel
  obtain ⟨c, hc, sends⟩ := (Option.any_eq_true _ _).mp ends
  obtain ⟨s, hs, sends⟩ := (Option.any_eq_true _ _).mp sends
  have sends : s.Sends order := of_decide_eq_true sends
  obtain ⟨σ, opened, -, able, -⟩ := (sent_in_session hc).1 0 s order hs sends
  exact ⟨c, s, hc, hs, sends, σ, opened, able⟩

/-- The worker registers again, without the capability. -/
def renewal : List Step := [.register ⟨"w", "worker", .ofList [.weeklyReports], "1", .empty⟩]

/-- The task that came in after the second registration is sent down the stream that was opened after
the first, whose token is no longer the worker's, and the worker is not registered to be able to do
it. -/
theorem sent_in_old_session :
    ∃ c s w, (start .default .epoch).run? (service renewal) = some c ∧ c.streams[0]? = some s ∧
      s.Sends order ∧ c.registry.get? s.workerId = some w ∧
      (∀ σ, (Sessions.ofRun (start .default .epoch) (service renewal)).opened[0]? =
        some (σ.token, some σ) → w.token ≠ σ.token) ∧
      w.registration.capabilities.canHandle order.type = false := by
  have ends : ((start .default .epoch).run? (service renewal)).any (fun c =>
      c.streams[0]?.any fun s => decide (s.Sends order) && (c.registry.get? s.workerId).any fun w =>
        decide (w.token = Fresh.token 1) &&
          !w.registration.capabilities.canHandle order.type) = true := by
    decide +kernel
  have opened : ((Sessions.ofRun (start .default .epoch) (service renewal)).opened[0]?).map (·.1) =
      some (Fresh.token 0) := by decide +kernel
  simp only [Option.any_eq_true, Bool.and_eq_true, decide_eq_true_eq, Bool.not_eq_true'] at ends
  obtain ⟨c, hc, s, hs, sends, w, hw, token, unable⟩ := ends
  refine ⟨c, s, w, hc, hs, sends, hw, fun σ hσ same => ?_, unable⟩
  rw [hσ, Option.map_some, Option.some.injEq] at opened
  cases Fresh.token_injective (token.symm.trans (same.trans opened))

end WorkDispatch.Coordinator

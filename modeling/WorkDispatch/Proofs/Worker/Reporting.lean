import WorkDispatch.Proofs.Connection.Attempts
import WorkDispatch.Proofs.Coordinator.Results
import WorkDispatch.Proofs.Retry.Run
import WorkDispatch.Proofs.Wire.Convert
import WorkDispatch.Proofs.Wire.RoundTrip
import WorkDispatch.Worker.Post

/-!
# A report that was answered is the result that the coordinator has

A worker reports a result until it is answered, so the coordinator may be told of it any number of times,
or may have accepted it when the worker believes it lost. When the report succeeds, the last attempt came
to the coordinator and was accepted, and what came is the result itself: the request is read back from its
bytes as it was written (`carry?_eq_some`), and the conversion to it and back loses nothing.

`report_kept` says so for whatever becomes of the calls and dials of the worker and whatever happens to the
coordinator meanwhile and afterwards: the result stays until another report of the task is accepted. That a
report is answered at all is not said here.
-/

set_option autoImplicit false

namespace WorkDispatch

/-! ## Messages -/

/-- A message that comes is the one that was sent. -/
theorem Wire.carry?_eq_some {α : Type} [Message α] {count : Nat} (l : Lossless α count) {m m' : α}
    (h : carry? m = some m') : m' = m := by
  simp only [carry?] at h
  split at h
  · next short =>
    have read : Message.decode? (Message.encode m) = some m :=
      l.mergeBytes (.refl _) (padded_writeFields count (Message.fields m))
        (Nat.lt_trans short (by decide)) depthLimit
    exact Option.some.inj (h.symm.trans read)
  · cases h

namespace Worker

open Connection Coordinator

/-! ## Calls -/

namespace Post

section

variable {t : TaskResult}

/-- From one state of the coordinator to another reports were accepted, and the report of a result among
them if the call was answered. -/
def Told (t : TaskResult) (r r' : Reports) (answered : Prop) : Prop :=
  ∃ news, Reports.Grows r r' news ∧ (answered → ∃ since before, news = since ++ t :: before)

/-- Steps of others accept reports, and answer nothing of this call. -/
theorem told_run (t : TaskResult) (r : Reports) (steps : List Step) : Told t r (r.run steps) False :=
  ⟨_, Reports.grows_run r steps, False.elim⟩

/-- An answer at the end, after whatever happened before. -/
theorem Told.after {r r' r'' : Reports} {p q : Prop} (h : Told t r r' p) (h' : Told t r' r'' q) :
    Told t r r'' q := by
  obtain ⟨earlier, grows, -⟩ := h
  obtain ⟨later, grows', answered⟩ := h'
  refine ⟨_, grows.trans grows', fun holds => ?_⟩
  obtain ⟨since, before, rfl⟩ := answered holds
  exact ⟨since, before ++ earlier, by rw [List.append_assoc, List.cons_append]⟩

/-- An answer, and whatever happened after it. -/
theorem Told.before {r r' r'' : Reports} {p q : Prop} (h : Told t r r' p) (h' : Told t r' r'' q) :
    Told t r r'' p := by
  obtain ⟨earlier, grows, answered⟩ := h
  obtain ⟨later, grows', -⟩ := h'
  refine ⟨_, grows.trans grows', fun holds => ?_⟩
  obtain ⟨since, before, rfl⟩ := answered holds
  exact ⟨later ++ since, before, (List.append_assoc ..).symm⟩

/-- Less may be concluded from an answer. -/
theorem Told.mono {r r' : Reports} {p q : Prop} (h : Told t r r' p) (imp : q → p) : Told t r r' q := by
  obtain ⟨news, grows, answered⟩ := h
  exact ⟨news, grows, fun holds => answered (imp holds)⟩

/-- A report that is delivered and answered was accepted on the way. -/
theorem told_deliver (w : Passage) (t : TaskResult) (r : Reports) :
    Told t r (deliver w (.ofResult t) r).2 (∃ a, (deliver w (.ofResult t) r).1 = some (.ok a)) := by
  unfold deliver
  split
  · next m came =>
    obtain rfl := Wire.carry?_eq_some Wire.lossless_resultRequest came
    split
    · refine ⟨_, Reports.grows_answer r _, ?_⟩
      rintro ⟨a, said⟩
      rw [Reports.accepted?_of_answer (Option.some.inj said), Wire.toResult_ofResult]
      exact ⟨[], [], rfl⟩
    · exact ⟨[], .refl r, fun ⟨_, said⟩ => nomatch said⟩
  · exact ⟨[], .refl r, fun ⟨_, said⟩ => nomatch said⟩

/-- Only what the coordinator says is an answer. -/
theorem reply_eq_answer {w : Passage} {said : Option (Except Status Wire.ResultResponse)}
    {a : Wire.ResultResponse} (h : reply w said = .answer a) : ∃ a, said = some (.ok a) := by
  have lost : ∀ {β : Type} {b : β}, (w.lost : Reply β) ≠ .answer b := by
    intro β b
    unfold Passage.lost
    split
    · nofun
    · nofun
  unfold reply at h
  split at h
  · exact ⟨_, rfl⟩
  · split at h
    · cases h
    · exact absurd h lost
  · exact absurd h lost

/-- So was one that was answered, however often it was delivered. -/
theorem told_report (t : TaskResult) (p : Post) :
    Told t p.reports (report (.ofResult t) p).2.reports (∃ a, (report (.ofResult t) p).1 = .answer a) := by
  have early := told_run t p.reports (p.passage p.calls).before
  have said := told_deliver (p.passage p.calls) t (p.reports.run (p.passage p.calls).before)
  have late := told_run t (deliver (p.passage p.calls) (.ofResult t)
    (p.reports.run (p.passage p.calls).before)).2 (p.passage p.calls).after
  exact ((early.after said).before late).mono fun ⟨a, answered⟩ => reply_eq_answer answered

/-- A dial tells the coordinator nothing of the result. -/
theorem told_dialed {p p' : Post} (t : TaskResult) (h : Line.Dialed dial p p') :
    Told t p.reports p'.reports False := by
  cases h with
  | no => exact ⟨[], .refl _, False.elim⟩
  | once => exact told_run t p.reports (p.dialing p.dials).2

/-- An attempt that succeeds was answered. -/
theorem told_attempted {p p' : Post} {r : Except Failure Wire.ResultResponse}
    (h : Line.Attempted dial (report (.ofResult t)) p r p') :
    Told t p.reports p'.reports (∃ a, r = .ok a) := by
  cases h with
  | failed e dialed => exact (told_dialed t dialed).mono fun ⟨_, ok⟩ => nomatch ok
  | @asked q operation limit dialed =>
    refine ((told_dialed t dialed).after (told_report t q)).mono ?_
    rintro ⟨a, ok⟩
    cases said : (report (.ofResult t) q).1 with
    | answer b => exact ⟨b, rfl⟩
    | refusal s | overdue =>
      rw [said] at ok
      cases ok

/-- So the attempts of a call tell what each of them does. -/
theorem told_attempt {l l' : Line Post} {operation : String} {r : Except Failure Wire.ResultResponse}
    (h : Line.attempt operation dial (report (.ofResult t)) l = (r, l')) :
    Told t l.outside.reports l'.outside.reports (∃ a, r = .ok a) := by
  have came := Line.attempted operation dial (report (.ofResult t)) l
  rw [h] at came
  exact told_attempted came

/-- Waiting between attempts tells nothing. -/
theorem reports_backoff {l l' : Line Post} {cancelled cut : Bool} {n : Nat}
    (h : Line.backoff cancelled n l = (cut, l')) : l'.outside.reports = l.outside.reports := by
  have same := Line.outside_backoff cancelled n l
  rw [h] at same
  exact congrArg Post.reports same

/-- A call that is tried again and again is answered by its last attempt. -/
theorem told_ended {operation : String} {cancelled : Bool} {left n : Nat} {l : Line Post}
    {q : Except Failure Wire.ResultResponse × Line Post}
    (h : Retry.Ended ⟨Line.attempt operation dial (report (.ofResult t)), Line.backoff cancelled⟩
      operation left n l q) : Told t l.outside.reports q.2.outside.reports (∃ a, q.1 = .ok a) := by
  induction h with
  | ok ok => exact told_attempt ok
  | nonRetriable failed => exact (told_attempt failed).mono fun ⟨_, ok⟩ => nomatch ok
  | exhausted failed => exact (told_attempt failed).mono fun ⟨_, ok⟩ => nomatch ok
  | cancelled failed _ cut =>
    have told := told_attempt failed
    rw [← reports_backoff cut] at told
    exact told.mono fun ⟨_, ok⟩ => nomatch ok
  | again failed _ slept _ ih =>
    have told := told_attempt failed
    rw [← reports_backoff slept] at told
    exact told.after ih

end

end Post

/-! ## Reports -/

section

variable {σ : Type}

/-- A report is a call on the line of the worker, and succeeds only when that is answered. -/
theorem report_called (c : Client σ) (r : Remote σ) (t : TaskResult) :
    (c.report r t).2.line =
        (Line.call "report_task_result" false r.dial (r.report (.ofResult t)) c.line).2 ∧
      ((c.report r t).1 = .ok () → ∃ a,
        (Line.call "report_task_result" false r.dial (r.report (.ofResult t)) c.line).1 = .ok a) := by
  simp only [Client.report, Client.onLine]
  rcases Line.call "report_task_result" false r.dial (r.report (.ofResult t)) c.line with ⟨o, l⟩
  cases o with
  | error e => exact ⟨rfl, nofun⟩
  | ok a => exact ⟨rfl, fun _ => ⟨a, rfl⟩⟩

/-- A report that succeeds was accepted. -/
theorem told_of_report (c : Client Post) (r : Remote Post) (t : TaskResult) :
    Post.Told t c.line.outside.reports (c.report (Post.remote r) t).2.line.outside.reports
      ((c.report (Post.remote r) t).1 = .ok ()) := by
  obtain ⟨line, answered⟩ := report_called c (Post.remote r) t
  rw [line]
  exact (Post.told_ended (Retry.ended_attemptsFrom _ _ _ _ _)).mono answered

/-- A report that succeeded was accepted as it was made, and the result stays until another report of the task
is accepted, whatever the worker was told of its attempts. Of any reports the coordinator has the last one
of each task that it accepted; one that does not name the task or the worker is refused and changes nothing. -/
theorem report_kept :
    (∀ (c : Client Post) (r : Remote Post) (t : TaskResult), (c.report (Post.remote r) t).1 = .ok () →
        ∀ steps, ∃ since before,
          ((c.report (Post.remote r) t).2.line.outside.reports.run steps).accepted = since ++ t :: before ∧
            c.line.outside.reports.accepted <:+ before ∧
            ((∀ u ∈ since, u.taskId = t.taskId → u = t) →
              ((c.report (Post.remote r) t).2.line.outside.reports.run steps).coordinator.result? t.taskId =
                some t)) ∧
      (∀ s now steps id, ((Reports.start s now).run steps).coordinator.result? id =
        (steps.filterMap accepted?).reverse.find? fun u => u.taskId == id) ∧
      ∀ d m, Text.isAllBlank m.taskId = true ∨ Text.isAllBlank m.workerId = true →
        ∃ text, Service.report d m = (.error ⟨.invalidArgument, text⟩, d) := by
  refine ⟨fun c r t ok steps => ?_, Reports.result?_run, fun d m blank => ?_⟩
  -- What the requests of others have brought since stands before the result, and `grows` says that
  -- nothing was taken away.
  · obtain ⟨news, grows, told⟩ := (told_of_report c r t).before (Post.told_run t _ steps)
    obtain ⟨since, before, rfl⟩ := told ok
    refine ⟨since, before ++ c.line.outside.reports.accepted, ?_, List.suffix_append _ _, fun same => ?_⟩
    · rw [grows.accepted, List.append_assoc, List.cons_append]
    · have own : (t :: before).find? (fun u => u.taskId == t.taskId) = some t :=
        List.find?_cons_of_pos (beq_self_eq_true t.taskId)
      rw [grows.result, List.find?_append, own]
      -- A report of this task that came later says the same, so it does not matter which of the two
      -- is found.
      cases found : since.find? fun u => u.taskId == t.taskId with
      | none => rfl
      | some u =>
        have there := List.mem_of_find?_eq_some found
        have about := List.find?_some found
        rw [beq_iff_eq] at about
        rw [same u there about]
        rfl
  · rcases service_report d m with ⟨signed, -⟩ | ⟨-, refused⟩
    · rw [isSigned, Bool.and_eq_true, Bool.not_eq_true', Bool.not_eq_true'] at signed
      rcases blank with blank | blank
      · cases blank.symm.trans signed.1
      · cases blank.symm.trans signed.2
    · exact refused

/-! ## An answer that is lost -/

/-- A result, and one of another task by another worker. -/
def finished : TaskResult := ⟨"t-1", "w-1", .completed, [], "", some .epoch, some .epoch⟩
def failed : TaskResult := ⟨"t-2", "w-2", .failed, [], "model overloaded", none, none⟩

/-- The first call comes to the coordinator and its answer does not come back; another worker reports before
the first answer is given up and again before the second call comes. -/
def forgetful : Post where
  reports := .start .default .epoch
  passage
    | 0 => ⟨[], true, [.report failed], false, none⟩
    | _ => ⟨[.report failed], true, [], true, none⟩
  dialing _ := (none, [])
  calls := 0
  dials := 0

/-- A worker as it is by default, whose dials succeed. -/
def reporter : Client Post := .new (.default "w-1") (.new "scripted" [] none) .epoch forgetful

/-- It does not hear of anything but its reports. -/
def mute : Remote Post :=
  ⟨Post.dial, fun _ p => (.overdue, p), fun _ p => (.overdue, p), fun _ p => (.overdue, p), Post.report⟩

/-- The result is accepted twice, and is the one that the coordinator has. -/
theorem report_kept_repeated :
    (reporter.report (Post.remote mute) finished).1 = .ok () ∧
      (reporter.report (Post.remote mute) finished).2.line.outside.reports.accepted =
        [finished, failed, failed, finished] ∧
      (reporter.report (Post.remote mute) finished).2.line.outside.reports.coordinator.result? "t-1" =
        some finished := by
  have ok : (reporter.report (Post.remote mute) finished).1 = .ok () := by decide +kernel
  have log : (reporter.report (Post.remote mute) finished).2.line.outside.reports.accepted =
      [finished, failed, failed, finished] := by decide +kernel
  obtain ⟨since, before, accepted, -, kept⟩ := report_kept.1 reporter mute finished ok []
  have all : since ++ finished :: before = [finished, failed, failed, finished] := accepted.symm.trans log
  have own : ∀ u ∈ [finished, failed, failed, finished], u.taskId = "t-1" → u = finished := by decide
  exact ⟨ok, log, kept fun u hu => own u (all ▸ List.mem_append_left _ hu)⟩

end

end Worker

end WorkDispatch

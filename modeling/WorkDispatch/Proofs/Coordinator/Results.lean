import WorkDispatch.Coordinator.Reports
import WorkDispatch.Proofs.Coordinator.Moves

/-!
# The results that a coordinator has

A step changes the results of a coordinator if it is a report that is accepted, and only then
(`reported_or_kept`). A report is refused when it does not say which task it is about or which worker
makes it, and a refusal changes nothing.

So the result of a task is the last report of it that was accepted. `Grows` says this of what lies between
any two states of a coordinator, whatever it had before; `result?_run` says it of a whole run.
-/

set_option autoImplicit false

namespace WorkDispatch.Coordinator

section

variable {c c' : Coordinator} {t : TaskResult} {st : Step}

/-! ## Reports -/

/-- Whether a report says which task it is about and which worker makes it. -/
def isSigned (t : TaskResult) : Bool := !Text.isAllBlank t.taskId && !Text.isAllBlank t.workerId

/-- A signed report is kept under the id of its task. -/
theorem report_of_signed (c : Coordinator) (signed : isSigned t = true) :
    c.report t = .ok { c with results := c.results.put t.taskId t } := by
  rw [isSigned, Bool.and_eq_true, Bool.not_eq_true', Bool.not_eq_true'] at signed
  unfold report
  simp only [signed.1, signed.2, Bool.false_eq_true, if_false]

/-- An unsigned one is refused. -/
theorem report_of_unsigned (c : Coordinator) (unsigned : isSigned t = false) :
    ∃ text, c.report t = .error (.invalidArgument text) := by
  unfold report
  split
  · exact ⟨_, rfl⟩
  · next named =>
    split
    · exact ⟨_, rfl⟩
    · next signed =>
      rw [isSigned, Bool.eq_false_iff.2 named, Bool.eq_false_iff.2 signed] at unsigned
      cases unsigned

/-- Nothing but the signature decides. -/
theorem isOk_report (c : Coordinator) (t : TaskResult) : (c.report t).isOk = isSigned t := by
  cases signed : isSigned t with
  | true =>
    rw [report_of_signed c signed]
    rfl
  | false =>
    obtain ⟨text, refused⟩ := report_of_unsigned c signed
    rw [refused]
    rfl

/-- What a worker is answered, and what becomes of the coordinator. -/
theorem service_report (c : Coordinator) (m : Wire.ResultRequest) :
    (isSigned m.toResult = true ∧ ∃ a, Service.report c m =
        (.ok ⟨true, a⟩, { c with results := c.results.put m.taskId m.toResult })) ∨
      isSigned m.toResult = false ∧ ∃ text, Service.report c m = (.error ⟨.invalidArgument, text⟩, c) := by
  unfold Service.report
  cases signed : isSigned m.toResult with
  | true =>
    rw [report_of_signed c signed]
    exact .inl ⟨rfl, _, rfl⟩
  | false =>
    obtain ⟨text, refused⟩ := report_of_unsigned c signed
    rw [refused]
    exact .inr ⟨rfl, _, rfl⟩

/-- The report that is accepted in a step. -/
def accepted? : Step → Option TaskResult
  | .report t => if isSigned t then some t else none
  | _ => none

/-- A step leaves the results as they are, unless it is a report that is accepted. -/
theorem reported_or_kept (h : c.next? st = some c') :
    (∃ t, accepted? st = some t ∧ c'.results = c.results.put t.taskId t) ∨
      accepted? st = none ∧ c'.results = c.results := by
  cases happens_of_next h with
  | @reported t named signed =>
    have whole : isSigned t = true := by
      rw [isSigned, named, signed]
      rfl
    exact .inl ⟨t, if_pos whole, rfl⟩
  | @unreported t blank =>
    have refused : isSigned t = false := by
      rw [isSigned, Bool.and_eq_false_iff, Bool.not_eq_false', Bool.not_eq_false']
      exact blank
    exact .inr ⟨if_neg (Bool.eq_false_iff.1 refused), rfl⟩
  | moved stream moves =>
    refine .inr ⟨rfl, ?_⟩
    cases moves with
    | resume | hold | stop | miss | recheck | ask | pick | park | deliver | giveUp | putBack | explain
    | leave | notice | silence => rfl
  | registered | unregistered | heartbeatBegun | heartbeatMissing | heartbeatRefused | heartbeatTaken
  | opened | unopened | fed | read | unread | closed | detached | queued | unqueued | taken | pruned
  | told | passedOver | shutDown | backdated | passed => exact .inr ⟨rfl, rfl⟩

end

namespace Reports

section

variable {r r' r'' : Reports} {news later : List TaskResult}

/-! ## What was accepted -/

/-- From one state to a later one some reports were accepted, the latest first, and they alone replaced
results. -/
structure Grows (r r' : Reports) (news : List TaskResult) : Prop where
  accepted : r'.accepted = news ++ r.accepted
  result : ∀ id, r'.coordinator.result? id =
    (news.find? fun t => t.taskId == id).or (r.coordinator.result? id)

/-- Nothing was accepted in between. -/
theorem Grows.refl (r : Reports) : Grows r r [] := ⟨rfl, fun _ => rfl⟩

/-- What was accepted later comes before what was accepted earlier. -/
theorem Grows.trans (h : Grows r r' news) (h' : Grows r' r'' later) : Grows r r'' (later ++ news) where
  accepted := by rw [h'.accepted, h.accepted, List.append_assoc]
  result id := by rw [h'.result, h.result, List.find?_append, Option.or_assoc]

/-- Of a step, the report is noted that it makes and that is accepted. -/
theorem note_eq (r : Reports) (st : Step) : r.note st = (accepted? st).toList ++ r.accepted := by
  cases st with
  | report t =>
    rw [note, accepted?, isOk_report]
    cases isSigned t with
    | true => rfl
    | false => rfl
  | _ => rfl

/-- A step adds the report that is accepted with it. -/
theorem grows_next (r : Reports) (st : Step) : Grows r (r.next st) (accepted? st).toList := by
  unfold next
  cases h : r.coordinator.next? st with
  | none =>
    have silent : accepted? st = none := by
      cases st with
      | report t => cases h
      | _ => rfl
    rw [silent]
    exact .refl r
  | some c =>
    refine ⟨note_eq r st, fun id => ?_⟩
    show c.results.get? id = _
    rcases reported_or_kept h with ⟨t, reported, results⟩ | ⟨silent, results⟩
    · rw [results, reported, Table.get?_put, Option.toList_some, List.find?_singleton]
      by_cases same : id = t.taskId
      · rw [if_pos same, if_pos (beq_iff_eq.2 same.symm)]
        rfl
      · rw [if_neg same, if_neg fun other => same (beq_iff_eq.1 other).symm]
        rfl
    · rw [results, silent]
      rfl

/-- A run adds the reports that are accepted in it. -/
theorem grows_run (r : Reports) (steps : List Step) :
    Grows r (r.run steps) (steps.filterMap accepted?).reverse := by
  induction steps generalizing r with
  | nil => exact .refl r
  | cons st steps ih =>
    have rest := (grows_next r st).trans (ih (r.next st))
    have last : (steps.filterMap accepted?).reverse ++ (accepted? st).toList =
        ((st :: steps).filterMap accepted?).reverse := by
      rw [List.filterMap_cons]
      cases accepted? st with
      | none => exact List.append_nil _
      | some t => exact (List.reverse_cons ..).symm
    exact last ▸ rest

/-- Whatever happens to a coordinator, the result of a task is the last report of it that was accepted. -/
theorem result?_run (s : Settings.Coordinator) (now : Instant) (steps : List Step) (id : String) :
    ((start s now).run steps).coordinator.result? id =
      (steps.filterMap accepted?).reverse.find? fun t => t.taskId == id :=
  ((grows_run (start s now) steps).result id).trans Option.or_none

/-! ## Answers -/

/-- Answering a worker is a step like any other. -/
theorem answer_snd (r : Reports) (m : Wire.ResultRequest) :
    (r.answer m).2 = r.next (.report m.toResult) := by
  unfold answer next
  show (⟨(Service.report r.coordinator m).2, _⟩ : Reports) =
    ⟨r.coordinator.orElse (r.coordinator.report m.toResult), _⟩
  unfold Service.report
  cases r.coordinator.report m.toResult with
  | ok c => rfl
  | error e => rfl

/-- An answer to a report adds it if it accepts it. -/
theorem grows_answer (r : Reports) (m : Wire.ResultRequest) :
    Grows r (r.answer m).2 (accepted? (.report m.toResult)).toList :=
  answer_snd r m ▸ grows_next r _

/-- A worker is told that a report was received when it was accepted. -/
theorem accepted?_of_answer {m : Wire.ResultRequest} {a : Wire.ResultResponse}
    (ok : (r.answer m).1 = .ok a) : accepted? (.report m.toResult) = some m.toResult := by
  rcases service_report r.coordinator m with ⟨signed, -⟩ | ⟨-, text, refused⟩
  · exact if_pos signed
  · have said : (Service.report r.coordinator m).1 = .ok a := ok
    rw [refused] at said
    cases said

end

end Reports

end WorkDispatch.Coordinator

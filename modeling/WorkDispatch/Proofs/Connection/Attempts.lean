import WorkDispatch.Connection.Line

/-!
# What an attempt at a call does outside

What becomes of dials and calls is a state of its own, which a connection only changes by making them. An
attempt dials once or not at all, and then makes the call or fails (`attempted`); a backoff leaves what is
outside alone. So what holds of every dial and every call holds of a whole run of attempts.
-/

set_option autoImplicit false

namespace WorkDispatch.Connection.Line

section

variable {σ α : Type} {dial : Dial σ} {f : Ask σ α}

/-- What is outside once it was dialed, or was not. -/
inductive Dialed (dial : Dial σ) (s : σ) : σ → Prop
  | no : Dialed dial s s
  | once : Dialed dial s (dial s).2

/-- What an attempt at a call comes to, and what is outside then. -/
inductive Attempted (dial : Dial σ) (f : Ask σ α) (s : σ) : Except Failure α → σ → Prop
  | failed {s' : σ} (e : Failure) (dialed : Dialed dial s s') : Attempted dial f s (.error e) s'
  | asked {s' : σ} (operation : String) (limit : Span) (dialed : Dialed dial s s') :
    Attempted dial f s ((f s').1.toResult operation limit) (f s').2

/-- To establish a connection is to dial once at most. -/
theorem dialed_establish (dial : Dial σ) (l : Line σ) :
    Dialed dial l.outside (establish dial l).2.outside := by
  unfold establish
  split
  · exact .no
  · simp only
    split
    · exact .once
    · exact .once

/-- Behind the breaker it is so too. -/
theorem dialed_guardedDial (dial : Dial σ) (l : Line σ) :
    Dialed dial l.outside (guardedDial dial l).2.outside := by
  unfold guardedDial
  rcases arrived : (place.get l).arrive (place.now l) with ⟨allowed, b⟩
  cases allowed with
  | false =>
    rw [Breaker.guarded_of_rejected arrived]
    exact .no
  | true =>
    rcases dialed : establish dial (place.set b l) with ⟨r, l'⟩
    rw [Breaker.guarded_of_admitted arrived dialed]
    have outside := dialed_establish dial (place.set b l)
    rw [dialed] at outside
    exact outside

/-- To reconnect once is to dial once at most. -/
theorem dialed_reconnectOnce (dial : Dial σ) (l : Line σ) :
    Dialed dial l.outside (reconnectOnce dial l).2.outside := by
  unfold reconnectOnce
  split
  · exact .no
  · split
    · exact .no
    · exact dialed_guardedDial dial (l.modify Connection.countReconnect)

/-- To ask is to make the call, at once or not at all. -/
theorem attempted_ask (operation : String) (l : Line σ) {s : σ} (dialed : Dialed dial s l.outside) :
    Attempted dial f s (ask operation f l).1 (ask operation f l).2.outside := by
  unfold ask
  split
  · exact .failed _ dialed
  · simp only
    have asked : Attempted dial f s _ _ := .asked operation l.connection.settings.requestTimeout dialed
    generalize (f l.outside).1 = reply at asked
    generalize (f l.outside).2 = s' at asked
    cases reply with
    | answer | refusal | overdue => exact asked

/-- An attempt is a dial at most, and then a call at most. -/
theorem attempted (operation : String) (dial : Dial σ) (f : Ask σ α) (l : Line σ) :
    Attempted dial f l.outside (attempt operation dial f l).1 (attempt operation dial f l).2.outside := by
  unfold attempt
  split
  · exact attempted_ask operation l .no
  · have dialed := dialed_reconnectOnce dial l
    split
    · next l' connected =>
      rw [connected] at dialed
      exact attempted_ask operation l' dialed
    · next e l' failed =>
      rw [failed] at dialed
      exact .failed e dialed

/-- Nothing outside changes during a wait. -/
theorem outside_backoff (cancelled : Bool) (n : Nat) (l : Line σ) :
    (backoff cancelled n l).2.outside = l.outside := by
  unfold backoff
  split
  · rfl
  · rfl

end

end WorkDispatch.Connection.Line

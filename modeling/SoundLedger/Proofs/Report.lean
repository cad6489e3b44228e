import SoundLedger.Report

/-!
# Results of reports

A report goes on only from a success, so the result of two steps in a row is the `Except` bind of
their results. Statements about results go through these equations and never look at the log.
-/

namespace SoundLedger.Report

variable {α β : Type}

@[simp] theorem result_pure (value : α) : (pure value : Report α).result = .ok value := rfl

@[simp] theorem result_fail (failure : Failure) :
    (fail failure : Report α).result = .error failure := rfl

@[simp] theorem result_note (severity : Severity) (text : String) :
    (note severity text).result = .ok () := rfl

@[simp] theorem result_ofExcept (result : Except Failure α) : (ofExcept result).result = result :=
  rfl

@[simp] theorem result_bind (r : Report α) (next : α → Report β) :
    (r >>= next).result = r.result.bind fun value => (next value).result := by
  show (Report.bind r next).result = _
  unfold Report.bind
  cases r.result <;> rfl

/-- A sequence of two steps succeeds exactly when both do, the second from the first one's value. -/
theorem bind_eq_ok_iff {x : Except Failure α} {next : α → Except Failure β} {b : β} :
    x.bind next = .ok b ↔ ∃ a, x = .ok a ∧ next a = .ok b := by
  cases x with
  | error failure => simp [Except.bind]
  | ok a => simp [Except.bind]

end SoundLedger.Report

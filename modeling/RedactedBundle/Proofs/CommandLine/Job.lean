import RedactedBundle.CommandLine.Run

/-!
# Steps of a command

How the steps of a command go on from a report. A step that succeeds hands its report to the next
one; a step that fails ends the command with the report it leaves.

## Main statements

- `Job.run_bind`: one step after another
- `Job.run_print`, `Job.run_remark`, `Job.run_liftExcept`: single steps
-/

namespace RedactedBundle.Job

variable {α β : Type} (report : Report)

@[simp] theorem run_pure (a : α) : (pure a : Job α).run report = (.ok a, report) := rfl

@[simp] theorem run_bind (job : Job α) (next : α → Job β) :
    (job >>= next).run report =
      match job.run report with
      | (.ok a, after) => (next a).run after
      | (.error failure, after) => (.error failure, after) := by
  change (match job.run report with
    | (result, after) => (ExceptT.bindCont next result) after) = _
  rcases job.run report with ⟨_ | _, after⟩ <;> rfl

@[simp] theorem run_get : (get : Job Report).run report = (.ok report, report) := rfl

@[simp] theorem run_set (after : Report) :
    (set after : Job PUnit).run report = (.ok (), after) := rfl

@[simp] theorem run_print (text : String) :
    (print text).run report = (.ok (), { report with output := report.output ++ text }) := rfl

@[simp] theorem run_remark (text : String) :
    (remark text).run report = (.ok (), { report with remark := some text }) := rfl

@[simp] theorem run_liftExcept (result : Except Failure α) :
    (liftExcept result : Job α).run report = (result, report) := by
  cases result <;> rfl

end RedactedBundle.Job

import LedgerRehearsal.Proofs.Trace

/-! Properties that are put together like runs. What holds of the parts of a run holds of the run if
it holds of every sequence whose parts it holds of. -/
namespace LedgerRehearsal

/-- A property that a sequence of runs has when its parts have it. -/
structure Run.Closed (holds : (α : Type) → Run α → Prop) : Prop where
  pure {α : Type} (value : α) : holds α (pure value)
  bind {α β : Type} {run : Run α} {next : α → Run β} (head : holds α run)
    (tail : ∀ value, holds β (next value)) : holds β (run >>= next)

namespace Run.Closed

variable {holds : (α : Type) → Run α → Prop} {ε δ α β : Type}

theorem notes (closed : Closed holds) {notices : List Notice}
    (each : ∀ notice, holds Unit (perform (.note notice))) : holds Unit (Run.notes notices) := by
  induction notices with
  | nil => exact closed.pure ()
  | cons notice notices ih => exact closed.bind (each notice) fun _ => ih

theorem attempt_pure (closed : Closed holds) (value : α) :
    holds (Except ε α) (Pure.pure value : Attempt ε α).run := closed.pure (Except.ok value)

theorem attempt_throw (closed : Closed holds) (error : ε) :
    holds (Except ε α) (throw error : Attempt ε α).run := closed.pure (Except.error error)

theorem attempt_ofExcept (closed : Closed holds) (result : Except ε α) :
    holds (Except ε α) (Attempt.ofExcept result).run := closed.pure result

theorem attempt_lift (closed : Closed holds) {run : Run α} (part : holds α run) :
    holds (Except ε α) (ExceptT.lift run : Attempt ε α).run :=
  closed.bind part fun value => closed.pure (Except.ok value)

/-- Reports of an attempt. -/
theorem attempt_notes (closed : Closed holds) {notices : List Notice}
    (each : ∀ notice, holds Unit (perform (.note notice))) :
    holds (Except ε Unit) (ExceptT.lift (Run.notes notices) : Attempt ε Unit).run :=
  closed.attempt_lift (closed.notes each)

theorem attempt_mapError (closed : Closed holds) {attempt : Attempt ε α} {f : ε → δ}
    (part : holds (Except ε α) attempt.run) : holds (Except δ α) (attempt.mapError f).run :=
  closed.bind part fun result => closed.pure (result.mapError f)

theorem attempt_bind (closed : Closed holds) {attempt : Attempt ε α} {next : α → Attempt ε β}
    (head : holds (Except ε α) attempt.run) (tail : ∀ value, holds (Except ε β) (next value).run) :
    holds (Except ε β) (attempt >>= next).run := by
  rw [ExceptT.run_bind]
  refine closed.bind head fun outcome => ?_
  cases outcome with
  | error error => exact closed.pure _
  | ok value => exact tail value

theorem attempt_forM (closed : Closed holds) {attempt : α → Attempt ε Unit} {items : List α}
    (each : ∀ item, holds (Except ε Unit) (attempt item).run) :
    holds (Except ε Unit) (items.forM attempt).run := by
  induction items with
  | nil => exact closed.attempt_pure ()
  | cons item items ih => exact closed.attempt_bind (each item) fun _ => ih

theorem attempt_mapM (closed : Closed holds) {attempt : α → Attempt ε β} {items : List α}
    (each : ∀ item, holds (Except ε β) (attempt item).run) :
    holds (Except ε (List β)) (items.mapM attempt).run := by
  induction items with
  | nil => exact closed.attempt_pure []
  | cons item items ih =>
    rw [List.mapM_cons]
    exact closed.attempt_bind (each item) fun _ => closed.attempt_bind ih
      fun _ => closed.attempt_pure _

end Run.Closed

end LedgerRehearsal

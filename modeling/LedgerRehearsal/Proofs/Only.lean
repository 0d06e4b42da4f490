import LedgerRehearsal.Proofs.Closed

/-! The effects that a run can perform on any path. Unlike a trace, this is read off the run by its
structure, so it needs no account of the order in which things happen. -/
namespace LedgerRehearsal

namespace Run

variable {α β : Type} {allowed : Effect → Prop}

/-- Every effect on every path is allowed. -/
inductive Only (allowed : Effect → Prop) : Run α → Prop where
  | done (value : α) : Only allowed (.done value)
  | act {effect : Effect} {next : effect.Answer → Run α} :
      allowed effect → (∀ answer, Only allowed (next answer)) → Only allowed (.act effect next)

theorem only_pure (value : α) : (pure value : Run α).Only allowed := .done value

theorem only_perform {effect : Effect} (permitted : allowed effect) :
    (perform effect).Only allowed :=
  .act permitted fun answer => .done answer

theorem Only.bind {run : Run α} {next : α → Run β} (head : run.Only allowed)
    (tail : ∀ value, (next value).Only allowed) : (run >>= next).Only allowed := by
  induction head with
  | done value => exact tail value
  | act permitted _ ih => exact .act permitted ih

theorem Only.imp {other : Effect → Prop} {run : Run α} (only : run.Only allowed)
    (permits : ∀ effect, allowed effect → other effect) : run.Only other := by
  induction only with
  | done value => exact .done value
  | act permitted _ ih => exact .act (permits _ permitted) ih

/-- A report that depends on a condition changes nothing about the rest. -/
theorem only_note_if {condition : Bool} {severity : Severity} {message : String}
    {fields : List (String × String)} {next : Unit → Run α}
    (noted : allowed (.note ⟨severity,message,fields⟩))
    (rest : (next ()).Only allowed) :
    (if condition = true then note severity message fields >>= next else next ()).Only allowed := by
  split
  · exact (only_perform noted).bind fun _ => rest
  · exact rest

theorem Only.of_mem {run : Run α} (only : run.Only allowed) {events : List Event} {result : α}
    (trace : Trace run events result) {event : Event} (member : event ∈ events) :
    allowed event.1 := by
  induction trace with
  | done => contradiction
  | act _ ih =>
    cases only with
    | act permitted rest =>
      rcases List.mem_cons.mp member with rfl | later
      · exact permitted
      · exact ih (rest _) later

theorem closed_only (allowed : Effect → Prop) : Closed fun _ run => run.Only allowed :=
  ⟨only_pure,Only.bind⟩

end Run

end LedgerRehearsal

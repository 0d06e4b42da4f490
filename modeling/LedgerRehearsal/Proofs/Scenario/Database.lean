import LedgerRehearsal.Proofs.Only
import LedgerRehearsal.Proofs.Scenario.Parts

/-! A scenario works on its database and on no other, whatever the ledger replies, and it creates
none. -/
namespace LedgerRehearsal

open Json

/-- What work on one database may do. -/
def Effect.Within (database : DatabaseId) : Effect → Prop
  | ask request =>
    ∃ connection, request.connection? = some connection ∧ connection.database = database
  | freshSuffix => False
  | note _ | now | sleep _ | stopRequested | rest .. => True

variable {database : DatabaseId}

theorem within_ask {request : Request} {connection : Connection}
    (made : request.connection? = some connection) (on : connection.database = database) :
    (Run.ask request).Only (Effect.Within database) := Run.only_perform ⟨connection,made,on⟩

theorem within_note {severity : Severity} {message : String} {fields : List (String × String)} :
    (Run.note severity message fields).Only (Effect.Within database) := Run.only_perform trivial

namespace Monitor

variable {monitor : Monitor} {trial : Trial} {tx : TxId}

theorem within_onLedgerError {tx : Option TxId} {error : LedgerError} :
    (onLedgerError trial tx error).Only (Effect.Within database) := by
  unfold onLedgerError
  split <;> exact within_note.bind fun _ => Run.only_pure _

theorem within_judgeRecord {markers : List String} {record : Value} :
    (judgeRecord markers trial tx record).Only (Effect.Within database) := by
  unfold judgeRecord
  split
  case h_3 => exact Run.only_pure _
  all_goals exact within_note.bind fun _ => Run.only_pure _

theorem within_judge {markers : List String} {record : Value} {ownVisible : Bool} :
    (judge markers trial tx record ownVisible).Only (Effect.Within database) := by
  unfold judge
  split
  · exact within_judgeRecord
  · split
    · exact within_note.bind fun _ => Run.only_pure _
    · exact within_note.bind fun _ => within_judgeRecord

theorem within_round (root : trial.privileged.database = database)
    (own : trial.submitter.database = database) {attempts : Nat} :
    (round monitor trial tx attempts).Only (Effect.Within database) := by
  unfold round
  refine (within_ask rfl root).bind fun authoritative => ?_
  split
  · exact within_onLedgerError.bind fun _ => Run.only_pure _
  · refine (within_ask rfl own).bind fun records => ?_
    split
    · exact within_onLedgerError.bind fun _ => Run.only_pure _
    · split
      · exact Run.only_pure _
      · exact within_note.bind fun _ => within_judge.bind fun _ => Run.only_pure _

theorem within_rest {policy : PollPolicy} {seen : Option Nat} :
    (rest policy seen).Only (Effect.Within database) := by
  unfold rest
  split
  · exact (Run.only_perform trivial).bind fun _ => Run.only_pure _
  · refine (Run.only_perform trivial).bind fun wake => ?_
    split
    · exact Run.only_pure _
    · exact Run.only_pure _
    · refine (Run.only_perform trivial).bind fun stop => ?_
      split <;> exact Run.only_pure _

theorem within_poll (root : trial.privileged.database = database)
    (own : trial.submitter.database = database) {started : Duration} {attempts fuel : Nat}
    {seen : Option Nat} :
    (poll monitor trial tx started attempts seen fuel).Only (Effect.Within database) := by
  induction fuel generalizing attempts seen with
  | zero => exact within_note.bind fun _ => Run.only_pure _
  | succ fuel ih =>
    unfold poll
    refine (Run.only_perform trivial).bind fun stop => ?_
    split
    · exact Run.only_pure _
    · refine (within_round root own).bind fun verdict => ?_
      split
      · exact Run.only_pure _
      · refine Run.only_note_if trivial ((Run.only_perform trivial).bind fun time => ?_)
        dsimp only
        split
        · exact within_note.bind fun _ => Run.only_pure _
        · refine within_rest.bind fun woken => ?_
          split
          · exact Run.only_pure _
          · exact ih

theorem within_check (root : trial.privileged.database = database)
    (own : trial.submitter.database = database) :
    (check monitor trial).Only (Effect.Within database) := by
  unfold check
  refine (within_ask rfl own).bind fun submitted => ?_
  split
  · exact within_onLedgerError
  · exact within_note.bind fun _ => (Run.only_perform trivial).bind fun _ => within_poll root own

end Monitor

theorem worksOn_within {monitor : Monitor} :
    WorksOn database monitor fun _ run => run.Only (Effect.Within database) where
  toClosed := Run.closed_only _
  note _ _ _ := within_note
  ask made on := within_ask made on
  check root own := Monitor.within_check root own

end LedgerRehearsal

import LedgerRehearsal.Ledger.InMemory
import LedgerRehearsal.Proofs.Secret.Table
import LedgerRehearsal.Proofs.Trace

/-! Runs that a ledger in memory cannot tell apart. Such a ledger knows a key by its account, so it
treats a request as it treats the request without the secret; runs whose parts it treats alike come
to the same value and leave the same world behind. -/
namespace LedgerRehearsal

def Connection.hidden (connection : Connection) : Connection :=
  { connection with key := connection.key.hidden }

namespace Run

variable {ε δ α β : Type}

/-- Against every ledger in memory, from every state of it, the two have the same result, the same
notices and the same effect on the ledger. -/
def Indistinct (first second : Run α) : Prop :=
  ∀ (rules : LedgerRules) (world : World InMemoryLedger),
    rules.surroundings.play first world = rules.surroundings.play second world

namespace Indistinct

theorem refl (run : Run α) : Indistinct run run := fun _ _ => rfl

theorem symm {first second : Run α} (alike : Indistinct first second) : Indistinct second first :=
  fun rules world => (alike rules world).symm

theorem trans {first second third : Run α} (front : Indistinct first second)
    (back : Indistinct second third) : Indistinct first third :=
  fun rules world => (front rules world).trans (back rules world)

theorem bind {first second : Run α} {next other : α → Run β} (head : Indistinct first second)
    (tail : ∀ value, Indistinct (next value) (other value)) :
    Indistinct (first >>= next) (second >>= other) := by
  intro rules world
  change rules.surroundings.play (first.bind next) world =
    rules.surroundings.play (second.bind other) world
  have begun := head rules world
  unfold Surroundings.play at begun ⊢
  rw [play_bind,play_bind,begun]
  exact tail _ rules _

/-- A report that depends on a condition is the same in both. -/
theorem note_if {condition : Bool} {severity : Severity} {message : String}
    {fields : List (String × String)} {next other : Unit → Run α} (rest : Indistinct (next ()) (other ())) :
    Indistinct (if condition = true then note severity message fields >>= next else next ())
      (if condition = true then note severity message fields >>= other else other ()) := by
  split
  · exact (refl (note severity message fields)).bind fun _ => rest
  · exact rest

theorem connect (connection : Connection) :
    Indistinct (ask (.connect connection)) (ask (.connect connection.hidden)) := fun _ _ => rfl

theorem submit (connection : Connection) (transaction : Json.Value) :
    Indistinct (ask (.submit connection transaction))
      (ask (.submit connection.hidden transaction)) := fun _ _ => rfl

theorem submitAndWait (connection : Connection) (transaction : Json.Value) :
    Indistinct (ask (.submitAndWait connection transaction))
      (ask (.submitAndWait connection.hidden transaction)) := fun _ _ => rfl

theorem query (connection : Connection) (query : Json.Value) :
    Indistinct (ask (.query connection query)) (ask (.query connection.hidden query)) :=
  fun _ _ => rfl

theorem lookup (connection : Connection) (tx : TxId) :
    Indistinct (ask (.lookup connection tx)) (ask (.lookup connection.hidden tx)) := fun _ _ => rfl

theorem attempt_lift {first second : Run α} (alike : Indistinct first second) :
    Indistinct (ExceptT.lift first : Attempt ε α).run (ExceptT.lift second : Attempt ε α).run :=
  alike.bind fun _ => refl _

theorem attempt_mapError {first second : Attempt ε α} (f : ε → δ)
    (alike : Indistinct first.run second.run) :
    Indistinct (first.mapError f).run (second.mapError f).run := alike.bind fun _ => refl _

theorem attempt_bind {first second : Attempt ε α} {next other : α → Attempt ε β}
    (head : Indistinct first.run second.run)
    (tail : ∀ value, Indistinct (next value).run (other value).run) :
    Indistinct (first >>= next).run (second >>= other).run := by
  rw [ExceptT.run_bind,ExceptT.run_bind]
  refine head.bind fun result => ?_
  cases result with
  | error error => exact refl _
  | ok value => exact tail value

theorem attempt_forM {first second : α → Attempt ε Unit}
    (each : ∀ item, Indistinct (first item).run (second item).run) (items : List α) :
    Indistinct (items.forM first).run (items.forM second).run := by
  induction items with
  | nil => exact refl _
  | cons item items ih => exact attempt_bind (each item) fun _ => ih

end Indistinct

end Run

end LedgerRehearsal

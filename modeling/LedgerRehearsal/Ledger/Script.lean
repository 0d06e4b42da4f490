import LedgerRehearsal.Ledger.InMemory
import LedgerRehearsal.Json.Printer
import LedgerRehearsal.Text.Occurrence

/-!
Scripted ledgers. The rules of a ledger in memory can be written as lists of actions with
conditions, of which the first that applies decides; its client can be made to fail at given calls;
and for one transaction the replies of two connections can be given one by one.
-/

namespace LedgerRehearsal

open Json

/-- When an action applies: every condition that is given has to hold. -/
structure Condition where
  identity : Option String
  /-- How the name of the database begins. -/
  database : Option String
  /-- What stands in the compact text of the query or transaction. -/
  includes : Option String
  /-- The number of the query or submission. -/
  number : Option Nat
deriving DecidableEq, Repr

namespace Condition

def holds (condition : Condition) (identity : String) (database : DatabaseId) (value : Value)
    (number : Nat) : Bool :=
  condition.identity.all (· = identity)
    && condition.database.all (fun start => start.toList.isPrefixOf database.text.toList)
    && condition.includes.all (fun part => Text.includes part.toList value.compact.toList)
    && condition.number.all (· = number)

end Condition

inductive QueryAction where
  | fail (error : LedgerError)
  | rows (rows : List Value)
deriving DecidableEq

inductive OutcomeAction where
  | fail (error : LedgerError)
  | reject (message : String)
  | record (record : Value)
  | commit
deriving DecidableEq

/-- Who may read the record of a submission. -/
inductive Visibility where
  | everyone
  /-- The submitter and one identity more. -/
  | submitterAnd (identity : String)
  | only (identities : List String)
deriving DecidableEq, Repr

def Visibility.admits (visibility : Visibility) (identity : String) (submission : Submission) : Bool :=
  match visibility with
  | .everyone => true
  | .submitterAnd privileged => identity = privileged || identity = submission.identity
  | .only identities => identities.contains identity

structure LedgerScript where
  queries : List (Condition × QueryAction)
  outcomes : List (Condition × OutcomeAction)
  visibility : Visibility
  commitAfter : Nat
  healthFailures : Nat

namespace LedgerScript

def respond (script : LedgerScript) (number : Nat) (asked : LedgerQuery) :
    Except LedgerError (List Value) :=
  match script.queries.find? fun rule => rule.1.holds asked.identity asked.database asked.query number with
  | some (_, .fail error) => .error error
  | some (_, .rows rows) => .ok rows
  | none => .ok []

def outcome (script : LedgerScript) (submission : Submission) : Except LedgerError Value :=
  match script.outcomes.find? fun rule =>
    rule.1.holds submission.identity submission.database submission.transaction submission.number with
  | some (_, .fail error) => .error error
  | some (_, .reject message) => .ok (submission.errorRecord message)
  | some (_, .record record) => .ok record
  | some (_, .commit) | none => .ok submission.committedRecord

def rules (script : LedgerScript) : LedgerRules :=
  ⟨script.respond, script.outcome, script.visibility.admits, script.commitAfter, script.healthFailures⟩

end LedgerScript

/-- Calls of a client, counted from one, that fail before they reach the ledger. -/
structure Faults where
  connects : List (Nat × LedgerError)
  creates : List (Nat × LedgerError)

/-- A ledger behind a client that counts its calls. -/
structure FaultyLedger where
  ledger : InMemoryLedger
  /-- The accounts of all calls to connect, in order. -/
  connects : List String
  creates : Nat
deriving DecidableEq

namespace FaultyLedger

def reply (rules : LedgerRules) (faults : Faults) :
    (request : Request) → FaultyLedger → request.Reply × FaultyLedger
  | .connect connection, state =>
    let state := { state with connects := state.connects ++ [connection.key.account] }
    match faults.connects.lookup state.connects.length with
    | some error => (.error error, state)
    | none => (state.ledger.requireDatabase connection.database, state)
  | .createDatabase database, state =>
    let state := { state with creates := state.creates + 1 }
    match faults.creates.lookup state.creates with
    | some error => (.error error, state)
    | none =>
      let (reply, ledger) := state.ledger.createDatabase database
      (reply, { state with ledger })
  | request, state =>
    let (reply, ledger) := InMemoryLedger.reply rules request state.ledger
    (reply, { state with ledger })

def surroundings (rules : LedgerRules) (faults : Faults) : Surroundings FaultyLedger :=
  ⟨reply rules faults, fun _ _ => [], fun n => s!"#{n}"⟩

end FaultyLedger

/-- The replies to one transaction: to its submission, and to the lookups of either connection. -/
structure TransactionScript where
  submission : Except LedgerError TxId
  privileged : Nat → Except LedgerError (List Value)
  submitter : Nat → Except LedgerError (List Value)

/-- How often either connection looked the transaction up. -/
structure LookupCounts where
  privileged : Nat
  submitter : Nat
deriving DecidableEq, Repr

namespace TransactionScript

/-- The replies of a list, of which the last one repeats; of an empty list, no records. -/
def replies (polls : List (Except LedgerError (List Value))) (n : Nat) : Except LedgerError (List Value) :=
  match polls[n]? with
  | some reply => reply
  | none => polls.getLast?.getD (.ok [])

/-- Lookups of the privileged connection are told from all others by the connection. -/
def reply (script : TransactionScript) (privileged : Connection) :
    (request : Request) → LookupCounts → request.Reply × LookupCounts
  | .lookup connection _, counts =>
    if connection = privileged then
      (script.privileged counts.privileged, { counts with privileged := counts.privileged + 1 })
    else (script.submitter counts.submitter, { counts with submitter := counts.submitter + 1 })
  | .submit .., counts => (script.submission, counts)
  | .submitAndWait .., counts => (.ok .null, counts)
  | .query .., counts => (.ok [], counts)
  | .health, counts | .createDatabase _, counts | .connect _, counts => (.ok (), counts)

def surroundings (script : TransactionScript) (privileged : Connection) : Surroundings LookupCounts :=
  ⟨script.reply privileged, fun _ _ => [], fun n => s!"#{n}"⟩

end TransactionScript

end LedgerRehearsal

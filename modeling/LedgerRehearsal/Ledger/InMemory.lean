import LedgerRehearsal.World

/-!
A ledger in memory. It keeps every database, submission and query in the order of their arrival.
Rules say how queries are answered, what becomes of a submission, and who may read its record. A
transaction that is submitted without waiting shows its record only after a number of lookups,
counted over all who look it up.
-/

namespace LedgerRehearsal

open Json

structure Submission where
  /-- Submissions are numbered from one. -/
  number : Nat
  database : DatabaseId
  identity : String
  transaction : Value
  /-- The submitter waited for the record. -/
  waited : Bool
deriving DecidableEq

namespace Submission

/-- The identifier of the submission of a number: at least four digits. -/
def txOfNumber (number : Nat) : TxId := "tx-" ++ String.ofList ((Nat.toDigits 10 number).leftpad 4 '0')

def tx (submission : Submission) : TxId := txOfNumber submission.number

/-- The record of a transaction that was carried out. -/
def committedRecord (submission : Submission) : Value :=
  .ofMembers [("_tx/id", .string submission.tx), ("status", .ofNat 200)]

/-- The record of a transaction that was refused. -/
def errorRecord (submission : Submission) (message : String) : Value :=
  .ofMembers [("_tx/id", .string submission.tx), ("_tx/error", .string message), ("status", .ofNat 400)]

end Submission

structure LedgerQuery where
  database : DatabaseId
  identity : String
  query : Value
deriving DecidableEq

/-- The record of a submission, with the number of times it was looked up. -/
structure StoredRecord where
  /-- The place of the submission among all. -/
  position : Nat
  record : Value
  lookups : Nat
  /-- The record shows when there were more lookups than this. -/
  hiddenFor : Nat
deriving DecidableEq

structure LedgerRules where
  /-- The answer to a query, of which the number is given, counted from one. -/
  respond : Nat → LedgerQuery → Except LedgerError (List Value)
  outcome : Submission → Except LedgerError Value
  visible : (identity : String) → Submission → Bool
  commitAfter : Nat
  /-- So many health checks fail first. -/
  healthFailures : Nat

/-- How many lookups of a record show nothing. -/
def LedgerRules.hiddenFor (rules : LedgerRules) (waited : Bool) : Nat :=
  if waited then 0 else rules.commitAfter

/-- Queries find nothing, every transaction is carried out at once, and everyone reads everything. -/
def LedgerRules.plain : LedgerRules :=
  ⟨fun _ _ => .ok [], fun submission => .ok submission.committedRecord, fun _ _ => true, 0, 0⟩

structure InMemoryLedger where
  databases : List DatabaseId
  submissions : List Submission
  records : List (TxId × StoredRecord)
  queries : List LedgerQuery
  /-- So many identifiers were given out. -/
  issued : Nat
  healthChecks : Nat
deriving DecidableEq

namespace InMemoryLedger

def empty : InMemoryLedger := ⟨[], [], [], [], 0, 0⟩

def submissionsTo (ledger : InMemoryLedger) (database : DatabaseId) : List Submission :=
  ledger.submissions.filter fun submission => submission.database = database

/-- How much was asked of the ledger that it keeps. -/
def requestCount (ledger : InMemoryLedger) : Nat :=
  ledger.databases.length + ledger.submissions.length + ledger.queries.length

def checkHealth (rules : LedgerRules) (ledger : InMemoryLedger) :
    Except LedgerError Unit × InMemoryLedger :=
  let ledger := { ledger with healthChecks := ledger.healthChecks + 1 }
  (if ledger.healthChecks ≤ rules.healthFailures then .error (.transport "connection refused") else .ok (),
    ledger)

def createDatabase (database : DatabaseId) (ledger : InMemoryLedger) :
    Except LedgerError Unit × InMemoryLedger :=
  if database ∈ ledger.databases then
    (.error (.rejected 400 s!"database {database.text} already exists"), ledger)
  else (.ok (), { ledger with databases := ledger.databases ++ [database] })

def requireDatabase (ledger : InMemoryLedger) (database : DatabaseId) : Except LedgerError Unit :=
  if database ∈ ledger.databases then .ok () else .error (.unknownDatabase database.text)

/-- The submission of the next identifier. -/
def next (connection : Connection) (transaction : Value) (waited : Bool) (ledger : InMemoryLedger) :
    Submission :=
  ⟨ledger.issued + 1, connection.database, connection.key.account, transaction, waited⟩

def take (submission : Submission) (ledger : InMemoryLedger) : InMemoryLedger :=
  { ledger with
    submissions := ledger.submissions ++ [submission]
    issued := submission.number }

/-- Keeps a record under an identifier, in place of another one under it. -/
def store (tx : TxId) (stored : StoredRecord) (ledger : InMemoryLedger) : InMemoryLedger :=
  { ledger with records := ledger.records.filter (·.1 ≠ tx) ++ [(tx, stored)] }

/-- The submission is kept whatever becomes of it; a record is kept when the rule gives one. -/
def submit (rules : LedgerRules) (connection : Connection) (transaction : Value) (waited : Bool)
    (ledger : InMemoryLedger) : Except LedgerError (TxId × Value) × InMemoryLedger :=
  match ledger.requireDatabase connection.database with
  | .error error => (.error error, ledger)
  | .ok _ =>
    let submission := ledger.next connection transaction waited
    let position := ledger.submissions.length
    let ledger := ledger.take submission
    match rules.outcome submission with
    | .error error => (.error error, ledger)
    | .ok record =>
      (.ok (submission.tx, record),
        ledger.store submission.tx ⟨position, record, 0, rules.hiddenFor waited⟩)

/-- The query is kept whatever the answer. -/
def query (rules : LedgerRules) (connection : Connection) (query : Value) (ledger : InMemoryLedger) :
    Except LedgerError (List Value) × InMemoryLedger :=
  let asked : LedgerQuery := ⟨connection.database, connection.key.account, query⟩
  let ledger := { ledger with queries := ledger.queries ++ [asked] }
  (rules.respond ledger.queries.length asked, ledger)

/-- What an identity sees of a record that has been looked up. -/
def shown (rules : LedgerRules) (identity : String) (stored : StoredRecord) (ledger : InMemoryLedger) :
    List Value :=
  if stored.lookups ≤ stored.hiddenFor then []
  else
    match ledger.submissions[stored.position]? with
    | some submission => if rules.visible identity submission then [stored.record] else []
    | none => []

def lookup (rules : LedgerRules) (identity : String) (tx : TxId) (ledger : InMemoryLedger) :
    List Value × InMemoryLedger :=
  match ledger.records.lookup tx with
  | none => ([], ledger)
  | some stored =>
    let stored := { stored with lookups := stored.lookups + 1 }
    (ledger.shown rules identity stored,
      { ledger with
        records := ledger.records.map fun entry => if entry.1 = tx then (tx, stored) else entry })

def reply (rules : LedgerRules) :
    (request : Request) → InMemoryLedger → request.Reply × InMemoryLedger
  | .health, ledger => ledger.checkHealth rules
  | .createDatabase database, ledger => ledger.createDatabase database
  | .connect connection, ledger => (ledger.requireDatabase connection.database, ledger)
  | .submit connection transaction, ledger =>
    let (result, ledger) := ledger.submit rules connection transaction false
    (result.map (·.1), ledger)
  | .submitAndWait connection transaction, ledger =>
    let (result, ledger) := ledger.submit rules connection transaction true
    (result.map (·.2), ledger)
  | .query connection query, ledger => ledger.query rules connection query
  | .lookup connection tx, ledger =>
    let (records, ledger) := ledger.lookup rules connection.key.account tx
    (.ok records, ledger)

end InMemoryLedger

/-- A ledger in memory as the surroundings of a run; suffixes are numbered. -/
def LedgerRules.surroundings (rules : LedgerRules) : Surroundings InMemoryLedger :=
  ⟨InMemoryLedger.reply rules, fun _ _ => [], fun n => s!"#{n}"⟩

end LedgerRehearsal

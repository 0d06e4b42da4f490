import LedgerRehearsal.Failure
import LedgerRehearsal.Json.Value

/-!
What a rehearsal asks of a ledger. A connection is one key acting on one database; it holds no
state of its own, so opening it only asks whether it may be used. Every request has a type of
answers, and a ledger may fail any of them.
-/

namespace LedgerRehearsal

open Json

structure Connection where
  database : DatabaseId
  key : Key
deriving DecidableEq, Repr

inductive Request where
  | health
  | createDatabase (database : DatabaseId)
  | connect (connection : Connection)
  /-- Submits a transaction and does not wait until it is committed. -/
  | submit (connection : Connection) (transaction : Value)
  /-- Submits a transaction and answers with its record. -/
  | submitAndWait (connection : Connection) (transaction : Value)
  | query (connection : Connection) (query : Value)
  /-- The records of a transaction that the key may read. -/
  | lookup (connection : Connection) (tx : TxId)
deriving DecidableEq

namespace Request

abbrev Answer : Request → Type
  | health | createDatabase _ | connect _ => Unit
  | submit .. => TxId
  | submitAndWait .. => Value
  | query .. | lookup .. => List Value

abbrev Reply (request : Request) : Type := Except LedgerError request.Answer

end Request

end LedgerRehearsal

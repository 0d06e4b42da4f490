/-!
The phases of a scenario, in the order in which they run. Prepare and cleanup act with the root
key; the four phases between them each act with the keys of a role set of their own. The `yes`
phases must succeed and the `no` phases must be refused.
-/

namespace LedgerRehearsal

inductive Phase where
  | prepare
  | yesQuery
  | noQuery
  | yesTransaction
  | noTransaction
  | cleanup
deriving DecidableEq, Repr

namespace Phase

def all : List Phase := [prepare, yesQuery, noQuery, yesTransaction, noTransaction, cleanup]

/-- The name in messages. -/
def label : Phase → String
  | prepare => "prepare"
  | yesQuery => "yes-query"
  | noQuery => "no-query"
  | yesTransaction => "yes-transaction"
  | noTransaction => "no-transaction"
  | cleanup => "cleanup"

/-- The name in data and in reports for people who look at a value. -/
def title : Phase → String
  | prepare => "Prepare"
  | yesQuery => "YesQuery"
  | noQuery => "NoQuery"
  | yesTransaction => "YesTransaction"
  | noTransaction => "NoTransaction"
  | cleanup => "Cleanup"

def ofTitle? (title : String) : Option Phase := all.find? fun phase => phase.title = title

/-- The file of the phase in the directory of a scenario. -/
def file : Phase → String
  | prepare => "prepare.json"
  | yesQuery => "yes.json"
  | noQuery => "no.json"
  | yesTransaction => "tyes.json"
  | noTransaction => "tno.json"
  | cleanup => "clean.json"

/-- The name of the role set whose keys the phase acts with. -/
def roleSet? : Phase → Option String
  | yesQuery => some "yes"
  | noQuery => some "no"
  | yesTransaction => some "tyes"
  | noTransaction => some "tno"
  | prepare | cleanup => none

def expectsSuccess : Phase → Bool
  | noQuery | noTransaction => false
  | _ => true

end Phase

end LedgerRehearsal

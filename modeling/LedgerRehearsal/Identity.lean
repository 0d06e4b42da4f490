import LedgerRehearsal.Text.Quoted

/-!
Names on the ledger: databases, transactions, and the keys with which requests are made.
-/

namespace LedgerRehearsal

/-- The identifier that the ledger gives to a submitted transaction. -/
abbrev TxId := String

/-- A database by its full name, the network and the name in it. -/
structure DatabaseId where
  text : String
deriving DecidableEq, Repr

namespace DatabaseId

def make (network name : String) : DatabaseId := ⟨network ++ "/" ++ name⟩

/-- The part before the first slash. -/
def network (id : DatabaseId) : String := String.ofList (id.text.toList.takeWhile (· ≠ '/'))

end DatabaseId

/-- The private key of an account and the account that it acts for. -/
structure Key where
  secret : String
  account : String
deriving DecidableEq, Repr

/-- What a report shows of a key: never its private part. -/
def Key.inspect (key : Key) : String :=
  "KeyDescriptor \x7b private: \"<redacted>\", account_id: " ++ Text.quoted key.account ++ " \x7d"

end LedgerRehearsal

import LedgerRehearsal.Proofs.Json.Rearranged
import LedgerRehearsal.Template

/-! The order of keys never matters. What a query is compiled to and the layouts of its text are
functions of its canonical form, which depends on no order of members. -/
namespace LedgerRehearsal.Template

open Json

/-- A query with the keys of two objects against their order. The small `é` is encoded with greater
bytes than the `z`. -/
def againstOrder : Value :=
  .object [("é",.list [.object [("b",.ofNat 1),("a",.string "PARAM")],.null]),("z",.bool true)]

/-- The same query with both objects in order. -/
def inOrder : Value :=
  .object [("z",.bool true),("é",.list [.object [("a",.string "PARAM"),("b",.ofNat 1)],.null])]

end LedgerRehearsal.Template

import LedgerRehearsal.Http.Url

/-!
Requests over HTTP and their responses, as far as a ledger needs them.
-/

namespace LedgerRehearsal

inductive HttpMethod where
  | get
  | post
deriving DecidableEq, Repr

def HttpMethod.text : HttpMethod → String
  | get => "GET"
  | post => "POST"

/-- A request to a path below the address of a ledger. -/
structure HttpRequest where
  method : HttpMethod
  path : String
  /-- A JSON text. -/
  body : Option String
deriving DecidableEq, Repr

/-- A request on its way, with the headers that were put on it. -/
structure Delivery where
  url : Url
  method : HttpMethod
  headers : List (String × String)
  body : String
deriving DecidableEq, Repr

structure HttpResponse where
  status : Nat
  body : String
deriving DecidableEq, Repr

def HttpResponse.isSuccess (response : HttpResponse) : Bool :=
  200 ≤ response.status && response.status < 300

end LedgerRehearsal

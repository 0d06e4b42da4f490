import LedgerRehearsal.Diagnostics
import LedgerRehearsal.Http.Message
import LedgerRehearsal.Json.Printer
import LedgerRehearsal.Json.Reader
import LedgerRehearsal.Ledger.Request
import LedgerRehearsal.Notice
import LedgerRehearsal.Text.Blank

/-!
A ledger that is reached over HTTP. Each request of a run but the opening of a connection is one
HTTP request with a JSON body, signed with the key of the connection; what its response means
depends on the status, on whether the body is blank or JSON, and on the request.
-/

namespace LedgerRehearsal

open Json

variable [Diagnostics]

namespace Request

/-- The query that looks up the record of a transaction. -/
def lookupQuery (tx : TxId) : Value :=
  .ofMembers [("select", .ofStrings ["*"]), ("from", .ofStrings ["_tx/id", tx])]

private def pathOf (connection : Connection) (action : String) : String :=
  s!"/fdb/{connection.database.text}/{action}"

private def post (path : String) (body : Value) : HttpRequest := ⟨.post, path, some body.compact⟩

/-- The HTTP request that is made; none is made for opening a connection. -/
def toHttp? : Request → Option HttpRequest
  | .health => some ⟨.get, "/fdb/health", none⟩
  | .createDatabase database =>
    some (post "/fdb/new-db" (.ofMembers [("db/id", .string database.text)]))
  | .connect _ => none
  | .submit connection transaction => some (post (pathOf connection "transact" ++ "?wait=false") transaction)
  | .submitAndWait connection transaction => some (post (pathOf connection "transact") transaction)
  | .query connection asked => some (post (pathOf connection "query") asked)
  | .lookup connection tx => some (post (pathOf connection "query") (lookupQuery tx))

/-- The key that signs a request. -/
def signer? : Request → Option Key
  | .health | .createDatabase _ => none
  | .connect connection | .submit connection _ | .submitAndWait connection _ | .query connection _
  | .lookup connection _ => some connection.key

/-- The records of an answer: the items of a list, nothing for null, any other value alone. -/
def records : Value → List Value
  | .list items => items
  | .null => []
  | other => [other]

/-- What the value of a successful response answers. -/
def answerOf : (request : Request) → Value → request.Reply
  | .health, _ | .createDatabase _, _ | .connect _, _ => .ok ()
  | .submit .., .string tx => .ok tx
  | .submit .., other => .error (.invalidResponse s!"expected a transaction id, got {other.compact}")
  | .submitAndWait .., value => .ok value
  | .query .., value | .lookup .., value => .ok (records value)

end Request

/-- The value of a response: a blank body stands for null. -/
def HttpResponse.value (response : HttpResponse) : Except LedgerError Value :=
  if !response.isSuccess then .error (.rejected response.status response.body)
  else if Text.allBlank response.body then .ok .null
  else match parse response.body with
    | some value => .ok value
    | none => .error (.invalidResponse s!"{Diagnostics.json response.body} (body: {response.body})")

/-- What a response means for a request. -/
def Request.interpret (request : Request) (response : HttpResponse) : request.Reply := do
  let value ← response.value
  request.answerOf value

/-- Puts headers on a request of a key, or refuses to. -/
abbrev Signing := Key → HttpRequest → Except LedgerError (List (String × String))

structure RemoteLedger where
  base : String
  signing : Signing

namespace RemoteLedger

/-- No headers for any key. -/
def unsigned : Signing := fun _ _ => .ok []

/-- The ledger at an endpoint, without the slashes at its end. -/
def ofEndpoint (endpoint : String) (signing : Signing) : RemoteLedger :=
  ⟨String.ofList (endpoint.toList.reverse.dropWhile (· = '/')).reverse, signing⟩

/-- The headers of a request: those of the key first, then the type of the body if there is one. -/
def headers (ledger : RemoteLedger) (request : Request) (message : HttpRequest) :
    Except LedgerError (List (String × String)) := do
  let signed ← match request.signer? with
    | some key => ledger.signing key message
    | none => .ok []
  .ok (signed ++ if message.body.isSome then [("content-type", "application/json")] else [])

/-- What is sent for a request. -/
def delivery (ledger : RemoteLedger) (request : Request) (message : HttpRequest) :
    Except LedgerError Delivery := do
  let headers ← ledger.headers request message
  let address := ledger.base ++ message.path
  match Url.parse? address with
  | some url => .ok ⟨url, message.method, headers, message.body.getD ""⟩
  | none => .error (.transport (Diagnostics.address address))

/-- Answers a request by at most one exchange with the server. -/
def reply {m : Type → Type} [Monad m] (ledger : RemoteLedger)
    (exchange : Delivery → m (Except String HttpResponse)) (request : Request) : m request.Reply :=
  match request.toHttp? with
  | none => pure (request.answerOf .null)
  | some message =>
    match ledger.delivery request message with
    | .error error => pure (.error error)
    | .ok delivery => do
      match ← exchange delivery with
      | .error reason => pure (.error (.transport reason))
      | .ok response => pure (request.interpret response)

/-- What is sent is noted once it is signed. -/
def sendingNotices (ledger : RemoteLedger) (request : Request) : List Notice :=
  match request.toHttp? with
  | none => []
  | some message =>
    match ledger.headers request message with
    | .error _ => []
    | .ok _ =>
      [⟨.debug, "Ledger request", [("method", message.method.text), ("path", message.path)]⟩]

/-- A created database is noted, too. -/
def remarks (ledger : RemoteLedger) (request : Request) (reply : request.Reply) : List Notice :=
  ledger.sendingNotices request ++
    match request, reply with
    | .createDatabase database, .ok _ =>
      [⟨.info, "Created database", [("database", database.text)]⟩]
    | _, _ => []

end RemoteLedger

end LedgerRehearsal

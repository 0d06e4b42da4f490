import LedgerRehearsal.Http.Message

/-!
Requests and responses as they go over a connection. A connection carries one request and its
response, and whoever answers closes it, so a body ends where the connection does; a response that
announces a longer body than arrived is incomplete.
-/

namespace LedgerRehearsal

/-- The host of an address and the number of the service there, 80 where none is given. -/
def Url.endpoint (url : Url) : String × UInt16 :=
  match url.authority.splitOn ":" with
  | [host, service] => (host, UInt16.ofNat (service.toNat?.getD 80))
  | _ => (url.authority, 80)

/-- The end of a line in a head. -/
def headLineEnd : String := "\r\n"

def headerLine (header : String × String) : String := header.1 ++ ": " ++ header.2

/-- The text of a request. -/
def Delivery.wire (delivery : Delivery) : String :=
  let first := s!"{delivery.method.text} {delivery.url.target} HTTP/1.0"
  let headers :=
    [("host", delivery.url.authority), ("accept", "*/*"),
      ("content-length", toString delivery.body.utf8ByteSize)] ++ delivery.headers
  headLineEnd.intercalate (first :: headers.map headerLine) ++ headLineEnd ++ headLineEnd ++ delivery.body

namespace HttpResponse

/-- The bytes before the first blank line and those behind it. -/
def splitHead : List UInt8 → Option (List UInt8 × List UInt8)
  | 13 :: 10 :: 13 :: 10 :: body => some ([], body)
  | byte :: rest => (splitHead rest).map fun (head, body) => (byte :: head, body)
  | [] => none

/-- The status in the first line of a head. -/
def statusOf? (line : String) : Option Nat :=
  match line.splitOn " " with
  | _ :: status :: _ => status.toNat?
  | _ => none

/-- The length that a header line announces, if it is about the length. -/
def announced? (line : String) : Option Nat :=
  match line.splitOn ":" with
  | [name, length] =>
    if name.toLower = "content-length" then
      (String.ofList (length.toList.filter (· ≠ ' '))).toNat?
    else none
  | _ => none

def textOf? (bytes : List UInt8) : Option String := String.fromUTF8? ⟨bytes.toArray⟩

/-- The response that arrived, if it is one and complete. -/
def ofWire? (bytes : List UInt8) : Option HttpResponse := do
  let (head, body) ← splitHead bytes
  match (← textOf? head).splitOn headLineEnd with
  | [] => none
  | first :: headers =>
    let status ← statusOf? first
    let length := (headers.findSome? announced?).getD body.length
    if body.length < length then none else some ⟨status, ← textOf? (body.take length)⟩

end HttpResponse

end LedgerRehearsal

import LedgerRehearsal.Failure
import LedgerRehearsal.Json.Value

/-!
Operations, the entries of a transaction. An operation is a JSON object with at most one key that
brings code: `code` holds the code itself, `code_expand` names a template file, `code_from_query`
holds a query to be compiled. A `COMMENT` is dropped when an operation is read. The parameters of a
template stay among the fields, for the ledger stores them.
-/

namespace LedgerRehearsal

open Json

inductive Code where
  | verbatim (code : String)
  | ofFile (file : String) (params : List Value)
  | ofQuery (query : Value) (params : List Value)
deriving DecidableEq

structure Operation where
  fields : Members
  code : Option Code
deriving DecidableEq

/-- Operations that the ledger executes as one unit. -/
abbrev Transaction := List Operation

def commentKey : String := "COMMENT"
def codeKey : String := "code"
def fileKey : String := "code_expand"
def queryKey : String := "code_from_query"
def paramsKey : String := "params"

/-- What a message calls a value. -/
def kind : Value → String
  | .null => "null"
  | .bool _ => "a boolean"
  | .number _ => "a number"
  | .string _ => "a string"
  | .list _ => "a list"
  | .object _ => "an object"

/-- The parameters of a template form among the fields of its operation. -/
def templateParams (fields : Members) : Except TemplateError (List Value) :=
  match Members.get? paramsKey fields with
  | none => .ok []
  | some (.list params) => .ok params
  | some other => .error (.invalidOperation s!"'{paramsKey}' must be a list, got {kind other}")

/-- The fields of an operation: neither the comment nor a key that brings code. -/
def plainFields (members : Members) : Members :=
  (((members.erase commentKey).erase codeKey).erase fileKey).erase queryKey

/-- The code that an object brings. Two keys at once are refused whatever they hold. -/
def Code.ofMembers? (members : Members) : Except TemplateError (Option Code) :=
  match Members.get? codeKey members, Members.get? fileKey members, Members.get? queryKey members with
  | none, none, none => .ok none
  | some (.string code), none, none => .ok (some (.verbatim code))
  | some other, none, none =>
    .error (.invalidOperation s!"'{codeKey}' must be a string, got {kind other}")
  | none, some (.string file), none =>
    (templateParams members).map fun params => some (.ofFile file params)
  | none, some other, none =>
    .error (.invalidOperation s!"'{fileKey}' must be a file name, got {kind other}")
  | none, none, some query => (templateParams members).map fun params => some (.ofQuery query params)
  | _, _, _ =>
    .error (.invalidOperation
      s!"only one of '{codeKey}', '{fileKey}' and '{queryKey}' may be present")

namespace Operation

def ofValue : Value → Except TemplateError Operation
  | .object members => (Code.ofMembers? members).map fun code => ⟨plainFields members, code⟩
  | other => .error (.invalidOperation s!"expected a JSON object, got {kind other}")

/-- An operation as a part of other data, where a failure is reported in words. -/
def decode (value : Value) : Except String Operation :=
  (ofValue value).mapError TemplateError.message

/-- The object that stands for an operation, in a file as on the ledger. -/
def toValue (operation : Operation) : Value :=
  .object <| match operation.code with
    | none => operation.fields
    | some (.verbatim code) => operation.fields.insert codeKey (.string code)
    | some (.ofFile file _) => operation.fields.insert fileKey (.string file)
    | some (.ofQuery query _) => operation.fields.insert queryKey query

/-- No template is left. -/
def isExpanded (operation : Operation) : Bool :=
  match operation.code with
  | none | some (.verbatim _) => true
  | some (.ofFile ..) | some (.ofQuery ..) => false

end Operation

namespace Transaction

/-- Reads a list of operations; the first entry that is none decides the error. -/
def ofValue : Value → Except TemplateError Transaction
  | .list entries => entries.mapM Operation.ofValue
  | other => .error (.invalidOperation s!"expected a list of operations, got {kind other}")

def toValue (transaction : Transaction) : Value := .list (transaction.map Operation.toValue)

end Transaction

/-- Drops the comment of an object and leaves any other value as it is. -/
def stripEntry : Value → Value
  | .object members => .object (Members.erase commentKey members)
  | other => other

/-- Drops the comment of an entry, or of each entry of a list. A comment further inside is content. -/
def stripComments : Value → Value
  | .list entries => .list (entries.map stripEntry)
  | other => stripEntry other

end LedgerRehearsal

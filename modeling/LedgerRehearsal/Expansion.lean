import LedgerRehearsal.Diagnostics
import LedgerRehearsal.Files.Tree
import LedgerRehearsal.Json.Reader
import LedgerRehearsal.Notice
import LedgerRehearsal.Operation
import LedgerRehearsal.Template
import LedgerRehearsal.Text.Blank

/-!
Expansion turns the template forms of an operation into code. File names are resolved against the
directory of the component. A file with the extension `clj` holds code and is taken without the
blanks around it; any other file holds a query, compiled with the parameters of the operation.
-/

namespace LedgerRehearsal

open Json

variable [Diagnostics]

/-- The extension of files that hold code. -/
def codeExtension : String := "clj"

/-- The code of a template file. -/
def resolveFile (files : Files) (dir : Path) (file : String) (params : List Value) :
    Except TemplateError String :=
  let path := dir.join file
  match files.read path with
  | .error error => .error (.resolution path error.reason)
  | .ok contents =>
    if path.extension? = some codeExtension then .ok (Text.trimmed contents)
    else
      match parse contents with
      | none => .error (.resolution path s!"malformed query document: {Diagnostics.json contents}")
      | some query =>
        match Template.compile query params with
        | .ok template => .ok template.toCode
        | .error error => .error (.inFile path error)

namespace Code

/-- The code that a source stands for, as verbatim code. -/
def expand (files : Files) (dir : Path) : Code → Except TemplateError Code
  | .verbatim code => .ok (.verbatim code)
  | .ofFile file params => (resolveFile files dir file params).map .verbatim
  | .ofQuery query params => (Template.compile query params).map fun template => .verbatim template.toCode

end Code

/-- Replaces the template form of an operation, if it has one, and keeps its fields. -/
def Operation.expand (files : Files) (dir : Path) (operation : Operation) :
    Except TemplateError Operation :=
  match operation.code with
  | none => .ok operation
  | some code => (code.expand files dir).map fun code => { operation with code := some code }

/-- Expands the operations in order; the first that fails decides the error. -/
def Transaction.expand (files : Files) (dir : Path) (transaction : Transaction) :
    Except TemplateError Transaction :=
  transaction.mapM (Operation.expand files dir)

mutual

/-- The template files that a document names in any of its operations. -/
def namedFiles : Value → List String
  | .list items => filesOfItems items
  | .object members => filesOfMembers members
  | .null | .bool _ | .number _ | .string _ => []

def filesOfItems : List Value → List String
  | [] => []
  | item :: rest => namedFiles item ++ filesOfItems rest

def filesOfMembers : Members → List String
  | [] => []
  | (key, value) :: rest =>
    (match value with
      | .string file => if key = fileKey then [file] else []
      | _ => []) ++ filesOfMembers rest

end

/-- What is reported when an expansion fails: a template file that does not compile is. -/
def TemplateError.notices : TemplateError → List Notice
  | inFile path cause =>
    [⟨.error, "Query template failed to compile", [("path", path.text), ("error", cause.message)]⟩]
  | _ => []

/-- What is reported of a template file that can be used. -/
def fileNotices (files : Files) (dir : Path) (file : String) (params : List Value) : List Notice :=
  let path := dir.join file
  match files.read path with
  | .error _ => []
  | .ok contents =>
    if path.extension? = some codeExtension then
      [⟨.debug, "Using code file verbatim", [("path", path.text)]⟩]
    else if (parse contents).isSome then
      [⟨.debug, "Compiling query template",
        [("path", path.text), ("params", toString params.length)]⟩]
    else []

def Operation.notices (files : Files) (dir : Path) (operation : Operation) : List Notice :=
  match operation.code with
  | some (.ofFile file params) => fileNotices files dir file params
  | _ => []

/-- What is reported of the files of a transaction, as far as it is expanded. -/
def Transaction.notices (files : Files) (dir : Path) (transaction : Transaction) : List Notice :=
  Notice.untilFailure (transaction.map fun operation =>
    (operation.notices files dir, (operation.expand files dir).toBool))

end LedgerRehearsal

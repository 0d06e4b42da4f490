import LedgerRehearsal.Expansion
import LedgerRehearsal.Manifest

/-!
The expander: a program that shows a file of template operations as it reads after expansion, with
the directory of the file as component directory.
-/

namespace LedgerRehearsal

open Json

variable [Diagnostics]

/-- What a program printed when it ended, on either stream. -/
structure Printout where
  code : Nat
  output : String
  errors : String
deriving DecidableEq, Repr

namespace Expander

def programName : String := "tessera-expand"

def usage : String :=
  s!"Usage: cargo run --bin {programName} <template-file>\n\nExample:\n" ++
  s!"  cargo run --bin {programName} schema/roles/main.json\n"

def errorLine (message : String) : String := s!"❌ {message}\n"

/-- The directory of a file; a path without one stands for the working directory. -/
def directoryOf (path : Path) : Path := path.parent?.getD ⟨"."⟩

def summary (templates : Transaction) (dir : Path) : String :=
  let pending := (templates.filter fun operation => !operation.isExpanded).length
  s!"📝 {templates.length} operations, {pending} to expand (component dir: {dir.text})\n"

/-- Reads the operations of a file, or says why it cannot. -/
def readTemplates (files : Files) (path : Path) : Except String Transaction := do
  let document ← (readJson files path).mapError SettingsError.message
  (Transaction.ofValue document).mapError TemplateError.message

/-- Only the first argument counts. -/
def run (files : Files) (arguments : List String) : Printout :=
  match arguments with
  | [] => ⟨1, "", usage⟩
  | file :: _ =>
    let path : Path := ⟨file⟩
    let dir := directoryOf path
    match readTemplates files path with
    | .error message => ⟨1, "", errorLine message⟩
    | .ok templates =>
      match templates.expand files dir with
      | .error error => ⟨1, "", summary templates dir ++ errorLine error.message⟩
      | .ok expanded => ⟨0, expanded.toValue.canonicalPretty ++ "\n", summary templates dir⟩

end Expander

end LedgerRehearsal

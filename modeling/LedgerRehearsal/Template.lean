import LedgerRehearsal.Failure
import LedgerRehearsal.Json.Canonical
import LedgerRehearsal.Text.Occurrence

/-!
Query templates. A query is written canonically and cut at the marker; what stands between the
slots is kept as string literals, and the parameters are put between them as expressions. The code
concatenates them when the ledger evaluates it, so no parameter ever passes through the text of the
query.
-/

namespace LedgerRehearsal

open Json

/-- The text that marks a slot. -/
def marker : String := "PARAM"

/-- A query cut at its slots. -/
structure Template where
  fragments : List String
  params : List String
deriving DecidableEq, Repr

namespace Template

/-- Puts texts between the fragments, one for each slot. -/
def weave : List String → List String → List String
  | fragment :: fragments, value :: values => fragment :: value :: weave fragments values
  | fragments, _ => fragments

/-- The expression of a parameter: a string is one already, any other value is its own text. -/
def expression : Value → String
  | .string expr => expr
  | other => other.canonicalText

def cut (text : String) : List String := (Text.pieces marker.toList text.toList).map String.ofList

def compile (query : Value) (params : List Value) : Except TemplateError Template :=
  let text := query.canonicalText
  let fragments := cut text
  let slots := fragments.length - 1
  if slots = params.length then .ok ⟨fragments, params.map expression⟩
  else .error (.countMismatch slots params.length text)

/-- The expression that concatenates the fragments and the parameters. -/
def toCode (template : Template) : String :=
  "(str " ++ " ".intercalate (weave (template.fragments.map literal) template.params) ++ ")"

/-- What the ledger computes from the code when the parameters have the given texts; nothing when
the texts do not fill the slots. -/
def interpolate (template : Template) (values : List String) : Option String :=
  if values.length = template.params.length then
    some (String.join (weave template.fragments values))
  else none

end Template

/-- How often the marker occurs in the text of a query. -/
def markerCount (query : Value) : Nat := Text.occurrences marker.toList query.compact.toList

end LedgerRehearsal

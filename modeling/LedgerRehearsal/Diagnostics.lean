/-!
What others say of a text that is refused. The readers of JSON, of TOML and of addresses have words
of their own for what is wrong with a text, and messages pass them on as they are.
-/

namespace LedgerRehearsal

class Diagnostics where
  /-- Of a text that is not JSON. -/
  json : String → String
  /-- Of a text that holds no settings. -/
  toml : String → String
  /-- Of an address that is none. -/
  address : String → String
  /-- What is said of JSON is said on one line. -/
  json_oneLine : ∀ text, '\n' ∉ (json text).toList

/-- What stands for the words of the reader of TOML, which are many. -/
def Settings.tomlReport : String := "<toml>"

/-- Of every text the same is said. -/
instance : Diagnostics where
  json _ := "<json>"
  toml _ := Settings.tomlReport
  address _ := "<transport>"
  json_oneLine _ := by decide

end LedgerRehearsal

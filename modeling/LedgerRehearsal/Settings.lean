import LedgerRehearsal.Diagnostics
import LedgerRehearsal.Failure
import LedgerRehearsal.Files.Tree
import LedgerRehearsal.Polling
import LedgerRehearsal.Text.Blank
import LedgerRehearsal.Toml.Reader

/-!
The settings of a run, read from a TOML file: the ledger, the root key, how to wait, and which
members of a record mark an error. Each part is a table of exactly its fields, or an array of them
in order, of which items behind the last field are passed over. Only the deadline may be left out.
-/

namespace LedgerRehearsal

structure LedgerSettings where
  endpoint : String
  network : String
  requestTimeoutMs : Nat
deriving DecidableEq, Repr

structure PollSettings where
  intervalMs : Nat
  noticeEvery : Nat
  deadlineMs : Option Nat
deriving DecidableEq, Repr

structure Settings where
  ledger : LedgerSettings
  rootKey : Key
  polling : PollSettings
  markers : List String
deriving DecidableEq, Repr

/-- The variable of the environment that names the settings file. -/
def settingsVariable : String := "TESSERA_CONFIG"

def defaultMarkers : List String := ["_tx/error", "error"]

namespace Settings

variable [Diagnostics]

/-- The fields of a part in the order of their names, if the part has no others. -/
private def fields (names : List String) : Toml.Value → Option (List (Option Toml.Value))
  | .table members =>
    if members.all fun member => names.contains member.1 then
      some (names.map fun name => members.lookup name)
    else none
  | .array items => some ((List.range names.length).map fun position => items[position]?)
  | _ => none

private def asText : Option Toml.Value → Option String
  | some (.string text) => some text
  | _ => none

private def asNat : Option Toml.Value → Option Nat
  | some (.integer (.ofNat n)) => some n
  | _ => none

/-- A number of 32 bits. -/
private def asSmallNat (value : Option Toml.Value) : Option Nat :=
  (asNat value).filter (· < Nat.pow 2 32)

private def asTexts : Option Toml.Value → Option (List String)
  | some (.array items) => items.mapM fun item => asText (some item)
  | _ => none

private def ledgerOf (value : Toml.Value) : Option LedgerSettings := do
  match ← fields ["endpoint", "network", "request_timeout_ms"] value with
  | [endpoint, network, timeout] => some ⟨← asText endpoint, ← asText network, ← asNat timeout⟩
  | _ => none

private def keyOf (value : Toml.Value) : Option Key := do
  match ← fields ["private", "account-id"] value with
  | [secret, account] => some ⟨← asText secret, ← asText account⟩
  | _ => none

private def pollingOf (value : Toml.Value) : Option PollSettings := do
  match ← fields ["interval_ms", "notice_every", "deadline_ms"] value with
  | [interval, notice, deadline] =>
    let deadline ← match deadline with
      | none => some none
      | deadline => (asNat deadline).map some
    some ⟨← asNat interval, ← asSmallNat notice, deadline⟩
  | _ => none

private def markersOf (value : Toml.Value) : Option (List String) := do
  match ← fields ["transaction_error"] value with
  | [markers] => asTexts markers
  | _ => none

/-- The settings that a table stands for. -/
def ofTable (table : List (String × Toml.Value)) : Option Settings := do
  match ← fields ["ledger", "root_key", "polling", "markers"] (.table table) with
  | [ledger, rootKey, polling, markers] =>
    some ⟨← ledgerOf (← ledger), ← keyOf (← rootKey), ← pollingOf (← polling), ← markersOf (← markers)⟩
  | _ => none

def refuse (condition : Prop) [Decidable condition] (field reason : String) :
    Except SettingsError Unit :=
  if condition then .error (.invalidValue field reason) else .ok ()

/-- Values that no run can work with are refused; the first one counts. -/
def check (settings : Settings) : Except SettingsError Unit := do
  refuse (Text.allBlank settings.ledger.endpoint) "ledger.endpoint" "must not be empty"
  refuse (Text.allBlank settings.ledger.network ∨ settings.ledger.network.toList.contains '/')
    "ledger.network" "must be a non-empty name without '/'"
  refuse (settings.ledger.requestTimeoutMs = 0) "ledger.request_timeout_ms" "must be greater than 0"
  refuse (Text.allBlank settings.rootKey.account) "root_key.account-id" "must not be empty"
  refuse (settings.polling.intervalMs = 0) "polling.interval_ms" "must be greater than 0"
  refuse (settings.polling.noticeEvery = 0) "polling.notice_every" "must be greater than 0"
  refuse (settings.polling.deadlineMs = some 0) "polling.deadline_ms" "must be greater than 0 when set"
  refuse (settings.markers = []) "markers.transaction_error" "must name at least one key"

/-- The settings in a file, unchecked. -/
def read (files : Files) (path : Path) : Except SettingsError Settings :=
  match files.read path with
  | .error error => .error (.unreadable path error.reason)
  | .ok text =>
    match Toml.parse text >>= ofTable with
    | some settings => .ok settings
    | none => .error (.malformed path (Diagnostics.toml text))

/-- The settings in the file that is given, or else in the one that the environment names. -/
def load (files : Files) (explicit environment : Option Path) : Except SettingsError Settings :=
  match explicit <|> environment with
  | none => .error .missingPath
  | some path => do
    let settings ← read files path
    settings.check
    .ok settings

def policy (settings : Settings) : PollPolicy :=
  ⟨.ofMillis settings.polling.intervalMs, settings.polling.noticeEvery,
    settings.polling.deadlineMs.map .ofMillis⟩

end Settings

end LedgerRehearsal

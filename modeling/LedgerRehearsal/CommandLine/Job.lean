import LedgerRehearsal.CommandLine.Arguments
import LedgerRehearsal.Ledger.Remote
import LedgerRehearsal.Rehearsal

/-!
What the program does with its arguments. The source tree is resolved and its manifest read for
every command; compiling writes one file, deploying and testing talk to the ledger of the settings,
and listing the targets only prints. What goes wrong is printed on one line.
-/

namespace LedgerRehearsal

/-- How a program ends. -/
structure Ending where
  code : Nat
  output : String
deriving DecidableEq, Repr

namespace Ending

def programName : String := "tessera"

def versionText : String := programName ++ " 0.4.0\n"

def helpText : String :=
  "Compile, deploy and test staged ledger schemas\n\n" ++
  "Usage: tessera [OPTIONS] <COMMAND>\n\n" ++
  "Commands:\n" ++
  "  compile  Assemble a build target into one artifact file\n" ++
  "  deploy   Deploy a build target into a named database\n" ++
  "  test     Run every stage's scenarios against fresh databases\n" ++
  "  targets  List build targets\n" ++
  "  help     Print this message or the help of the given subcommand(s)\n\n" ++
  "Options:\n" ++
  "      --config <CONFIG>  Run configuration (TOML) [env: TESSERA_CONFIG=]\n" ++
  "      --source <SOURCE>  Root of the source tree (where build.json lives) [default: .]\n" ++
  "  -h, --help             Print help\n" ++
  "  -V, --version          Print version\n"

/-- How the program ends when its arguments ask for nothing that it does. -/
def ofUsage : UsageError → Ending
  | .help => ⟨0, helpText⟩
  | .version => ⟨0, versionText⟩
  | _ => ⟨2, ""⟩

def ofFailure (failure : Failure) : Ending := ⟨1, s!"error: {failure.message}\n"⟩

def ofLines (lines : List String) : Ending := ⟨0, String.join (lines.map (· ++ "\n"))⟩

end Ending

/-- What a job leaves behind: the files, and the lines it prints. -/
structure Product where
  files : Files
  lines : List String
deriving DecidableEq, Repr

/-- What a job leaves behind that fails. -/
structure Setback where
  failure : Failure
  files : Files
deriving DecidableEq

def Ending.ofResult : Except Setback Product → Ending
  | .ok product => ofLines product.lines
  | .error setback => ofFailure setback.failure

/-- A command that is ready to run, with the ledger that it needs. -/
structure Job where
  ledger : Option LedgerSettings
  run : Attempt Setback Product

namespace Job

variable [Diagnostics]

/-- The absolute path of the source tree. -/
def resolveSource (files : Files) (source : Path) : Except SettingsError Path :=
  (files.resolve source).mapError fun error => .unreadable source error.reason

def targetLine (target : String × List String) : String :=
  target.1 ++ ": " ++ " -> ".intercalate target.2

def stageLine (report : StageReport) : String :=
  s!"ok  {report.stage}  {report.scenarios.length} scenarios  ({report.database.text})"

def totalLine (reports : List StageReport) : String :=
  s!"{reports.length} stages, {scenarioCount reports} scenarios passed"

/-- Compiles a target into a file. -/
def compile (files : Files) (root : Path) (target : Target) (output : Path) : Job :=
  ⟨none, do
    let artifacts ← (compileTarget files root target).mapError fun failure => ⟨failure, files⟩
    let (files, digest) ← (writeArtifact files output artifacts).mapError fun failure =>
      ⟨failure, (files.write output (Artifact.contents artifacts)).2⟩
    return ⟨files, [digest ++ "  " ++ output.text]⟩⟩

/-- The rehearsal of a target under the settings. -/
def rehearsal (files : Files) (root : Path) (target : Target) (settings : Settings) : Rehearsal :=
  { files, root, target, network := settings.ledger.network, rootKey := settings.rootKey,
    policy := settings.policy, markers := settings.markers }

/-- Says which ledger is used. -/
def announceLedger (settings : LedgerSettings) : Attempt Failure Unit :=
  ExceptT.lift <| Run.note .info "Using ledger"
    [("endpoint", (RemoteLedger.ofEndpoint settings.endpoint RemoteLedger.unsigned).base),
      ("network", settings.network)]

def deploy (files : Files) (root : Path) (target : Target) (settings : Settings) (database : String) : Job :=
  ⟨some settings.ledger, Attempt.mapError (⟨·, files⟩) do
    announceLedger settings.ledger
    let report ← (rehearsal files root target settings).deploy database
    return ⟨files, [s!"deployed '{report.stage}' to {report.database.text}"]⟩⟩

def test (files : Files) (root : Path) (target : Target) (settings : Settings) : Job :=
  ⟨some settings.ledger, Attempt.mapError (⟨·, files⟩) do
    announceLedger settings.ledger
    let reports ← (rehearsal files root target settings).test
    return ⟨files, reports.map stageLine ++ [totalLine reports]⟩⟩

/-- The settings of a command that talks to the ledger, and its target. -/
def connect (files : Files) (manifest : BuildManifest) (config : Option Path) (choice : TargetChoice) :
    Except SettingsError (Settings × Target) := do
  let settings ← Settings.load files config none
  let target ← choice.resolve manifest
  .ok (settings, target)

/-- The job of a line. The arguments have already taken the settings file from the environment. -/
def ofArguments (files : Files) (arguments : Arguments) : Except SettingsError Job := do
  let root ← resolveSource files ⟨arguments.source⟩
  let manifest ← BuildManifest.load files root
  let config := arguments.config.map Path.mk
  match arguments.command with
  | .compile choice output =>
    let target ← choice.resolve manifest
    .ok (compile files root target ⟨output⟩)
  | .deploy choice database =>
    let (settings, target) ← connect files manifest config choice
    .ok (deploy files root target settings database)
  | .test choice =>
    let (settings, target) ← connect files manifest config choice
    .ok (test files root target settings)
  | .targets => .ok ⟨none, return ⟨files, manifest.targets.map targetLine⟩⟩

/-- The job of the words of a line, or how the program ends without one. -/
def ofLine (files : Files) (words : List String) (environment : Option String) : Except Ending Job := do
  let arguments ← (Arguments.parse words environment).mapError Ending.ofUsage
  (ofArguments files arguments).mapError fun error => .ofFailure (.settings error)

/-- The ledger that a job talks to; nobody signs its requests. -/
def remote (job : Job) : RemoteLedger :=
  .ofEndpoint ((job.ledger.map (·.endpoint)).getD "") RemoteLedger.unsigned

end Job

end LedgerRehearsal

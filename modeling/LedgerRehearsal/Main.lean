import LedgerRehearsal.CommandLine.Job
import LedgerRehearsal.Expander
import LedgerRehearsal.Files.Disk
import LedgerRehearsal.Http.Socket

/-!
The program. Under the name of the expander it shows expanded templates, under any other name it
carries out the command in its arguments. Results go to standard output, notices to standard error.
-/

namespace LedgerRehearsal.Program

/-- Answers the effects of a run one after another. -/
def perform {α : Type} (answer : (effect : Effect) → IO effect.Answer) : Run α → IO α
  | .done value => return value
  | .act effect next => do perform answer (next (← answer effect))

def now : IO Duration := return ⟨← IO.monoNanosNow⟩

/-- Rests in whole milliseconds, at least as long as is asked for. -/
def sleep (length : Duration) : IO Unit := IO.sleep (UInt32.ofNat ((length.nanos + 999999) / 1000000))

/-- A random text of 32 hexadecimal digits. -/
def freshSuffix : IO String := do
  let digitsOf (byte : UInt8) : List Char := [byte.toNat / 16, byte.toNat % 16].map Nat.digitChar
  return String.ofList ((← IO.getRandomBytes 16).toList.flatMap digitsOf)

def announce (notice : Notice) : IO Unit := do
  if notice.isShown then IO.eprintln notice.line

/-- The effects of a command, with a ledger that is reached over the network. Nothing sets the stop
signal: whoever wants to stop the program ends it. -/
def answer (ledger : RemoteLedger) (timeoutMs : Nat) : (effect : Effect) → IO effect.Answer
  | .ask request => do
    let reply ← ledger.reply (Socket.exchange timeoutMs) request
    (ledger.remarks request reply).forM announce
    return reply
  | .note notice => announce notice
  | .now => now
  | .sleep length => sleep length
  | .stopRequested => return false
  | .rest length _ => do
    sleep length
    return .timeUp
  | .freshSuffix => freshSuffix

def finish (ending : Ending) : IO UInt32 := do
  IO.print ending.output
  return UInt32.ofNat ending.code

/-- Carries out a job and writes the files that it changes. -/
def carryOut (files : Files) (job : Job) : IO UInt32 := do
  let timeoutMs := (job.ledger.map (·.requestTimeoutMs)).getD 0
  let result ← perform (answer job.remote timeoutMs) (ExceptT.run job.run)
  let after := match result with
    | .ok product => product.files
    | .error setback => setback.files
  try
    Disk.writeChanges files after
    finish (.ofResult result)
  catch error => finish ⟨1, s!"error: {error}\n"⟩

/-- The command in the arguments. -/
def rehearse (words : List String) : IO UInt32 := do
  let environment ← IO.getEnv settingsVariable
  let files ← match Arguments.parse words environment with
    | .ok arguments => Disk.forArguments arguments
    | .error _ => Disk.here
  match Job.ofLine files words environment with
  | .ok job => carryOut files job
  | .error ending => finish ending

def expand (words : List String) : IO UInt32 := do
  let files ← match words with
    | file :: _ => Disk.forTemplates ⟨file⟩
    | [] => Disk.here
  let printout := Expander.run files words
  IO.eprint printout.errors
  IO.print printout.output
  return UInt32.ofNat printout.code

end LedgerRehearsal.Program

open LedgerRehearsal in
def main (words : List String) : IO UInt32 := do
  if (← IO.appPath).fileName = some Expander.programName then Program.expand words
  else Program.rehearse words

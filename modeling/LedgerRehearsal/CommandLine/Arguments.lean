import LedgerRehearsal.Manifest
import LedgerRehearsal.Settings

/-!
The arguments of the program. Options of the program itself may stand before the command or after
it, and those behind it win; options of a command stand behind it. A value follows its option as the
next argument or after an equals sign, of a short option also at once. Everything behind `--` is
positional. The settings file may also be named by the environment.

An option that waits for its value takes it, or is refused, only when the next thing is read, so of
two faults in one line it is that order that decides which one is reported.
-/

namespace LedgerRehearsal

/-- Why arguments are refused; asking for help or for the version ends the program as well. -/
inductive UsageError where
  | unknownArgument
  | missingArgument
  | invalidValue
  | conflict
  | invalidCommand
  | missingCommand
  | tooManyValues
  | help
  | version
  /-- There is nothing to do. -/
  | helpOnMissing
deriving DecidableEq, Repr

inductive Flag where
  | config
  | source
  | through
  | output
  | database
  | help
  | version
deriving DecidableEq, Repr

namespace Flag

def long : Flag → String
  | config => "config"
  | source => "source"
  | through => "through"
  | output => "output"
  | database => "database"
  | help => "help"
  | version => "version"

def short? : Flag → Option Char
  | output => some 'o'
  | database => some 'd'
  | help => some 'h'
  | version => some 'V'
  | config | source | through => none

/-- The flag ends the program instead of taking a value. -/
def ending? : Flag → Option UsageError
  | help => some .help
  | version => some .version
  | config | source | through | output | database => none

/-- A path must not be empty; a name may be. -/
def accepts (flag : Flag) (value : String) : Bool :=
  match flag with
  | config | source | output => value ≠ ""
  | through | database | help | version => true

end Flag

/-- Which stages of which target a command is about. -/
structure TargetChoice where
  target : String
  through : Option String
deriving DecidableEq, Repr

def TargetChoice.resolve (choice : TargetChoice) (manifest : BuildManifest) :
    Except SettingsError Target := do
  let target ← manifest.target choice.target
  match choice.through with
  | some stage => target.through stage
  | none => .ok target

inductive Command where
  | compile (choice : TargetChoice) (output : String)
  | deploy (choice : TargetChoice) (database : String)
  | test (choice : TargetChoice)
  | targets
deriving DecidableEq, Repr

/-- The target of a command that is about one. -/
def Command.choice? : Command → Option TargetChoice
  | compile choice _ | deploy choice _ | test choice => some choice
  | targets => none

structure Arguments where
  config : Option String
  source : String
  command : Command
deriving DecidableEq, Repr

inductive CommandName where
  | compile
  | deploy
  | test
  | targets
deriving DecidableEq, Repr

namespace CommandName

def all : List CommandName := [compile, deploy, test, targets]

def text : CommandName → String
  | compile => "compile"
  | deploy => "deploy"
  | test => "test"
  | targets => "targets"

def ofText? (text : String) : Option CommandName := all.find? fun name => name.text = text

/-- What a command is called. -/
def ofCommand : Command → CommandName
  | .compile .. => compile
  | .deploy .. => deploy
  | .test .. => test
  | .targets => targets

/-- The options that may stand behind a command. -/
def flags : CommandName → List Flag
  | compile => [.through, .output, .config, .source, .help]
  | deploy => [.through, .database, .config, .source, .help]
  | test => [.through, .config, .source, .help]
  | targets => [.config, .source, .help]

/-- How many positional arguments a command takes. -/
def positionals : CommandName → Nat
  | targets => 0
  | compile | deploy | test => 1

end CommandName

/-- What one level of the line, the program or a command, may hold. -/
inductive Level where
  | program
  | command (name : CommandName)
deriving DecidableEq, Repr

namespace Level

def flags : Level → List Flag
  | program => [.config, .source, .help, .version]
  | command name => name.flags

def positionals : Level → Nat
  | program => 0
  | command name => name.positionals

def long? (level : Level) (name : String) : Option Flag := level.flags.find? fun flag => flag.long = name

def short? (level : Level) (c : Char) : Option Flag := level.flags.find? fun flag => flag.short? = some c

/-- A positional argument for which there is no room. -/
def surplus (level : Level) (trailing : Bool) (argument : String) : UsageError :=
  match level with
  | program =>
    if trailing ∧ (argument = "help" ∨ (CommandName.ofText? argument).isSome) then .unknownArgument
    else .invalidCommand
  | command _ => .unknownArgument

end Level

/-- What was read of one level. -/
structure Scan where
  values : List (Flag × String)
  /-- The option read last, with its value once that is read. -/
  pending : Option (Flag × Option String)
  positionals : List String
deriving DecidableEq, Repr

namespace Scan

def empty : Scan := ⟨[], none, []⟩

/-- Gives an option its value. -/
def store (flag : Flag) (value : String) (scan : Scan) : Except UsageError Scan :=
  if (scan.values.lookup flag).isSome then .error .conflict
  else if flag.accepts value then .ok { scan with values := scan.values ++ [(flag, value)] }
  else .error .invalidValue

/-- Settles the option read last. -/
def settle (scan : Scan) : Except UsageError Scan :=
  match scan.pending with
  | none => .ok scan
  | some (_, none) => .error .invalidValue
  | some (flag, some value) => { scan with pending := none }.store flag value

/-- The option read last still waits for its value. -/
def waiting? (scan : Scan) : Option Flag :=
  match scan.pending with
  | some (flag, none) => some flag
  | _ => none

/-- Reads an option with the value that is attached to it. -/
def option (flag : Flag) (attached : Option String) (scan : Scan) : Except UsageError Scan := do
  let scan ← scan.settle
  match flag.ending?, attached with
  | some ending, _ => .error ending
  | none, some value => scan.store flag value
  | none, none => .ok { scan with pending := some (flag, none) }

/-- Reads an argument that starts with two dashes. -/
def long (level : Level) (body : List Char) (scan : Scan) : Except UsageError Scan :=
  let name := String.ofList (body.takeWhile (· ≠ '='))
  let attached := match body.dropWhile (· ≠ '=') with
    | [] => none
    | _ :: value => some (String.ofList value)
  match level.long? name with
  | none => .error .unknownArgument
  | some flag =>
    if flag.ending?.isSome ∧ attached.isSome then .error .tooManyValues
    else scan.option flag attached

/-- Reads an argument that starts with one dash. -/
def short (level : Level) (c : Char) (body : List Char) (scan : Scan) : Except UsageError Scan :=
  match level.short? c with
  | none => .error .unknownArgument
  | some flag =>
    let attached := match body with
      | [] => none
      | '=' :: value => some (String.ofList value)
      | value => some (String.ofList value)
    scan.option flag attached

/-- Reads an argument that belongs to no option. -/
def positional (level : Level) (trailing : Bool) (argument : String) (scan : Scan) :
    Except UsageError Scan :=
  if scan.positionals.length < level.positionals then do
    let scan ← scan.settle
    .ok { scan with positionals := scan.positionals ++ [argument] }
  else .error (level.surplus trailing argument)

/-- Reads an argument that is no command and not the mark of trailing arguments. -/
def argument (level : Level) (text : String) (scan : Scan) : Except UsageError Scan :=
  match text.toList, scan.waiting? with
  | '-' :: '-' :: body, _ => scan.long level body
  | '-' :: c :: body, _ => scan.short level c body
  | _, some flag => .ok { scan with pending := some (flag, some text) }
  | _, none => scan.positional level false text

end Scan

/-- The rest of a line from a command on. -/
structure CommandRest where
  name : CommandName
  arguments : List String
deriving DecidableEq, Repr

/-- The help that is asked for; commands have no commands of their own. -/
def helpAbout : List String → UsageError
  | [] => .help
  | [name] => if name = "help" ∨ (CommandName.ofText? name).isSome then .help else .invalidCommand
  | _ => .invalidCommand

/-- Reads the arguments of a level, up to a command where the level has any. -/
def scanLevel (level : Level) : (trailing : Bool) → List String → Scan →
    Except UsageError (Scan × Option CommandRest)
  | _, [], scan => .ok (scan, none)
  | true, text :: rest, scan => do
    let scan ← scan.positional level true text
    scanLevel level true rest scan
  | false, text :: rest, scan => do
    if level = .program ∧ scan.waiting?.isNone then
      if text = "help" then throw (helpAbout rest)
      if let some name := CommandName.ofText? text then return (scan, some ⟨name, rest⟩)
    if text = "--" then scanLevel level true rest scan
    else
      let scan ← scan.argument level text
      scanLevel level false rest scan

namespace Arguments

/-- The settings file of a level: the one given there, or else the one of the environment. -/
def configOf (scan : Scan) (environment : Option String) : Except UsageError (Option String) :=
  match scan.values.lookup .config, environment with
  | some config, _ => .ok (some config)
  | none, some config => if Flag.config.accepts config then .ok (some config) else .error .invalidValue
  | none, none => .ok none

/-- A value that must be given. -/
private def require {α : Type} (value : Option α) : Except UsageError α :=
  match value with
  | some value => .ok value
  | none => .error .missingArgument

/-- The command that was read. -/
def commandOf (name : CommandName) (scan : Scan) : Except UsageError Command := do
  let choice : Except UsageError TargetChoice := do
    let target ← require scan.positionals.head?
    .ok ⟨target, scan.values.lookup .through⟩
  match name with
  | .compile => .ok (.compile (← choice) (← require (scan.values.lookup .output)))
  | .deploy => .ok (.deploy (← choice) (← require (scan.values.lookup .database)))
  | .test => .ok (.test (← choice))
  | .targets => .ok .targets

/-- Reads a line. The command is read to its end before the options in front of it are settled. -/
def parse (arguments : List String) (environment : Option String) : Except UsageError Arguments := do
  let (outer, command) ← scanLevel .program false arguments .empty
  match command with
  | none =>
    let outer ← outer.settle
    let config ← configOf outer environment
    if outer.values.isEmpty ∧ config.isNone then .error .helpOnMissing else .error .missingCommand
  | some ⟨name, rest⟩ =>
    let (inner, _) ← scanLevel (.command name) false rest .empty
    let inner ← inner.settle
    let innerConfig ← configOf inner environment
    let command ← commandOf name inner
    let outer ← outer.settle
    let outerConfig ← configOf outer environment
    let config := if (inner.values.lookup .config).isSome then innerConfig else outerConfig
    let source := (inner.values.lookup .source <|> outer.values.lookup .source).getD "."
    .ok ⟨config, source, command⟩

end Arguments

end LedgerRehearsal

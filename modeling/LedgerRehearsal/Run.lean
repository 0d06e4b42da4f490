import LedgerRehearsal.Ledger.Request
import LedgerRehearsal.Notice

/-!
Runs. A run is a tree: it ends with a value, or it performs an effect and goes on with the answer.
Nothing in it says how effects are answered, so what holds on every path of a run holds against
every ledger, every clock and every use of the stop signal.
-/

namespace LedgerRehearsal

/-- Why a rest ended. -/
inductive Wake where
  | timeUp
  /-- The stop signal was set, to whatever value; its version is now the given one. -/
  | changed (version : Nat)
  /-- The stop signal can never be set again. -/
  | closed
deriving DecidableEq, Repr

inductive Effect where
  | ask (request : Request)
  | note (notice : Notice)
  /-- The time on the clock. -/
  | now
  | sleep (length : Duration)
  /-- The present value of the stop signal. -/
  | stopRequested
  /-- Sleeps, but wakes up when the version of the stop signal is not the one that was seen. -/
  | rest (length : Duration) (seen : Nat)
  /-- A text that no other database of a test is named by. -/
  | freshSuffix
deriving DecidableEq

abbrev Effect.Answer : Effect → Type
  | ask request => request.Reply
  | note _ | sleep _ => Unit
  | now => Duration
  | stopRequested => Bool
  | rest .. => Wake
  | freshSuffix => String

inductive Run (α : Type) where
  | done (value : α)
  | act (effect : Effect) (next : effect.Answer → Run α)

namespace Run

variable {α β : Type}

def bind : Run α → (α → Run β) → Run β
  | done value, next => next value
  | act effect rest, next => act effect fun answer => bind (rest answer) next

instance : Monad Run where
  pure := done
  bind := bind

/-- One effect, with its answer as the value. -/
def perform (effect : Effect) : Run effect.Answer := act effect done

def note (severity : Severity) (message : String) (fields : List (String × String)) : Run Unit :=
  perform (.note ⟨severity, message, fields⟩)

def notes (notices : List Notice) : Run Unit := notices.forM fun notice => perform (.note notice)

def now : Run Duration := perform .now

def sleep (length : Duration) : Run Unit := perform (.sleep length)

def ask (request : Request) : Run request.Reply := perform (.ask request)

/-- Answers every effect of a run, one after another. -/
def play {σ : Type} (answer : (effect : Effect) → σ → effect.Answer × σ) : Run α → σ → α × σ
  | done value, state => (value, state)
  | act effect next, state =>
    let (given, state) := answer effect state
    play answer (next given) state

theorem bind_done (value : α) (next : α → Run β) : (done value).bind next = next value := rfl

theorem bind_act (effect : Effect) (rest : effect.Answer → Run α) (next : α → Run β) :
    (act effect rest).bind next = act effect fun answer => (rest answer).bind next := rfl

theorem play_bind {σ : Type} (answer : (effect : Effect) → σ → effect.Answer × σ) (run : Run α)
    (next : α → Run β) (state : σ) :
    play answer (run.bind next) state =
      play answer (next (play answer run state).1) (play answer run state).2 := by
  induction run generalizing state with
  | done value => rfl
  | act effect rest ih => exact ih _ _

end Run

/-- A run that may fail. -/
abbrev Attempt (ε α : Type) := ExceptT ε Run α

namespace Attempt

variable {ε α : Type}

/-- A request whose failure is the failure of the run. -/
def ask (request : Request) : Attempt LedgerError request.Answer := ExceptT.mk (Run.ask request)

def ofExcept (result : Except ε α) : Attempt ε α := ExceptT.mk (.done result)

def mapError {δ : Type} (f : ε → δ) (run : Attempt ε α) : Attempt δ α :=
  ExceptT.mk (ExceptT.run run >>= fun result => .done (result.mapError f))

end Attempt

end LedgerRehearsal

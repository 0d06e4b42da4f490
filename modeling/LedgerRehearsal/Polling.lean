import LedgerRehearsal.Run

/-!
Waiting by asking again and again: how long to rest between two attempts, after how many attempts
to say that the wait goes on, and when to give up.
-/

namespace LedgerRehearsal

structure PollPolicy where
  interval : Duration
  /-- A notice is due after so many attempts; zero counts as one. -/
  noticeEvery : Nat
  deadline : Option Duration
deriving DecidableEq, Repr

namespace PollPolicy

def noticeDue (policy : PollPolicy) (attempts : Nat) : Bool := attempts % max policy.noticeEvery 1 = 0

def isOver (policy : PollPolicy) (waited : Duration) : Bool :=
  match policy.deadline with
  | some deadline => deadline.nanos ≤ waited.nanos
  | none => false

end PollPolicy

/-- Attempts are counted in 32 bits; no wait makes more. -/
def maxAttempts : Nat := Nat.pow 2 32 - 1

/-- Asks for the health of the ledger until it is well. -/
def awaitHealth (policy : PollPolicy) (started : Duration) (attempts : Nat) :
    (fuel : Nat) → Run (Except LedgerError Unit)
  | 0 => .done (.error (.transport s!"ledger not ready after {attempts} attempts"))
  | fuel + 1 => do
    match ← Run.ask .health with
    | .ok _ =>
      Run.note .info "Ledger is ready" [("attempts", toString attempts)]
      return .ok ()
    | .error error =>
      let attempts := attempts + 1
      if policy.noticeDue attempts then
        Run.note .info "Still waiting for the ledger"
          [("attempts", toString attempts), ("error", error.message)]
      let time ← Run.now
      if policy.isOver (time.since started) then
        return .error (.transport s!"ledger not ready after {attempts} attempts: {error.message}")
      Run.sleep policy.interval
      awaitHealth policy started attempts fuel

/-- Waits until the ledger is well, at most as long as the policy allows. -/
def waitUntilReady (policy : PollPolicy) : Attempt LedgerError Unit := ExceptT.mk do
  let started ← Run.now
  awaitHealth policy started 0 maxAttempts

end LedgerRehearsal

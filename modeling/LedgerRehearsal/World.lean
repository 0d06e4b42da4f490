import LedgerRehearsal.Timeline

/-!
Playing a run against a ledger that is a value. The world holds the state of the ledger, the clock
with the stop signal, and the notices given so far, the first one first.
-/

namespace LedgerRehearsal

structure World (σ : Type) where
  ledger : σ
  timeline : Timeline
  notices : List Notice
  /-- How many suffixes were given out. -/
  suffixes : Nat

/-- How the requests of a run are answered. -/
structure Surroundings (σ : Type) where
  reply : (request : Request) → σ → request.Reply × σ
  /-- What is noted about a request that got a reply. -/
  remarks : (request : Request) → request.Reply → List Notice
  suffix : Nat → String

namespace World

variable {σ : Type}

def start (ledger : σ) (signals : List (Option Duration × Signal)) : World σ :=
  ⟨ledger, .start signals, [], 0⟩

/-- What was shown, line by line. -/
def lines (world : World σ) : List String := (world.notices.filter Notice.isShown).map Notice.line

end World

namespace Surroundings

variable {σ : Type}

def answer (surroundings : Surroundings σ) : (effect : Effect) → World σ → effect.Answer × World σ
  | .ask request, world =>
    let (reply, ledger) := surroundings.reply request world.ledger
    (reply, { world with ledger, notices := world.notices ++ surroundings.remarks request reply })
  | .note notice, world => ((), { world with notices := world.notices ++ [notice] })
  | .now, world => (world.timeline.now, world)
  | .sleep length, world => ((), { world with timeline := world.timeline.sleep length })
  | .stopRequested, world => (world.timeline.channel.value, world)
  | .rest length seen, world =>
    let (wake, timeline) := world.timeline.rest length seen
    (wake, { world with timeline })
  | .freshSuffix, world =>
    (surroundings.suffix (world.suffixes + 1), { world with suffixes := world.suffixes + 1 })

/-- The value of a run and the world after it. -/
def play {α : Type} (surroundings : Surroundings σ) (run : Run α) (world : World σ) : α × World σ :=
  Run.play surroundings.answer run world

end Surroundings

end LedgerRehearsal

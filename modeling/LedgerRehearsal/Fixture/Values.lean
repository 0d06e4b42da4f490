import LedgerRehearsal.Settings

/-!
Ready values for tests: keys, a quick way to wait, and settings that pass their check.
-/

namespace LedgerRehearsal.Fixture

def network : String := "test"

/-- One of any number of different keys. -/
def key (n : Nat) : Key := ⟨s!"private-{n}", s!"user{n}"⟩

def rootKey : Key := ⟨"private-root", "root"⟩

/-- Ten milliseconds between attempts, at most five seconds. -/
def quickPolicy : PollPolicy := ⟨.ofMillis 10, 10, some (.ofMillis 5000)⟩

def settings : Settings :=
  { ledger := ⟨"http://localhost:8090", network, 5000⟩
    rootKey
    polling := ⟨10, 10, some 5000⟩
    markers := defaultMarkers }

end LedgerRehearsal.Fixture

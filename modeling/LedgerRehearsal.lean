import LedgerRehearsal.Expectation
import LedgerRehearsal.Fixture.ProjectTree
import LedgerRehearsal.Http.Script
import LedgerRehearsal.Ledger.Script
import LedgerRehearsal.Main
import LedgerRehearsal.Proofs.Json.Reading
import LedgerRehearsal.Proofs.Monitor.Refusal
import LedgerRehearsal.Proofs.Monitor.Verdict
import LedgerRehearsal.Proofs.Rehearsal.Cumulative
import LedgerRehearsal.Proofs.Rehearsal.Deploy
import LedgerRehearsal.Proofs.Rehearsal.Fault
import LedgerRehearsal.Proofs.Rehearsal.Agreement
import LedgerRehearsal.Proofs.Json.Literal
import LedgerRehearsal.Proofs.Template.Interpolation
import LedgerRehearsal.Proofs.Template.Code
import LedgerRehearsal.Proofs.Json.Filling
import LedgerRehearsal.Proofs.Json.Ordered
import LedgerRehearsal.Proofs.Template.Structure
import LedgerRehearsal.Proofs.Json.Spelling
import LedgerRehearsal.Proofs.Json.Members
import LedgerRehearsal.Proofs.Files
import LedgerRehearsal.Proofs.Operation
import LedgerRehearsal.Proofs.Artifact
import LedgerRehearsal.Proofs.Sending
import LedgerRehearsal.Proofs.Scenario.Sending
import LedgerRehearsal.Proofs.Rehearsal.Recorded
import LedgerRehearsal.Proofs.Monitor.Spacing
import LedgerRehearsal.Proofs.Readiness
import LedgerRehearsal.Proofs.Monitor.Racing
import LedgerRehearsal.Proofs.Ledger.Visibility
import LedgerRehearsal.Proofs.Monitor.Expectation
import LedgerRehearsal.Proofs.Rehearsal.Stopping
import LedgerRehearsal.Proofs.Secret.Rehearsal
import LedgerRehearsal.Proofs.CommandLine.Compiling
import LedgerRehearsal.Proofs.Template.Slots
import LedgerRehearsal.Proofs.Template.KeyOrder
import LedgerRehearsal.Proofs.Operation.Comments
import LedgerRehearsal.Proofs.Operation.Acceptance
import LedgerRehearsal.Proofs.Expansion
import LedgerRehearsal.Proofs.Truncation
import LedgerRehearsal.Proofs.Expander
import LedgerRehearsal.Proofs.Scenario.Guarantees
import LedgerRehearsal.Proofs.Roles.Resolution
import LedgerRehearsal.Proofs.Manifest
import LedgerRehearsal.Proofs.Ledger.Remote

import LedgerRehearsal.Proofs.Rehearsal.Cumulative

/-! Deploying a target. Nothing is asked of the ledger before the whole target is compiled; then
one database is created, and what is submitted to it is the compiled document, cut at the stages. -/
namespace LedgerRehearsal

open Json

namespace Rehearsal

variable {rehearsal : Rehearsal} {rules : LedgerRules} {suffix : Nat → String}

def compile [Diagnostics] (rehearsal : Rehearsal) : Attempt Failure (List Artifact) :=
  compileTarget rehearsal.files rehearsal.root rehearsal.target

/-- The stage that a deployed database is reported under. -/
def lastStage (artifacts : List Artifact) : String := (artifacts.getLast?.map (·.stage)).getD ""

/-- What deploying does once the target is compiled and the ledger is well. -/
def deployWork (rehearsal : Rehearsal) (name : String) (artifacts : List Artifact) :
    Attempt Failure StageReport := do
  let database := DatabaseId.make rehearsal.network name
  Attempt.mapError .ledger (Attempt.ask (.createDatabase database))
  rehearsal.setUpSchema database (lastStage artifacts) artifacts
  ExceptT.lift <| Run.note .info "Deployed build target"
    [("database",database.text),("stages",toString artifacts.length)]
  return ⟨lastStage artifacts,database,[]⟩

theorem deploy_eq_afterReading [Diagnostics] (name : String) :
    rehearsal.deploy name =
      afterReading rehearsal.policy rehearsal.compile (rehearsal.deployWork name) := rfl

/-- What setting up a schema submits: lists of operations, one after another, each as the root
account, and waited for. -/
def schemaSubmissions (rehearsal : Rehearsal) (lists : List (List Value)) :
    List (String × Value × Bool) :=
  lists.map fun operations => (rehearsal.rootKey.account,.list operations,true)

/-- The operations of the artifacts that contribute any, still cut at the stages. -/
def schemaLists (artifacts : List Artifact) : List (List Value) :=
  (artifacts.filter Artifact.contributes).map fun artifact =>
    artifact.operations.map Operation.toValue

/-- Leaving out what contributes nothing loses no operation. -/
theorem document_eq_schemaLists (artifacts : List Artifact) :
    Artifact.document artifacts = .list (schemaLists artifacts).flatten := by
  have same : (Artifact.flatten artifacts).map Operation.toValue =
      (schemaLists artifacts).flatten := by
    induction artifacts with
    | nil => rfl
    | cons artifact artifacts ih =>
      rw [Artifact.flatten,List.flatMap_cons,List.map_append,← Artifact.flatten,ih]
      by_cases needed : artifact.contributes
      · simp [schemaLists,needed]
      · have empty : artifact.operations = [] := by simpa [Artifact.contributes] using needed
        simp [schemaLists,needed,empty]
  rw [Artifact.document,Transaction.toValue,same]

/-- A schema that was set up was submitted as a whole. -/
theorem applied_submissions {database : DatabaseId} {stage : String} {artifacts : List Artifact}
    {parts : List (List Exchange)} {applied : List Unit}
    (turns : InTurn (Applied rehearsal database stage) (artifacts.filter Artifact.contributes)
      parts (.ok applied)) :
    parts.flatten.filterMap Exchange.submission? =
      (rehearsal.schemaSubmissions (schemaLists artifacts)).map (Prod.mk database) := by
  rw [schemaSubmissions,schemaLists,List.map_map,List.map_map]
  generalize artifacts.filter Artifact.contributes = needed at turns
  induction needed generalizing parts applied with
  | nil =>
    cases turns
    rfl
  | cons artifact needed ih =>
    rcases turns with _ | _ | ⟨head,tail⟩ | _
    generalize same : (Except.ok _ : Except Failure Unit) = outcome at head
    cases head
    rw [List.flatten_cons,List.filterMap_append,ih tail]
    rfl

theorem applied_queries {database : DatabaseId} {stage : String} {artifacts : List Artifact}
    {parts : List (List Exchange)} {result : Except Failure (List Unit)}
    (turns : InTurn (Applied rehearsal database stage) artifacts parts result) :
    parts.flatten.filterMap Exchange.query? = [] := by
  refine List.filterMap_eq_nil_iff.mpr fun exchange member => ?_
  obtain ⟨part,among,inside⟩ := List.mem_flatten.mp member
  obtain ⟨artifact,outcome,spec⟩ := turns.of_mem_logs among
  cases spec
  obtain rfl := List.mem_singleton.mp inside
  rfl

/-- A schema that could not be set up is reported as such. -/
theorem applied_failure {database : DatabaseId} {stage : String} {artifacts : List Artifact}
    {parts : List (List Exchange)} {failure : Failure}
    (turns : InTurn (Applied rehearsal database stage) artifacts parts (.error failure)) :
    ∃ source reason transaction, failure = .schemaSetup stage source reason transaction := by
  induction artifacts generalizing parts with
  | nil => contradiction
  | cons artifact artifacts ih =>
    rcases turns with _ | head | _ | ⟨head,tail⟩
    · generalize same : (Except.error failure : Except Failure Unit) = outcome at head
      cases head with
      | submitted reply =>
        unfold schemaResult at same
        split at same
        · exact ⟨_,_,_,Except.error.inj same⟩
        · contradiction
    · exact ih tail

/-- How the work in a new database begins. -/
def opening (rehearsal : Rehearsal) (database : DatabaseId) : List Exchange :=
  [⟨.createDatabase database,.ok ()⟩,⟨.connect (rehearsal.rootConnection database),.ok ()⟩]

/-- A deployment that succeeds creates its database and sets up the whole schema there. -/
theorem trace_deployWork {name : String} {artifacts : List Artifact} {events : List Event}
    {report : StageReport}
    (trace : Run.Trace (rehearsal.deployWork name artifacts).run events (.ok report)) :
    let database := DatabaseId.make rehearsal.network name
    ∃ parts applied,
      exchanges events = rehearsal.opening database ++ parts.flatten ∧
      InTurn (Applied rehearsal database (lastStage artifacts))
        (artifacts.filter Artifact.contributes) parts (.ok applied) := by
  intro database
  rcases (Attempt.trace_mapError_bind _ _ _ _ _).mp trace with
    ⟨_,-,impossible⟩ | ⟨_,_,_,asked,working,rfl⟩
  · cases impossible
  obtain rfl := (Attempt.trace_ask _ _ _).mp asked
  rcases (Attempt.trace_bind _ _ _ _).mp working with
    ⟨_,-,impossible⟩ | ⟨_,_,_,setUp,ending,rfl⟩
  · cases impossible
  obtain ⟨opened,rest,rfl,spec⟩ := trace_setUpSchema setUp
  obtain ⟨_,_,_,noted,last,rfl⟩ := (Attempt.trace_lift_bind _ _ _ _).mp ending
  obtain ⟨rfl,-⟩ := (Attempt.trace_pure _ _ _).mp last
  cases opened with
  | error error => cases spec.2
  | ok =>
    obtain ⟨parts,outcome,turns,flat,same⟩ := spec
    cases outcome with
    | error error => cases same
    | ok applied =>
      refine ⟨parts,applied,?_,turns⟩
      simp [database,opening,flat,(Run.trace_note noted).exchanges_eq]

theorem confined_setUp {database : DatabaseId} {stage : String} {artifacts : List Artifact}
    {parts : List (List Exchange)} {result : Except Failure (List Unit)}
    (turns : InTurn (Applied rehearsal database stage) artifacts parts result) :
    Confined database (rehearsal.opening database ++ parts.flatten) := by
  refine ⟨_,rfl,fun exchange member => ⟨rehearsal.rootConnection database,?_,rfl⟩⟩
  rcases List.mem_cons.mp member with rfl | later
  · rfl
  obtain ⟨part,among,inside⟩ := List.mem_flatten.mp later
  obtain ⟨artifact,outcome,spec⟩ := turns.of_mem_logs among
  cases spec
  obtain rfl := List.mem_singleton.mp inside
  rfl

theorem deploy_kept [Diagnostics] {name : String} {world final : World InMemoryLedger} {events : List Event}
    {report : StageReport}
    (trace : Run.Trace (rehearsal.deploy name).run events (.ok report))
    (follows : Follows (rules.inMemory suffix).answer events world final) :
    let database := DatabaseId.make rehearsal.network name
    ∃ artifacts,
      Artifact.assemble rehearsal.files rehearsal.root rehearsal.target.stages = .ok artifacts ∧
      final.ledger.databases = world.ledger.databases ++ [database] ∧
      final.ledger.queries = world.ledger.queries ∧
      final.ledger.submissions.map Submission.sent =
        world.ledger.submissions.map Submission.sent ++
          (rehearsal.schemaSubmissions (schemaLists artifacts)).map (Prod.mk database) := by
  intro database
  rw [deploy_eq_afterReading] at trace
  rcases trace_afterReading trace with
    ⟨_,-,impossible⟩ | ⟨compiling,artifacts,waiting,ready,rest,compiled,waited,rfl,working⟩
  · cases impossible
  cases ready with
  | error error => cases working.2
  | ok =>
    obtain ⟨parts,applied,created,turns⟩ := trace_deployWork working
    have notes : OnlyNotes compiling := onlyNotes_of_only only_compileTarget compiled
    have health := exchanges_checks only_waitUntilReady waited
    have confined := confined_setUp turns
    have kept := follows_exchanges follows
    rw [exchanges_append,exchanges_append,notes.exchanges_eq,List.nil_append,created] at kept
    have existing : InMemoryLedger.UsesExisting world.ledger.databases (exchanges waiting) :=
      InMemoryLedger.usesExisting_of_checks health
    refine ⟨artifacts,trace_compileTarget compiled,?_,?_,?_⟩
    · rw [(InMemoryLedger.kept_of_last kept existing confined).1,
        filterMap_checks health fun _ => rfl,List.append_nil]
    · have silent : (rehearsal.opening database ++ parts.flatten).filterMap Exchange.query? = [] :=
        applied_queries turns
      rw [InMemoryLedger.follows_queries kept,List.filterMap_append,
        filterMap_checks health fun _ => rfl,silent,List.append_nil,List.append_nil]
    · have all := InMemoryLedger.usesExisting_append.mpr ⟨existing,confined.usesExisting _⟩
      have sent : (rehearsal.opening database ++ parts.flatten).filterMap Exchange.submission? =
          (rehearsal.schemaSubmissions (schemaLists artifacts)).map (Prod.mk database) :=
        applied_submissions turns
      rw [InMemoryLedger.follows_submissions kept all,List.filterMap_append,
        filterMap_checks health fun _ => rfl,List.nil_append,sent]

end Rehearsal

end LedgerRehearsal

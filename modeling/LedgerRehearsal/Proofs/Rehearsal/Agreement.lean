import LedgerRehearsal.Proofs.Rehearsal.Deploy

/-! What a deployment and a test of one target have in common. The last stage of a test is set up
with the artifacts of the whole target, so its database gets the transactions that a deployment
submits, whatever the ledgers are that the two are run against. -/
namespace LedgerRehearsal

open Json

namespace Rehearsal

variable {rehearsal : Rehearsal} {rules : LedgerRules} {suffix : Nat → String}

/-- The exchanges of a stage, against any ledger. -/
inductive Attempted (rehearsal : Rehearsal) (accumulated : List Artifact) (plan : StagePlan)
    (database : DatabaseId) : List Exchange → Except Failure StageReport → Prop where
  | refused (error : LedgerError) {result : Except Failure StageReport} :
      Attempted rehearsal accumulated plan database [⟨.createDatabase database,.error error⟩] result
  | created {opened : Except LedgerError Unit} {exchanged rest : List Exchange}
      {result : Except Failure StageReport} :
      exchanged = ⟨.createDatabase database,.ok ()⟩ ::
        ⟨.connect (rehearsal.rootConnection database),opened⟩ :: rest →
      Confined database exchanged →
      (opened = .ok () → Staged rehearsal accumulated plan database exchanged result) →
      Attempted rehearsal accumulated plan database exchanged result

theorem attempted_testStage {accumulated : List Artifact} {plan : StagePlan} {events : List Event}
    {result : Except Failure StageReport}
    (trace : Run.Trace (rehearsal.testStage accumulated plan).run events result) :
    ∃ given, Attempted rehearsal accumulated plan (rehearsal.databaseOf plan.stage given)
      (exchanges events) result := by
  obtain ⟨given,notes,created,rest,reported,rfl,working⟩ := trace_testStage trace
  refine ⟨given,?_⟩
  rw [exchanges_opening reported]
  cases created with
  | error error =>
    obtain ⟨rfl,-⟩ := working
    exact .refused error
  | ok =>
    have within := exchanges_within within_stageWork working
    obtain ⟨opened,later,rfl,staged⟩ := trace_stageWork working
    exact .created rfl ⟨_,rfl,within⟩ staged

namespace Attempted

variable {accumulated : List Artifact} {plan : StagePlan} {database : DatabaseId}
  {exchanged : List Exchange} {result : Except Failure StageReport}

theorem created_length
    (attempted : Attempted rehearsal accumulated plan database exchanged result) :
    (exchanged.filterMap Exchange.created?).length ≤ 1 := by
  cases attempted with
  | refused error => exact Nat.zero_le 1
  | created _ confined =>
    obtain ⟨rest,same,within⟩ := confined
    rw [same,List.filterMap_cons,created_within within]
    exact Nat.le_refl 1

theorem usesExisting (attempted : Attempted rehearsal accumulated plan database exchanged result)
    (databases : List DatabaseId) : InMemoryLedger.UsesExisting databases exchanged := by
  cases attempted with
  | refused error => exact ⟨nofun,trivial⟩
  | created _ confined => exact confined.usesExisting databases

/-- A database that was created can be opened, so the stage gets as far as its schema. -/
theorem staged (attempted : Attempted rehearsal accumulated plan database exchanged result)
    (created : exchanged.filterMap Exchange.created? ≠ []) {ledger final : InMemoryLedger}
    (follows : Follows (InMemoryLedger.reply rules) exchanged ledger final) :
    Confined database exchanged ∧ Staged rehearsal accumulated plan database exchanged result := by
  cases attempted with
  | refused error => exact absurd rfl created
  | created same confined staged =>
    subst same
    exact ⟨confined,staged (InMemoryLedger.follows_connect follows rfl)⟩

end Attempted

/-- The exchanges of a step of a test, in a database with some suffix. -/
def StepAttempted (rehearsal : Rehearsal) (step : List Artifact × StagePlan)
    (exchanged : List Exchange) (result : Except Failure StageReport) : Prop :=
  ∃ given, Attempted rehearsal step.1 step.2 (rehearsal.databaseOf step.2.stage given) exchanged
    result

/-- A test asks for the health of the ledger, and then attempts its stages in turn, if there are
any left to attempt. -/
theorem test_attempted [Diagnostics] {events : List Event} {result : Except Failure (List StageReport)}
    (trace : Run.Trace rehearsal.test.run events result) :
    ∃ checks parts, exchanges events = checks ++ parts.flatten ∧
      (∀ exchange ∈ checks, exchange.1 = .health) ∧
      (parts ≠ [] → ∃ artifacts plans, Loaded rehearsal artifacts plans ∧
        InTurn rehearsal.StepAttempted (steps artifacts plans) parts result) := by
  rcases trace_test trace with
    ⟨failure,failed,-⟩ | ⟨loading,artifacts,plans,waiting,ready,logs,loads,waited,rfl,testing⟩
  · exact ⟨[],[],(only_load_notes failed).exchanges_eq,nofun,fun reached => absurd rfl reached⟩
  refine ⟨exchanges waiting,logs.map exchanges,?_,exchanges_checks only_waitUntilReady waited,?_⟩
  · simp [(only_load_notes loads).exchanges_eq]
  intro reached
  cases ready with
  | error error =>
    obtain ⟨rfl,-⟩ := testing
    contradiction
  | ok =>
    refine ⟨artifacts,plans,trace_load loads,(testing.mapLog exchanges).imp ?_⟩
    rintro step _ _ _ result ⟨log,traced,rfl⟩
    exact attempted_testStage traced

/-- The database of every stage was created, and no stage failed to set up its schema. -/
structure SetUpCompleted (rehearsal : Rehearsal) (world : World InMemoryLedger)
    (tested : Except Failure (List StageReport) × World InMemoryLedger) : Prop where
  reached :
    world.ledger.databases.length + rehearsal.target.stages.length ≤
      tested.2.ledger.databases.length
  passed : ∀ stage source reason transaction,
    tested.1 ≠ .error (.schemaSetup stage source reason transaction)

theorem Loaded.steps_length [Diagnostics] {artifacts : List Artifact} {plans : List StagePlan}
    (loaded : Loaded rehearsal artifacts plans) :
    (steps artifacts plans).length = rehearsal.target.stages.length := by
  rw [← loaded.plans_stages]
  simp [steps]

/-- The last step has the artifacts of the whole target. -/
theorem Loaded.last_step [Diagnostics] {artifacts : List Artifact} {plans : List StagePlan}
    (loaded : Loaded rehearsal artifacts plans) {accumulated : List Artifact} {plan : StagePlan}
    (last : (steps artifacts plans).getLast? = some (accumulated,plan)) :
    accumulated = artifacts ∧ rehearsal.target.stages.getLast? = some plan.stage ∧
      rehearsal.FollowsManifest plan := by
  rw [List.getLast?_eq_getElem?] at last
  obtain ⟨place,taken⟩ := steps_at last
  have artifactsCount : artifacts.length = rehearsal.target.stages.length := by
    rw [← loaded.artifacts_stages,List.length_map]
  have plansCount : plans.length = rehearsal.target.stages.length := by
    rw [← loaded.plans_stages,List.length_map]
  rw [loaded.steps_length] at place taken
  refine ⟨taken.trans (List.take_of_length_le (by omega)),?_,?_⟩
  · rw [← plansCount,← List.getLast?_eq_getElem?] at place
    simp [← loaded.plans_stages,place]
  · exact loaded.manifests plan (List.mem_of_getElem? place)

def creates (exchanged : List Exchange) : Bool := !(exchanged.filterMap Exchange.created?).isEmpty

/-- Of stages that create a database at most, as many create one as databases are created. -/
theorem created_le_countP {parts : List (List Exchange)}
    (each : ∀ part ∈ parts, (part.filterMap Exchange.created?).length ≤ 1) :
    (parts.flatten.filterMap Exchange.created?).length ≤ parts.countP creates := by
  induction parts with
  | nil => exact Nat.le_refl 0
  | cons part parts ih =>
    have first := each part List.mem_cons_self
    have later := ih fun other member => each other (List.mem_cons_of_mem _ member)
    rw [List.flatten_cons,List.filterMap_append,List.length_append,List.countP_cons]
    cases created : part.filterMap Exchange.created? with
    | nil => simpa [creates,created] using later
    | cons database others =>
      rw [created] at first
      simp only [creates,created,List.isEmpty_cons,Bool.not_false,if_true]
      omega

/-- When a database was created for every step, the last part is that of the last step. -/
theorem last_attempted {items : List (List Artifact × StagePlan)} {parts : List (List Exchange)}
    {result : Except Failure (List StageReport)}
    (turns : InTurn rehearsal.StepAttempted items parts result) (nonempty : items ≠ [])
    (reached : items.length ≤ (parts.flatten.filterMap Exchange.created?).length) :
    ∃ front last step outcome, parts = front ++ [last] ∧ items.getLast? = some step ∧
      rehearsal.StepAttempted step last outcome ∧ last.filterMap Exchange.created? ≠ [] ∧
      ∀ error, outcome = .error error → errorOf? result = some error := by
  have all := created_le_countP fun part member => by
    obtain ⟨step,outcome,given,attempted⟩ := turns.of_mem_logs member
    exact attempted.created_length
  have most : parts.countP creates ≤ parts.length := List.countP_le_length
  have bound := turns.length_le
  -- no part creates two databases, so with as many databases as steps each part creates one
  have each := List.countP_eq_length.mp (show parts.countP creates = parts.length by omega)
  have some : 0 < parts.length := by
    have := List.length_pos_iff.mpr nonempty
    omega
  obtain ⟨front,last,rfl⟩ : ∃ front last, parts = front ++ [last] :=
    ⟨_,_,(List.dropLast_concat_getLast (List.length_pos_iff.mp some)).symm⟩
  obtain ⟨step,outcome,atLast,attempted,failing⟩ := turns.last_of_length (by omega)
  have one := each last (List.mem_append_right _ List.mem_cons_self)
  exact ⟨front,last,step,outcome,rfl,atLast,attempted,by simpa [creates] using one,failing⟩

/-- What the ledger keeps of a test that completed the schema of its last stage. -/
theorem test_kept [Diagnostics] (nonempty : rehearsal.target.stages ≠ []) {world final : World InMemoryLedger}
    {events : List Event} {result : Except Failure (List StageReport)}
    (trace : Run.Trace rehearsal.test.run events result)
    (follows : Follows (rules.inMemory suffix).answer events world final)
    (completed : rehearsal.SetUpCompleted world (result,final)) :
    ∃ artifacts plan given scenarios outcome,
      let database := rehearsal.databaseOf plan.stage given
      Artifact.assemble rehearsal.files rehearsal.root rehearsal.target.stages = .ok artifacts ∧
      rehearsal.target.stages.getLast? = some plan.stage ∧ rehearsal.FollowsManifest plan ∧
      final.ledger.databases.getLast? = some database ∧
      InTurn (Played rehearsal database) plan.scenarios scenarios outcome ∧
      (final.ledger.submissionsTo database).map Submission.sent =
        (world.ledger.submissionsTo database).map Submission.sent ++
          ((rehearsal.schemaSubmissions (schemaLists artifacts)).map (Prod.mk database) ++
            scenarios.flatten.filterMap Exchange.submission?) := by
  obtain ⟨checks,parts,whole,health,attempting⟩ := test_attempted trace
  have kept := follows_exchanges follows
  rw [whole] at kept
  have quiet : checks.filterMap Exchange.created? = [] := filterMap_checks health fun _ => rfl
  have grown := completed.reached
  rw [InMemoryLedger.follows_databases kept,List.filterMap_append,quiet,List.nil_append,
    List.length_append] at grown
  have created := Nat.le_of_add_le_add_left grown
  have attempted : parts ≠ [] := by
    rintro rfl
    exact nonempty (List.length_eq_zero_iff.mp (Nat.le_zero.mp created))
  obtain ⟨artifacts,plans,loaded,turns⟩ := attempting attempted
  obtain ⟨front,last,⟨accumulated,plan⟩,outcome,rfl,atLast,⟨given,attempted⟩,one,failing⟩ :=
    last_attempted turns (fun none => nonempty (by simpa [none] using loaded.steps_length.symm))
      (loaded.steps_length ▸ created)
  obtain ⟨rfl,lastStage,manifest⟩ := loaded.last_step atLast
  -- what is kept of the last stage is told from all that came before it by its database
  rw [List.flatten_append,List.flatten_singleton,← List.append_assoc] at kept
  have existing : InMemoryLedger.UsesExisting world.ledger.databases (checks ++ front.flatten) := by
    refine InMemoryLedger.usesExisting_append.mpr ⟨InMemoryLedger.usesExisting_of_checks health,
      usesExisting_flatten fun part member => ?_⟩
    obtain ⟨step,outcome,given,attempted⟩ := turns.of_mem_logs (List.mem_append_left [last] member)
    exact attempted.usesExisting
  obtain ⟨middle,-,following⟩ := (follows_append _ _ _ _ _).mp kept
  obtain ⟨confined,staged⟩ := attempted.staged one following
  obtain ⟨databases,submissions⟩ := InMemoryLedger.kept_of_last kept existing confined
  cases staged with
  | unprepared setUp =>
    obtain ⟨source,reason,transaction,rfl⟩ := applied_failure setUp
    exact absurd (errorOf?_eq_some.mp (failing _ rfl)) (completed.passed _ _ _ _)
  | @prepared parts scenarios applied played setUp tested =>
    have sent : (parts.flatten ++ scenarios.flatten).filterMap Exchange.submission? =
        (rehearsal.schemaSubmissions (schemaLists accumulated)).map
            (Prod.mk (rehearsal.databaseOf plan.stage given)) ++
          scenarios.flatten.filterMap Exchange.submission? := by
      rw [List.filterMap_append,applied_submissions setUp]
    exact ⟨accumulated,plan,given,scenarios,played,loaded.assembled,lastStage,manifest,
      by simp [databases],tested,submissions.trans (congrArg _ sent)⟩

/-- A deployment that succeeds against a ledger in memory creates one database, asks no query, and
submits lists of operations that are together the compiled document. A test submits the same to the
database of its last stage, and after that only what the scenarios of the stage do, whenever it
completes the schema of that stage, against any ledger in memory. -/
theorem deploy_agrees [Diagnostics] {name : String} {world : World InMemoryLedger} {report : StageReport}
    (deployed :
      ((rules.inMemory suffix).play (rehearsal.deploy name).run world).1 = .ok report) :
    let database := DatabaseId.make rehearsal.network name
    let final := ((rules.inMemory suffix).play (rehearsal.deploy name).run world).2.ledger
    ∃ artifacts lists,
      ((rules.inMemory suffix).play rehearsal.compile.run world).1 = .ok artifacts ∧
      Artifact.document artifacts = .list lists.flatten ∧
      final.databases = world.ledger.databases ++ [database] ∧
      final.queries = world.ledger.queries ∧
      final.submissions.map Submission.sent = world.ledger.submissions.map Submission.sent ++
        (rehearsal.schemaSubmissions lists).map (Prod.mk database) ∧
      ∀ (rules : LedgerRules) (suffix : Nat → String) (world : World InMemoryLedger),
        let tested := (rules.inMemory suffix).play rehearsal.test.run world
        rehearsal.target.stages ≠ [] → rehearsal.SetUpCompleted world tested →
        ∃ plan given scenarios outcome,
          let last := rehearsal.databaseOf plan.stage given
          rehearsal.target.stages.getLast? = some plan.stage ∧ rehearsal.FollowsManifest plan ∧
          tested.2.ledger.databases.getLast? = some last ∧
          InTurn (Played rehearsal last) plan.scenarios scenarios outcome ∧
          (tested.2.ledger.submissionsTo last).map Submission.sent =
            (world.ledger.submissionsTo last).map Submission.sent ++
              ((rehearsal.schemaSubmissions lists).map (Prod.mk last) ++
                scenarios.flatten.filterMap Exchange.submission?) := by
  intro database final
  obtain ⟨trace,follows⟩ :=
    Run.trace_history (rules.inMemory suffix).answer (rehearsal.deploy name).run world
  obtain ⟨artifacts,assembled,databases,queries,submissions⟩ :=
    deploy_kept (deployed ▸ trace) follows
  have compiled : ((rules.inMemory suffix).play rehearsal.compile.run world).1 = .ok artifacts := by
    rw [compile,play_compileTarget,assembled]
    rfl
  refine ⟨artifacts,schemaLists artifacts,compiled,document_eq_schemaLists artifacts,databases,
    queries,submissions,?_⟩
  intro rules suffix world tested nonempty completed
  obtain ⟨trace,follows⟩ :=
    Run.trace_history (rules.inMemory suffix).answer rehearsal.test.run world
  obtain ⟨others,plan,given,scenarios,outcome,same,last⟩ :=
    test_kept nonempty trace follows completed
  obtain rfl : artifacts = others := Except.ok.inj (assembled.symm.trans same)
  exact ⟨plan,given,scenarios,outcome,last⟩

/-- A target with a stage that comes twice, and one between that contributes nothing. -/
def repeatedStage : Rehearsal := { twoStages with target := ⟨"app",["base","more","base"]⟩ }

/-- The ledger in memory against which it is deployed and tested, before anything is asked of it. -/
def plainSurroundings : Surroundings InMemoryLedger := LedgerRules.plain.inMemory toString

theorem repeatedStage_agrees :
    (plainSurroundings.play (repeatedStage.deploy "app").run (.start .empty [])).1 =
        .ok ⟨"base",⟨"net/app"⟩,[]⟩ ∧
      repeatedStage.SetUpCompleted (.start .empty [])
        (plainSurroundings.play repeatedStage.test.run (.start .empty [])) ∧
      ∃ lists last,
        (plainSurroundings.play (repeatedStage.deploy "app").run
            (.start .empty [])).2.ledger.submissions.map Submission.sent =
          (repeatedStage.schemaSubmissions lists).map (Prod.mk ⟨"net/app"⟩) ∧
        (repeatedStage.schemaSubmissions lists).map (Prod.mk last) <+:
          ((plainSurroundings.play repeatedStage.test.run
            (.start .empty [])).2.ledger.submissionsTo last).map Submission.sent := by
  have deployed : (plainSurroundings.play (repeatedStage.deploy "app").run (.start .empty [])).1 =
      .ok ⟨"base",⟨"net/app"⟩,[]⟩ := rfl
  have tested : (plainSurroundings.play repeatedStage.test.run (.start .empty [])).1 =
      .ok [⟨"base",⟨"net/base-1"⟩,[]⟩,⟨"more",⟨"net/more-2"⟩,[]⟩,⟨"base",⟨"net/base-3"⟩,[]⟩] := rfl
  have completed : repeatedStage.SetUpCompleted (.start .empty [])
      (plainSurroundings.play repeatedStage.test.run (.start .empty [])) :=
    ⟨Nat.le_refl 3,by simp [tested]⟩
  obtain ⟨artifacts,lists,-,-,-,-,submissions,testing⟩ := deploy_agrees deployed
  obtain ⟨plan,given,scenarios,outcome,-,-,-,-,kept⟩ :=
    testing LedgerRules.plain toString (.start .empty []) nofun completed
  exact ⟨deployed,completed,lists,repeatedStage.databaseOf plan.stage given,submissions,_,kept.symm⟩

example :
    let base := fun (database : DatabaseId) => (database,"root",Value.list [.ofMembers []],true)
    (plainSurroundings.play (repeatedStage.deploy "app").run
        (.start .empty [])).2.ledger.submissions.map Submission.sent =
        [base ⟨"net/app"⟩,base ⟨"net/app"⟩] ∧
      ((plainSurroundings.play repeatedStage.test.run (.start .empty [])).2.ledger.submissionsTo
        ⟨"net/base-3"⟩).map Submission.sent = [base ⟨"net/base-3"⟩,base ⟨"net/base-3"⟩] :=
  ⟨rfl,rfl⟩

end Rehearsal

end LedgerRehearsal

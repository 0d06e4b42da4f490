import LedgerRehearsal.Proofs.Artifact
import LedgerRehearsal.Proofs.Rehearsal.Sending
import LedgerRehearsal.Proofs.Scenario.Loading

/-! What a ledger in memory records of a rehearsal, traced back to the source tree. Every
transaction comes from the file of a stage or from a phase of a scenario, and every query is an
entry of a query file without its comment. -/
namespace LedgerRehearsal

open Json

/-- No comment in a value, nor in an item of a list. -/
def Uncommented : Value → Prop
  | .list items => ∀ item ∈ items, item.member? commentKey = none
  | value => value.member? commentKey = none

theorem member?_stripEntry (key : String) (value : Value) :
    (stripEntry value).member? key = if key = commentKey then none else value.member? key := by
  cases value with
  | object members => exact Members.get?_erase
  | null | bool | number | string | list => simp [stripEntry,Value.member?]

theorem uncommented_stripComments (value : Value) : Uncommented (stripComments value) := by
  have entry (value : Value) : (stripEntry value).member? commentKey = none := by
    rw [member?_stripEntry,if_pos rfl]
  cases value with
  | list items =>
    intro item member
    obtain ⟨given,-,rfl⟩ := List.mem_map.mp member
    exact entry given
  | object members => exact entry (.object members)
  | null | bool | number | string => rfl

namespace Rehearsal

variable {rehearsal : Rehearsal} {rules : LedgerRules} {suffix : Nat → String}
  {planned : List Sent}

theorem queries_schemaSends (artifacts : List Artifact) :
    (rehearsal.schemaSends artifacts).filterMap Sent.query? = [] := by
  simp [schemaSends,Function.comp_def,Sent.query?]

section

variable [Diagnostics]

/-- Where a transaction can come from: from an artifact, sent with the root key, or from a phase of
a scenario. -/
inductive Origin (rehearsal : Rehearsal) : Sent → Prop where
  | artifact {stage : String} {artifact : Artifact} :
      stage ∈ rehearsal.target.stages →
      Artifact.assembleStage rehearsal.files rehearsal.root stage = .ok artifact →
      Origin rehearsal (.transaction rehearsal.rootKey.account artifact.toValue true)
  | scenario {identity : String} {transaction : Transaction} {waited : Bool} :
      Scenario.Normal transaction →
      Origin rehearsal (.transaction identity transaction.toValue waited)
  | query {identity : String} {value : Value} : Origin rehearsal (.query identity value)

/-- A transaction that is sent with the root key and is the document of a stage whose file is taken
as it is, without the comments. -/
def TakenAsItIs (rehearsal : Rehearsal) (identity : String) (value : Value) : Prop :=
  identity = rehearsal.rootKey.account ∧ ∃ stage ∈ rehearsal.target.stages, ∃ document,
    rehearsal.files.isFile (Artifact.verbatimFile rehearsal.root stage) = true ∧
    Artifact.readDocument rehearsal.files (Artifact.verbatimFile rehearsal.root stage) =
      .ok document ∧
    value = stripComments document

theorem origin_schemaSends {artifacts : List Artifact}
    (each : ∀ artifact ∈ artifacts, ∃ stage ∈ rehearsal.target.stages,
      Artifact.assembleStage rehearsal.files rehearsal.root stage = .ok artifact) :
    ∀ message ∈ rehearsal.schemaSends artifacts, rehearsal.Origin message := by
  intro message member
  obtain ⟨artifact,among,rfl⟩ := List.mem_map.mp member
  obtain ⟨stage,listed,assembled⟩ := each artifact among
  exact .artifact listed assembled

theorem origin_sends {dir : Path} {plan : ScenarioPlan}
    (loaded : Scenario.Loaded rehearsal.files dir plan) :
    ∀ message ∈ plan.sends rehearsal.rootKey, rehearsal.Origin message := by
  intro message member
  obtain ⟨phase,-,member⟩ := List.mem_flatMap.mp member
  cases phase with
  | prepare =>
    obtain ⟨transaction,given,rfl⟩ := List.mem_map.mp member
    have found := Option.mem_toList.mp given
    exact .scenario (Scenario.normal_loadPrivileged (found ▸ loaded.prepare))
  | cleanup =>
    obtain ⟨transaction,given,rfl⟩ := List.mem_map.mp member
    have found := Option.mem_toList.mp given
    exact .scenario (Scenario.normal_loadPrivileged (found ▸ loaded.clean))
  | yesQuery | noQuery =>
    obtain ⟨pair,-,rfl⟩ := List.mem_map.mp member
    exact .query
  | yesTransaction =>
    obtain ⟨⟨key,transaction⟩,paired,rfl⟩ := List.mem_map.mp member
    exact .scenario (Scenario.normal_loadTransactions loaded.tyes _ (List.of_mem_zip paired).2)
  | noTransaction =>
    obtain ⟨⟨key,transaction⟩,paired,rfl⟩ := List.mem_map.mp member
    exact .scenario (Scenario.normal_loadTransactions loaded.tno _ (List.of_mem_zip paired).2)

theorem loaded_of_followsManifest {plan : StagePlan} (manifest : rehearsal.FollowsManifest plan)
    {scenario : ScenarioPlan} (member : scenario ∈ plan.scenarios) :
    ∃ name, Scenario.Loaded rehearsal.files ((stageDir rehearsal.root plan.stage).join name)
      scenario := by
  obtain ⟨names,-,loads⟩ := manifest
  obtain ⟨name,-,loaded⟩ := Except.exists_of_mem_mapM loads member
  exact ⟨name,Scenario.loaded_of_load loaded⟩

theorem origin_planned (plan : rehearsal.Planned planned) :
    ∀ message ∈ planned, rehearsal.Origin message := by
  cases plan with
  | nothing => nofun
  | deployed assembled =>
    exact origin_schemaSends fun artifact among => Except.exists_of_mem_mapM assembled among
  | @tested artifacts plans loaded =>
    intro message member
    obtain ⟨⟨accumulated,plan⟩,step,member⟩ := List.mem_flatMap.mp member
    obtain ⟨i,place⟩ := List.mem_iff_getElem?.mp step
    obtain ⟨found,taken⟩ := steps_at place
    obtain rfl : accumulated = artifacts.take (i + 1) := taken
    rcases List.mem_append.mp member with schema | inside
    · refine origin_schemaSends (fun artifact among => ?_) message schema
      exact Except.exists_of_mem_mapM loaded.assembled (List.mem_of_mem_take among)
    · obtain ⟨scenario,among,inside⟩ := List.mem_flatMap.mp inside
      obtain ⟨name,read⟩ :=
        loaded_of_followsManifest (loaded.manifests plan (List.mem_of_getElem? found)) among
      exact origin_sends read message inside

/-- The entries of the query files of a stage, each with the account of the key at its place, the
scenarios in order. -/
def stageEntries (rehearsal : Rehearsal) (stage : String) : List (String × Value) :=
  let dir := stageDir rehearsal.root stage
  match loadScenarioNames rehearsal.files dir with
  | .ok names => names.flatMap fun name => Scenario.queryEntries rehearsal.files (dir.join name)
  | .error _ => []

def queryEntries (rehearsal : Rehearsal) : List (String × Value) :=
  rehearsal.target.stages.flatMap rehearsal.stageEntries

theorem queries_scenarios {plan : StagePlan} (manifest : rehearsal.FollowsManifest plan) :
    (plan.scenarios.flatMap fun scenario =>
        scenario.sends rehearsal.rootKey).filterMap Sent.query? =
      (rehearsal.stageEntries plan.stage).map Scenario.uncommented := by
  obtain ⟨names,listed,loads⟩ := manifest
  let dir := stageDir rehearsal.root plan.stage
  let queries (scenario : ScenarioPlan) := (scenario.sends rehearsal.rootKey).filterMap Sent.query?
  let entries (name : String) :=
    (Scenario.queryEntries rehearsal.files (dir.join name)).map Scenario.uncommented
  have same : plan.scenarios.map queries = names.map entries :=
    Except.map_eq_of_mapM loads fun name _ scenario loaded =>
      (Scenario.loaded_of_load loaded).queries rehearsal.rootKey
  have listing : rehearsal.stageEntries plan.stage =
      names.flatMap fun name => Scenario.queryEntries rehearsal.files (dir.join name) := by
    unfold stageEntries
    dsimp only
    rw [listed]
  calc (plan.scenarios.flatMap fun scenario =>
        scenario.sends rehearsal.rootKey).filterMap Sent.query?
    _ = plan.scenarios.flatMap queries := List.filterMap_flatMap
    _ = (plan.scenarios.map queries).flatten := List.flatMap_def
    _ = names.flatMap entries := by rw [same,List.flatMap_def]
    _ = (rehearsal.stageEntries plan.stage).map Scenario.uncommented := by
      rw [listing,List.map_flatMap]

/-- The queries of a plan are the entries of the query files without their comments. -/
theorem queries_planned (plan : rehearsal.Planned planned) :
    (planned.filterMap Sent.query?).Sublist
      (rehearsal.queryEntries.map Scenario.uncommented) := by
  cases plan with
  | nothing => exact List.nil_sublist _
  | deployed _ =>
    rw [queries_schemaSends]
    exact List.nil_sublist _
  | @tested artifacts plans loaded =>
    have each : ∀ step ∈ steps artifacts plans,
        (rehearsal.stageSends step.1 step.2).filterMap Sent.query? =
          (rehearsal.stageEntries step.2.stage).map Scenario.uncommented := by
      intro step member
      obtain ⟨i,place⟩ := List.mem_iff_getElem?.mp member
      have manifest := loaded.manifests step.2 (List.mem_of_getElem? (steps_at place).1)
      rw [stageSends,List.filterMap_append,queries_schemaSends,queries_scenarios manifest,
        List.nil_append]
    -- a step pairs a plan with the artifacts up to its stage; the plans are those of the target
    have stages : (steps artifacts plans).map (fun step => step.2.stage) =
        rehearsal.target.stages := by
      rw [← loaded.plans_stages,steps,List.map_map]
      conv_rhs => rw [← List.zipIdx_map_fst 0 plans,List.map_map]
      rfl
    have whole : (rehearsal.testSends artifacts plans).filterMap Sent.query? =
        rehearsal.queryEntries.map Scenario.uncommented := by
      rw [testSends,List.filterMap_flatMap,queryEntries,List.map_flatMap,← stages,List.flatMap_map]
      exact List.flatMap_congr each
    rw [whole]

theorem origin_submitted {before after : InMemoryLedger} {submitted : List Submission}
    {asked : List LedgerQuery} (plan : rehearsal.Planned planned)
    (records : InMemoryLedger.Records before after planned submitted asked) :
    ∀ submission ∈ submitted, rehearsal.Origin
      (.transaction submission.identity submission.transaction submission.waited) := by
  intro submission member
  exact origin_planned plan _ (records.submitted_planned.subset (List.mem_map_of_mem member))

namespace Origin

variable {identity : String} {value : Value} {waited : Bool}

theorem operations (origin : rehearsal.Origin (.transaction identity value waited)) :
    ∃ operations, value = .list operations ∧ ∀ operation ∈ operations, IsOperation operation := by
  cases origin with
  | artifact _ assembled =>
    have formed := Artifact.wellFormed_assembleStage assembled
    exact Transaction.toValue_each fun operation member =>
      Operation.isOperation_toValue (formed operation member)
  | scenario normal =>
    exact Transaction.toValue_each fun operation member =>
      Operation.isOperation_toValue (normal operation member).1

/-- A transaction has no templates left, unless it is what the file of a stage holds that is taken
as it is. -/
theorem expanded (origin : rehearsal.Origin (.transaction identity value waited)) :
    (∃ operations, value = .list operations ∧ ∀ operation ∈ operations, IsExpanded operation) ∨
      rehearsal.TakenAsItIs identity value := by
  cases origin with
  | artifact listed assembled =>
    have formed := Artifact.wellFormed_assembleStage assembled
    rcases Artifact.expanded_or_verbatim assembled with done | ⟨document,verbatim,read,same⟩
    · exact .inl (Transaction.toValue_each fun operation member =>
        Operation.isExpanded_toValue (formed operation member) (done operation member))
    · exact .inr ⟨rfl,_,listed,document,verbatim,read,same⟩
  | scenario normal =>
    refine .inl (Transaction.toValue_each fun operation member => ?_)
    obtain ⟨formed,done⟩ := normal operation member
    exact Operation.isExpanded_toValue formed done

end Origin

/-- Every transaction that is recorded in a run stands for operations without a comment and with one
way to bring code at most, and the queries that are recorded are, in order, entries of the query
files without the comments at their top. -/
theorem recorded_uncommented {world final : World InMemoryLedger}
    (left : rehearsal.Leaves rules suffix world final) :
    ∃ submitted asked,
      final.ledger.submissions = world.ledger.submissions ++ submitted ∧
      final.ledger.queries = world.ledger.queries ++ asked ∧
      (∀ submission ∈ submitted, ∃ operations, submission.transaction = .list operations ∧
        ∀ operation ∈ operations, IsOperation operation) ∧
      (asked.map fun query => (query.identity,query.query)).Sublist
        (rehearsal.queryEntries.map fun (identity,entry) => (identity,stripComments entry)) ∧
      (∀ query ∈ asked, Uncommented query.query) ∧
      ∀ entry key, key ≠ commentKey → (stripEntry entry).member? key = entry.member? key := by
  obtain ⟨planned,submitted,asked,plan,records⟩ := records_planned left
  have queries : (asked.map fun query => (query.identity,query.query)).Sublist
      (rehearsal.queryEntries.map Scenario.uncommented) := by
    have part := (records.asked_planned.filterMap Sent.query?).trans (queries_planned plan)
    have same : (asked.map fun query => Sent.query query.identity query.query).filterMap
        Sent.query? = asked.map fun query => (query.identity,query.query) := by
      rw [List.filterMap_map]
      exact congrFun List.filterMap_eq_map asked
    rwa [same] at part
  refine ⟨submitted,asked,records.submissions,records.queries,fun submission member => ?_,queries,
    fun query member => ?_,fun entry key different => ?_⟩
  · exact (origin_submitted plan records submission member).operations
  · obtain ⟨entry,-,same⟩ := List.mem_map.mp (queries.subset (List.mem_map_of_mem member))
    rw [← (Prod.mk.inj same).2]
    exact uncommented_stripComments _
  · rw [member?_stripEntry,if_neg different]

end

/-- Comments and templates in every kind of file. -/
def annotated : Rehearsal where
  files := ⟨[
    (["base.json"],.text "[\x7b\"COMMENT\":1,\"code_from_query\":\x7b\x7d\x7d]"),
    (["more"],.directory),
    (["more","main.json"],.text "[\x7b\"COMMENT\":1,\"code_expand\":\"f.clj\"\x7d]"),
    (["more","f.clj"],.text "(f)"),
    (["more","test.json"],.text "[\"t\"]"),
    (["more","t"],.directory),
    (["more","t","user.json"],
      .text "\x7b\"keys\":[\x7b\"private\":\"p\",\"account-id\":\"ann\"\x7d],\"no\":0\x7d"),
    (["more","t","prepare.json"],.text "[\x7b\"COMMENT\":1,\"code_from_query\":\x7b\x7d\x7d]"),
    (["more","t","no.json"],.text "[\x7b\"COMMENT\":1,\"q\":\x7b\"COMMENT\":2\x7d\x7d]")],[],none⟩
  root := ⟨"."⟩
  target := ⟨"app",["base","more"]⟩
  network := "net"
  rootKey := ⟨"k","root"⟩
  policy := ⟨.ofMillis 100,10,none⟩
  markers := ["error"]

/-- A test that begins with an empty ledger. -/
def annotatedTest : Except Failure (List StageReport) × World InMemoryLedger :=
  (LedgerRules.plain.inMemory fun n => s!"#{n}").play annotated.test.run (.start .empty [])

theorem annotatedTest_recorded :
    annotatedTest.2.ledger.submissions.map (fun submission => submission.transaction) =
        [.list [.object [("code_from_query",.object [])]],
          .list [.object [("code_from_query",.object [])]],
          .list [.object [("code",.string "(f)")]],
          .list [.object [("code",.string "(str \"\x7b\x7d\")")]]] ∧
      annotatedTest.2.ledger.queries.map (fun query => (query.identity,query.query)) =
        [("ann",.object [("q",.object [("COMMENT",.number (.integer 2))])])] := by
  decide +kernel

theorem annotated_uncommented :
    annotatedTest.2.ledger.queries.map (fun query => (query.identity,query.query)) =
        [("ann",.object [("q",.object [("COMMENT",.number (.integer 2))])])] ∧
      ∀ submission ∈ annotatedTest.2.ledger.submissions, ∃ operations,
        submission.transaction = .list operations ∧
          ∀ operation ∈ operations, IsOperation operation := by
  have left : annotated.Leaves .plain (fun n => s!"#{n}") (.start .empty []) annotatedTest.2 :=
    .tested
  obtain ⟨submitted,asked,submissions,-,each,-⟩ := recorded_uncommented left
  exact ⟨annotatedTest_recorded.2,submissions ▸ each⟩

/-- Every transaction that is recorded in a run stands for operations without templates, unless it
is what the file of a stage holds that is taken as it is, sent with the root key. -/
theorem recorded_expanded [Diagnostics] {world final : World InMemoryLedger}
    (left : rehearsal.Leaves rules suffix world final) :
    ∃ submitted, final.ledger.submissions = world.ledger.submissions ++ submitted ∧
      ∀ submission ∈ submitted,
        (∃ operations, submission.transaction = .list operations ∧
          ∀ operation ∈ operations, IsExpanded operation) ∨
        rehearsal.TakenAsItIs submission.identity submission.transaction := by
  obtain ⟨planned,submitted,asked,plan,records⟩ := records_planned left
  exact ⟨submitted,records.submissions,fun submission member =>
    (origin_submitted plan records submission member).expanded⟩

theorem annotated_expanded :
    annotatedTest.2.ledger.submissions.map (fun submission => submission.transaction) =
        [.list [.object [("code_from_query",.object [])]],
          .list [.object [("code_from_query",.object [])]],
          .list [.object [("code",.string "(f)")]],
          .list [.object [("code",.string "(str \"\x7b\x7d\")")]]] ∧
      ∀ submission ∈ annotatedTest.2.ledger.submissions,
        (∃ operations, submission.transaction = .list operations ∧
          ∀ operation ∈ operations, IsExpanded operation) ∨
        annotated.TakenAsItIs submission.identity submission.transaction := by
  have left : annotated.Leaves .plain (fun n => s!"#{n}") (.start .empty []) annotatedTest.2 :=
    .tested
  obtain ⟨submitted,submissions,each⟩ := recorded_expanded left
  exact ⟨annotatedTest_recorded.1,submissions ▸ each⟩

/-- A template in a file that is taken as it is reaches the ledger. -/
theorem annotated_template :
    ¬ ∀ (rehearsal : Rehearsal) (rules : LedgerRules) (suffix : Nat → String)
      (final : World InMemoryLedger), rehearsal.Leaves rules suffix (.start .empty []) final →
      ∀ submission ∈ final.ledger.submissions, ∃ operations,
        submission.transaction = .list operations ∧
          ∀ operation ∈ operations, IsExpanded operation := by
  intro every
  have deployed := every annotated .plain (fun n => s!"#{n}") _ (.deployed "live")
  have recorded : ((LedgerRules.plain.surroundings.play (annotated.deploy "live").run
      (.start .empty [])).2.ledger.submissions.head?).map
        (fun submission => submission.transaction) =
      some (.list [.object [("code_from_query",.object [])]]) := rfl
  obtain ⟨submission,first,same⟩ := Option.map_eq_some_iff.mp recorded
  obtain ⟨operations,listed,expanded⟩ := deployed submission (List.mem_of_mem_head? first)
  obtain rfl := Value.list.inj (same.symm.trans listed)
  obtain ⟨members,object,-,absent⟩ := expanded _ List.mem_cons_self
  cases object
  exact absent (by decide)

end Rehearsal

end LedgerRehearsal

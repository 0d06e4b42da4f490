import LedgerRehearsal.Proofs.Ledger.InMemory
import LedgerRehearsal.Proofs.Rehearsal.Source
import LedgerRehearsal.Proofs.Rehearsal.Stage

/-! A whole test against a ledger in memory. Each stage works in a database of its own, which holds
the schema of the stages up to it. The invariant between two stages is that exactly the databases
of the earlier ones exist; with suffixes that do not repeat, the next one can always be created. -/
namespace LedgerRehearsal

open Json

/-- The part of a text after its last dash. -/
theorem after_dash {front front' back back' : List Char} (free : '-' ∉ back) (free' : '-' ∉ back')
    (same : front ++ '-' :: back = front' ++ '-' :: back') : back = back' := by
  rcases List.append_eq_append_iff.mp same with ⟨_ | ⟨c,between⟩,-,rest⟩ | ⟨_ | ⟨c,between⟩,-,rest⟩
  · exact (List.cons.inj rest).2
  · exact absurd ((List.cons.inj rest).2 ▸ List.mem_append_right _ List.mem_cons_self) free
  · exact (List.cons.inj rest).2.symm
  · exact absurd ((List.cons.inj rest).2 ▸ List.mem_append_right _ List.mem_cons_self) free'

/-- Texts that name databases: no two are the same, and none can be taken for the end of a stage. -/
structure FreshSuffixes (suffix : Nat → String) : Prop where
  distinct : ∀ m n, suffix m = suffix n → m = n
  simple : ∀ n, '-' ∉ (suffix n).toList

/-- The suffixes by which a ledger in memory is driven. -/
theorem freshSuffixes_numbered : FreshSuffixes fun n => s!"#{n}" where
  distinct m n same := by
    have texts : ("#" ++ toString m).toList = ("#" ++ toString n).toList :=
      congrArg String.toList same
    have digits : Nat.toDigits 10 m = Nat.toDigits 10 n := by simpa using texts
    calc m = Nat.ofDigitChars 10 (Nat.toDigits 10 m) 0 := Nat.ofDigitChars_ten_toDigits.symm
      _ = Nat.ofDigitChars 10 (Nat.toDigits 10 n) 0 := by rw [digits]
      _ = n := Nat.ofDigitChars_ten_toDigits
  simple n member := by
    have text : '-' ∈ ("#" ++ toString n).toList := member
    have digit : '-' ∈ Nat.toDigits 10 n := by simpa using text
    exact absurd (Nat.isDigit_of_mem_toDigits (by decide) (by decide) digit) (by decide)

namespace Rehearsal

variable {rehearsal : Rehearsal} {rules : LedgerRules} {suffix : Nat → String} {first : Nat}

/-- The database of the stage at a place, when so many suffixes were given out before the test. -/
def stageDatabase (rehearsal : Rehearsal) (suffix : Nat → String) (first i : Nat) : DatabaseId :=
  rehearsal.databaseOf (rehearsal.target.stages.getD i "") (suffix (first + i + 1))

theorem stageDatabase_injective (fresh : FreshSuffixes suffix) {i j : Nat}
    (same : rehearsal.stageDatabase suffix first i = rehearsal.stageDatabase suffix first j) :
    i = j := by
  have texts := congrArg (fun database => database.text.toList) same
  simp [stageDatabase,databaseOf,DatabaseId.make] at texts
  have numbers := fresh.distinct _ _ <| String.toList_inj.mp <|
    after_dash (fresh.simple _) (fresh.simple _) texts
  omega

/-- The world before the stage at a place. -/
structure BeforeStage (rehearsal : Rehearsal) (suffix : Nat → String) (first i : Nat)
    (world : World InMemoryLedger) : Prop where
  suffixes : world.suffixes = first + i
  databases : world.ledger.databases = (List.range i).map (rehearsal.stageDatabase suffix first)

theorem exchanges_within {database : DatabaseId} {α : Type} {run : Run α}
    (only : run.Only (Effect.Within database)) {events : List Event} {result : α}
    (trace : Run.Trace run events result) :
    ∀ exchange ∈ exchanges events, ∃ connection, exchange.1.connection? = some connection ∧
      connection.database = database := by
  intro exchange member
  obtain ⟨⟨effect,answer⟩,present,made⟩ := List.mem_filterMap.mp member
  have permitted := only.of_mem trace present
  cases effect with
  | ask request =>
    cases made
    exact permitted
  | _ => contradiction

/-- The database of the next stage can be created. -/
theorem BeforeStage.absent (fresh : FreshSuffixes suffix) {i : Nat} {world : World InMemoryLedger}
    (before : BeforeStage rehearsal suffix first i world) :
    rehearsal.stageDatabase suffix first i ∉ world.ledger.databases := by
  rw [before.databases]
  intro member
  obtain ⟨j,earlier,same⟩ := List.mem_map.mp member
  have place := stageDatabase_injective fresh same
  have bound := List.mem_range.mp earlier
  omega

/-- A database that is absent is created, opened and worked in. -/
theorem stage_created {database : DatabaseId} {accumulated : List Artifact} {plan : StagePlan}
    {created : Except LedgerError Unit} {rest : List Event} {result : Except Failure StageReport}
    {world next : World InMemoryLedger} (absent : database ∉ world.ledger.databases)
    (follows : Follows (rules.inMemory suffix).answer
      (⟨.ask (.createDatabase database),created⟩ :: rest) world next)
    (working : created = .ok () →
      Run.Trace (rehearsal.stageWork accumulated plan database).run rest result) :
    Staged rehearsal accumulated plan database
        (⟨.createDatabase database,created⟩ :: exchanges rest) result ∧
      Confined database (⟨.createDatabase database,created⟩ :: exchanges rest) ∧
      next.ledger.databases = world.ledger.databases ++ [database] ∧
      next.suffixes = world.suffixes := by
  have requested := follows_exchanges follows
  have kept := InMemoryLedger.follows_databases requested
  obtain ⟨creating,follows⟩ := follows
  have granted : world.ledger.createDatabase database =
      (.ok (),{ world.ledger with databases := world.ledger.databases ++ [database] }) :=
    if_neg absent
  have accepted : created = .ok () := creating.trans (congrArg Prod.fst granted)
  subst accepted
  have trace := working rfl
  have within := exchanges_within within_stageWork trace
  have steady := follows_suffixes follows fun event member => by
    have permitted := within_stageWork.of_mem trace member
    rintro same
    rw [same] at permitted
    exact permitted
  obtain ⟨opened,later,rfl,staged⟩ := trace_stageWork trace
  have usable : opened = .ok () := InMemoryLedger.follows_connect requested rfl
  refine ⟨staged usable,⟨_,rfl,within⟩,?_,steady⟩
  rw [kept,exchanges_ask,List.filterMap_cons,created_within within]
  rfl

/-- A stage creates its database, works there, and leaves the next one to be created. -/
theorem stage_step (fresh : FreshSuffixes suffix) {i : Nat} {accumulated : List Artifact}
    {plan : StagePlan} {events : List Event} {result : Except Failure StageReport}
    {world next : World InMemoryLedger} (before : BeforeStage rehearsal suffix first i world)
    (place : rehearsal.target.stages.getD i "" = plan.stage)
    (trace : Run.Trace (rehearsal.testStage accumulated plan).run events result)
    (follows : Follows (rules.inMemory suffix).answer events world next) :
    Staged rehearsal accumulated plan (rehearsal.stageDatabase suffix first i) (exchanges events)
        result ∧
      Confined (rehearsal.stageDatabase suffix first i) (exchanges events) ∧
      BeforeStage rehearsal suffix first (i + 1) next := by
  obtain ⟨given,notes,created,rest,reported,rfl,working⟩ := trace_testStage trace
  obtain ⟨named,follows⟩ := follows
  have name : rehearsal.databaseOf plan.stage given = rehearsal.stageDatabase suffix first i := by
    rw [stageDatabase,place,← before.suffixes]
    exact congrArg _ named
  rw [name] at follows working
  obtain ⟨ready,noted,creating⟩ := (follows_append _ _ _ _ _).mp follows
  have kept : ready.ledger = world.ledger := (reported.follows noted).1
  have counted : ready.suffixes = world.suffixes + 1 :=
    follows_suffixes noted fun event member => by
      obtain ⟨notice,rfl⟩ := reported event member
      nofun
  obtain ⟨staged,confined,databases,steady⟩ :=
    stage_created (kept ▸ before.absent fresh) creating fun accepted => by
      subst accepted
      exact working
  rw [exchanges_opening reported,name]
  refine ⟨staged,confined,?_,?_⟩
  · rw [steady,counted,before.suffixes,Nat.add_assoc]
  · rw [databases,kept,before.databases,List.range_succ,List.map_append]
    rfl

/-- What waiting for the ledger may do. -/
def Checks : Effect → Prop
  | .ask request => request = .health
  | .freshSuffix | .stopRequested | .rest .. => False
  | _ => True

theorem only_waitUntilReady {policy : PollPolicy} : (waitUntilReady policy).run.Only Checks := by
  have asked : (Run.ask .health).Only Checks := Run.only_perform rfl
  have await (started : Duration) (attempts fuel : Nat) :
      (awaitHealth policy started attempts fuel).Only Checks := by
    induction fuel generalizing attempts with
    | zero => exact .done _
    | succ fuel ih =>
      unfold awaitHealth
      refine asked.bind fun reply => ?_
      split
      · exact (Run.only_perform trivial).bind fun _ => Run.only_pure _
      · refine Run.only_note_if trivial ((Run.only_perform trivial).bind fun time => ?_)
        split
        · exact Run.only_pure _
        · exact (Run.only_perform trivial).bind fun _ => ih _
  exact (Run.only_perform trivial).bind fun started => await started 0 maxAttempts

theorem exchanges_checks {α : Type} {run : Run α} (only : run.Only Checks) {events : List Event}
    {result : α} (trace : Run.Trace run events result) :
    ∀ exchange ∈ exchanges events, exchange.1 = .health := by
  intro exchange member
  obtain ⟨⟨effect,answer⟩,present,made⟩ := List.mem_filterMap.mp member
  have permitted := only.of_mem trace present
  cases effect with
  | ask request =>
    cases made
    exact permitted
  | _ => contradiction

theorem only_load_notes [Diagnostics] {events : List Event}
    {result : Except Failure (List Artifact × List StagePlan)}
    (trace : Run.Trace rehearsal.load.run events result) : OnlyNotes events :=
  onlyNotes_of_only only_load trace

/-- The world between waiting for the ledger and the first stage. -/
theorem beforeStage_ready {world read checked : World InMemoryLedger}
    (bare : world.ledger.databases = []) {loading waiting : List Event} (notes : OnlyNotes loading)
    (reading : Follows (rules.inMemory suffix).answer loading world read)
    {ready : Except LedgerError Unit}
    (waited : Run.Trace (waitUntilReady rehearsal.policy).run waiting ready)
    (checking : Follows (rules.inMemory suffix).answer waiting read checked) :
    BeforeStage rehearsal suffix world.suffixes 0 checked := by
  have databases := InMemoryLedger.follows_databases (follows_exchanges checking)
  have health := exchanges_checks only_waitUntilReady waited
  constructor
  · have unnamed := follows_suffixes reading fun event member => by
      obtain ⟨notice,rfl⟩ := notes event member
      nofun
    have steady := follows_suffixes checking fun event member => by
      have permitted := only_waitUntilReady.of_mem waited member
      rintro same
      rw [same] at permitted
      exact permitted
    exact steady.trans unnamed
  · rw [databases,(notes.follows reading).1,bare,filterMap_checks health fun _ => rfl]
    rfl

theorem test_eq_afterReading [Diagnostics] :
    rehearsal.test = afterReading rehearsal.policy rehearsal.load fun (artifacts,plans) =>
      (steps artifacts plans).mapM fun (accumulated,plan) =>
        rehearsal.testStage accumulated plan := rfl

/-- Before the first stage nothing is asked for but the health of the ledger. -/
theorem trace_test [Diagnostics] {events : List Event} {result : Except Failure (List StageReport)}
    (trace : Run.Trace rehearsal.test.run events result) :
    (∃ failure, Run.Trace rehearsal.load.run events (.error failure) ∧ result = .error failure) ∨
    ∃ loading artifacts plans waiting ready logs,
      Run.Trace rehearsal.load.run loading (.ok (artifacts,plans)) ∧
      Run.Trace (waitUntilReady rehearsal.policy).run waiting ready ∧
      events = loading ++ (waiting ++ logs.flatten) ∧
      match ready with
      | .error error => logs = [] ∧ result = .error (.ledger error)
      | .ok _ => InTurn (fun step : List Artifact × StagePlan =>
            Run.Trace (rehearsal.testStage step.1 step.2).run)
          (steps artifacts plans) logs result := by
  rw [test_eq_afterReading] at trace
  rcases trace_afterReading trace with
    failed | ⟨loading,⟨artifacts,plans⟩,waiting,ready,rest,loaded,waited,rfl,testing⟩
  · exact .inl failed
  · refine .inr ⟨loading,artifacts,plans,waiting,ready,?_⟩
    cases ready with
    | error error =>
      obtain ⟨rfl,same⟩ := testing
      exact ⟨[],loaded,waited,rfl,rfl,same⟩
    | ok =>
      obtain ⟨logs,turns,rfl⟩ := (Attempt.trace_mapM _ _ _ _).mp testing
      exact ⟨logs,loaded,waited,rfl,turns⟩

theorem steps_at {artifacts : List Artifact} {plans : List StagePlan} {i : Nat}
    {step : List Artifact × StagePlan} (place : (steps artifacts plans)[i]? = some step) :
    plans[i]? = some step.2 ∧ step.1 = artifacts.take (i + 1) := by
  simp only [steps,List.getElem?_map,List.getElem?_zipIdx,Option.map_map,Option.map_eq_some_iff,
    Function.comp] at place
  obtain ⟨plan,found,rfl⟩ := place
  exact ⟨found,by simp⟩

/-- What is exchanged about the stage at a place. -/
def StageAt (rehearsal : Rehearsal) (artifacts : List Artifact) (plans : List StagePlan)
    (database : Nat → DatabaseId) (i : Nat) (exchanged : List Exchange)
    (result : Except Failure StageReport) : Prop :=
  ∃ plan, plans[i]? = some plan ∧
    Staged rehearsal (artifacts.take (i + 1)) plan (database i) exchanged result

/-- The stages follow each other, each in its own database. -/
theorem stages_run [Diagnostics] (fresh : FreshSuffixes suffix) {artifacts : List Artifact}
    {plans : List StagePlan} (loaded : Loaded rehearsal artifacts plans)
    {logs : List (List Event)} {result : Except Failure (List StageReport)}
    {world final : World InMemoryLedger} (before : BeforeStage rehearsal suffix first 0 world)
    (turns : InTurn (fun step : List Artifact × StagePlan =>
      Run.Trace (rehearsal.testStage step.1 step.2).run) (steps artifacts plans) logs result)
    (follows : Follows (rules.inMemory suffix).answer logs.flatten world final) :
    InTurn (fun i exchanged result =>
        StageAt rehearsal artifacts plans (rehearsal.stageDatabase suffix first) i exchanged
            result ∧
          Confined (rehearsal.stageDatabase suffix first i) exchanged)
      (List.range plans.length) (logs.map exchanges) result ∧
      BeforeStage rehearsal suffix first logs.length final := by
  have places := turns.indexed
  rw [List.range_eq_range',steps,List.length_map,List.length_zipIdx] at places
  have carried : InTurn (fun i log result =>
      StageAt rehearsal artifacts plans (rehearsal.stageDatabase suffix first) i (exchanges log)
          result ∧
        Confined (rehearsal.stageDatabase suffix first i) (exchanges log))
      (List.range' 0 plans.length) logs result ∧
      BeforeStage rehearsal suffix first (0 + logs.length) final := by
    refine places.carry follows before ?_
    rintro i log result state next ⟨step,found,trace⟩ before follows
    obtain ⟨place,same⟩ := steps_at found
    have name : rehearsal.target.stages.getD i "" = step.2.stage := by
      simp [← loaded.plans_stages,place]
    obtain ⟨staged,confined,after⟩ := stage_step fresh before name trace follows
    exact ⟨⟨⟨step.2,place,same ▸ staged⟩,confined⟩,after⟩
  rw [Nat.zero_add,← List.range_eq_range'] at carried
  refine ⟨(carried.1.mapLog exchanges).imp ?_,carried.2⟩
  rintro i _ exchanged _ result ⟨log,spec,rfl⟩
  exact spec

/-- What comes of waiting for the ledger, once everything is read. -/
def readiness [Diagnostics] (rehearsal : Rehearsal) (rules : LedgerRules) (suffix : Nat → String)
    (world : World InMemoryLedger) : Except LedgerError Unit :=
  let read := ((rules.inMemory suffix).play rehearsal.load.run world).2
  ((rules.inMemory suffix).play (waitUntilReady rehearsal.policy).run read).1

/-- A test that gets past loading, against a ledger without databases. -/
theorem test_stages [Diagnostics] (fresh : FreshSuffixes suffix) {world final : World InMemoryLedger}
    (bare : world.ledger.databases = []) {artifacts : List Artifact} {plans : List StagePlan}
    (loaded : ((rules.inMemory suffix).play rehearsal.load.run world).1 = .ok (artifacts,plans))
    {events : List Event} {result : Except Failure (List StageReport)}
    (trace : Run.Trace rehearsal.test.run events result)
    (follows : Follows (rules.inMemory suffix).answer events world final) :
    Loaded rehearsal artifacts plans ∧ ∃ checks stages,
      exchanges events = checks ++ stages.flatten ∧
      (∀ exchange ∈ checks, exchange.1 = .health) ∧
      (match (rehearsal.readiness rules suffix world) with
        | .error error => stages = [] ∧ result = .error (.ledger error)
        | .ok _ => InTurn
            (StageAt rehearsal artifacts plans (rehearsal.stageDatabase suffix world.suffixes))
            (List.range plans.length) stages result) ∧
      (∀ i exchanged, stages[i]? = some exchanged →
        Confined (rehearsal.stageDatabase suffix world.suffixes i) exchanged) ∧
      BeforeStage rehearsal suffix world.suffixes stages.length final := by
  have played {events : List Event} {result} {next : World InMemoryLedger}
      (trace : Run.Trace rehearsal.load.run events result)
      (follows : Follows (rules.inMemory suffix).answer events world next) :
      result = .ok (artifacts,plans) ∧
        next = ((rules.inMemory suffix).play rehearsal.load.run world).2 := by
    have known := (Run.trace_follows_iff _ _ _ (result,next)).mp ⟨events,trace,follows⟩
    rw [← loaded]
    exact ⟨(congrArg Prod.fst known).symm,(congrArg Prod.snd known).symm⟩
  rcases trace_test trace with
    ⟨failure,failed,-⟩ | ⟨loading,artifacts',plans',waiting,ready,logs,loads,waited,rfl,testing⟩
  · exact absurd (played failed follows).1 nofun
  obtain ⟨read,reading,going⟩ := (follows_append _ _ _ _ _).mp follows
  obtain ⟨checked,checking,working⟩ := (follows_append _ _ _ _ _).mp going
  obtain ⟨same,rfl⟩ := played loads reading
  cases same
  have readiness : rehearsal.readiness rules suffix world = ready :=
    congrArg Prod.fst ((Run.trace_follows_iff _ _ _ (ready,checked)).mp ⟨waiting,waited,checking⟩)
  have contents := trace_load loads
  have notes := only_load_notes loads
  have health := exchanges_checks only_waitUntilReady waited
  have before := beforeStage_ready bare notes reading waited checking
  have whole : exchanges (loading ++ (waiting ++ logs.flatten)) =
      exchanges waiting ++ (logs.map exchanges).flatten := by
    simp [notes.exchanges_eq]
  refine ⟨contents,exchanges waiting,logs.map exchanges,whole,health,?_⟩
  rw [readiness]
  cases ready with
  | error error =>
    obtain ⟨rfl,ended⟩ := testing
    cases working
    exact ⟨⟨rfl,ended⟩,by simp,before⟩
  | ok =>
    obtain ⟨turns,after⟩ := stages_run fresh contents before testing working
    refine ⟨turns.imp fun i _ exchanged _ result spec => spec.1,?_,by simpa using after⟩
    intro i exchanged place
    obtain ⟨j,outcome,atPlace,⟨-,confined⟩,-⟩ := turns.get place
    obtain ⟨bound,rfl⟩ := List.getElem?_eq_some_iff.mp atPlace
    simpa using confined

/-- Every test against a ledger in memory that is without databases. Before the first stage only
the health of the ledger is checked, and only a ledger that does not get well keeps all stages from
being reached; then every stage that is reached creates its database, which is named by the stage
and a suffix of its own, and all that is kept of it belongs to that stage. -/
theorem test_cumulative [Diagnostics] (fresh : FreshSuffixes suffix) {world : World InMemoryLedger}
    (bare : world.ledger.databases = []) {artifacts : List Artifact} {plans : List StagePlan}
    (loaded : ((rules.inMemory suffix).play rehearsal.load.run world).1 = .ok (artifacts,plans)) :
    let played := (rules.inMemory suffix).play rehearsal.test.run world
    let database := rehearsal.stageDatabase suffix world.suffixes
    Loaded rehearsal artifacts plans ∧
    ∃ checks stages,
      exchanges ((rules.inMemory suffix).history rehearsal.test.run world) =
        checks ++ stages.flatten ∧
      (∀ exchange ∈ checks, exchange.1 = .health) ∧
      (match rehearsal.readiness rules suffix world with
        | .error error => stages = [] ∧ played.1 = .error (.ledger error)
        | .ok _ => InTurn (StageAt rehearsal artifacts plans database) (List.range plans.length)
            stages played.1) ∧
      played.2.ledger.databases = (List.range stages.length).map database ∧
      played.2.ledger.databases.Nodup ∧
      ∀ i exchanged, stages[i]? = some exchanged →
        Confined (database i) exchanged ∧
        (played.2.ledger.submissionsTo (database i)).map Submission.sent =
          (world.ledger.submissionsTo (database i)).map Submission.sent ++
            exchanged.filterMap Exchange.submission? ∧
        (played.2.ledger.queries.filter fun asked => asked.database = database i) =
          (world.ledger.queries.filter fun asked => asked.database = database i) ++
            exchanged.filterMap Exchange.query? := by
  intro played database
  obtain ⟨trace,follows⟩ :=
    Run.trace_history (rules.inMemory suffix).answer rehearsal.test.run world
  obtain ⟨contents,checks,stages,whole,health,turns,confined,after⟩ :=
    test_stages fresh bare loaded trace follows
  have distinct : ∀ i j, database i = database j → i = j := fun i j => stageDatabase_injective fresh
  have kept := follows_exchanges follows
  rw [whole] at kept
  refine ⟨contents,checks,stages,whole,health,turns,after.databases,?_,?_⟩
  · rw [show played.2.ledger.databases = _ from after.databases]
    exact List.Pairwise.map _ (fun i j apart same => apart (distinct i j same)) List.nodup_range
  · intro i exchanged place
    exact ⟨confined i exchanged place,kept_of_confined distinct health confined kept place⟩

/-- A target of two stages, of which the second contributes nothing. -/
def twoStages : Rehearsal where
  files := ⟨[(["base.json"],.text "[{}]"),(["more.json"],.text "[]")],[],none⟩
  root := ⟨"."⟩
  target := ⟨"app",["base","more"]⟩
  network := "net"
  rootKey := ⟨"k","root"⟩
  policy := ⟨.ofMillis 100,10,none⟩
  markers := ["error"]

/-- The transaction of the first stage is submitted to both databases. -/
theorem twoStages_cumulative :
    let played := LedgerRules.plain.surroundings.play twoStages.test.run (.start .empty [])
    Loaded twoStages [⟨"base",[⟨[],none⟩]⟩,⟨"more",[]⟩] [⟨"base",[]⟩,⟨"more",[]⟩] ∧
      played.2.ledger.databases = [⟨"net/base-#1"⟩,⟨"net/more-#2"⟩] ∧
      (played.2.ledger.submissionsTo ⟨"net/base-#1"⟩).map Submission.sent =
        [(⟨"net/base-#1"⟩,"root",.list [.object []],true)] ∧
      (played.2.ledger.submissionsTo ⟨"net/more-#2"⟩).map Submission.sent =
        [(⟨"net/more-#2"⟩,"root",.list [.object []],true)] := by
  intro played
  have loaded : (LedgerRules.plain.surroundings.play twoStages.load.run (.start .empty [])).1 =
      .ok ([⟨"base",[⟨[],none⟩]⟩,⟨"more",[]⟩],[⟨"base",[]⟩,⟨"more",[]⟩]) := rfl
  exact ⟨(test_cumulative freshSuffixes_numbered rfl loaded).1,rfl,rfl,rfl⟩

end Rehearsal

end LedgerRehearsal

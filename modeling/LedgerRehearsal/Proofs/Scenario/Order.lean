import LedgerRehearsal.Proofs.InTurn
import LedgerRehearsal.Proofs.Scenario.Entry

/-! The order of a scenario. Its entries are exercised phase by phase and, within a phase, from the
first to the last, each with a key of its own; the first that fails ends the run. -/
namespace LedgerRehearsal

open Json

namespace ScenarioPlan

/-- The entries in the order in which they are exercised, each by its phase and its place there. -/
def places (plan : ScenarioPlan) : List (Phase × Nat) :=
  Phase.all.flatMap fun phase => (List.range (plan.entries phase)).map fun i => (phase,i)

theorem mem_places {plan : ScenarioPlan} {phase : Phase} {i : Nat} :
    (phase,i) ∈ plan.places ↔ i < plan.entries phase := by
  cases phase <;> simp [places,Phase.all]

theorem places_nodup (plan : ScenarioPlan) : plan.places.Nodup := by
  have distinct (phase : Phase) :
      ((List.range (plan.entries phase)).map fun i => (phase,i)).Nodup :=
    List.Pairwise.map _ (fun i j differ same => differ (Prod.ext_iff.mp same).2) List.nodup_range
  have apart : Phase.all.Nodup := by decide
  refine List.pairwise_flatMap.mpr ⟨fun phase _ => distinct phase,apart.imp fun differ => ?_⟩
  intro place member other otherMember same
  obtain ⟨i,-,rfl⟩ := List.mem_map.mp member
  obtain ⟨j,-,rfl⟩ := List.mem_map.mp otherMember
  exact differ (Prod.ext_iff.mp same).1

theorem checkPhase_of_forM {plan : ScenarioPlan} {phases : List Phase}
    (valid : phases.forM plan.checkPhase = .ok ()) :
    ∀ phase ∈ phases, plan.checkPhase phase = .ok () := by
  induction phases with
  | nil => simp
  | cons phase phases ih =>
    simp only [List.forM] at valid
    cases first : plan.checkPhase phase with
    | error error => simp [first,bind,Except.bind] at valid
    | ok value =>
      simp only [first,bind,Except.bind] at valid
      simpa [first] using ih valid

/-- As many keys as entries are what the check of a plan asks of each phase with keys of its own. -/
theorem paired {plan : ScenarioPlan} (valid : plan.check = .ok ()) {phase : Phase}
    (bound : phase.roleSet?.isSome) : (plan.roles.forPhase phase).length = plan.entries phase := by
  have checked := checkPhase_of_forM valid phase (by cases phase <;> simp [Phase.all])
  unfold checkPhase at checked
  dsimp only at checked
  split at checked
  · rename_i passes
    rcases passes with unbound | same
    · simp only [Option.isNone_iff_eq_none] at unbound
      simp [unbound] at bound
    · exact same
  · contradiction

end ScenarioPlan

namespace ScenarioStage

/-- The exchanges of a monitored transaction and what came of it. -/
structure Tried (stage : ScenarioStage) (phase : Phase) (key : Key) (transaction : Transaction)
    (exchanged : List Exchange) (verdict : Verdict) : Prop where
  checked : Monitor.Checked (stage.trial phase key transaction) exchanged
  judged : ∃ events, actions events = exchanged ∧
    Run.Trace (stage.monitor.check (stage.trial phase key transaction)) events verdict

/-- What an entry exchanges with the ledger, and its result. -/
inductive Exercised (stage : ScenarioStage) (plan : ScenarioPlan) :
    Phase × Nat → List Exchange → Except ScenarioError Unit → Prop where
  | prepare {transaction : Transaction} (reply : Except LedgerError Value) :
      plan.prepare = some transaction →
      Exercised stage plan (.prepare,0)
        [⟨.submitAndWait stage.rootConnection transaction.toValue,reply⟩]
        (privilegedResult stage.monitor.markers .prepare transaction.toValue reply)
  | yesQuery {i : Nat} {key : Key} {query : Value} (reply : Except LedgerError (List Value)) :
      plan.roles.yes[i]? = some key → plan.yes[i]? = some query →
      Exercised stage plan (.yesQuery,i) [⟨.query (stage.connection key) query,reply⟩]
        (wantedResult query reply)
  | noQuery {i : Nat} {key : Key} {query : Value} (reply : Except LedgerError (List Value)) :
      plan.roles.no[i]? = some key → plan.no[i]? = some query →
      Exercised stage plan (.noQuery,i) [⟨.query (stage.connection key) query,reply⟩]
        (unwantedResult query reply)
  | yesTransaction {i : Nat} {key : Key} {transaction : Transaction} {exchanged : List Exchange}
      {verdict : Verdict} :
      plan.roles.tyes[i]? = some key → plan.tyes[i]? = some transaction →
      Tried stage .yesTransaction key transaction exchanged verdict →
      Exercised stage plan (.yesTransaction,i) exchanged (verdict.map fun _ => ())
  | noTransaction {i : Nat} {key : Key} {transaction : Transaction} {exchanged : List Exchange}
      {verdict : Verdict} :
      plan.roles.tno[i]? = some key → plan.tno[i]? = some transaction →
      Tried stage .noTransaction key transaction exchanged verdict →
      Exercised stage plan (.noTransaction,i) exchanged (verdict.map fun _ => ())
  | cleanup {transaction : Transaction} (reply : Except LedgerError Value) :
      plan.clean = some transaction →
      Exercised stage plan (.cleanup,0)
        [⟨.submitAndWait stage.rootConnection transaction.toValue,reply⟩]
        (privilegedResult stage.monitor.markers .cleanup transaction.toValue reply)

variable {stage : ScenarioStage} {plan : ScenarioPlan}

/-- One phase of a run. -/
def runPhase (stage : ScenarioStage) (plan : ScenarioPlan) : Phase → Step
  | .prepare => plan.prepare.forM (stage.runPrivileged .prepare)
  | .yesQuery =>
    (plan.roles.yes.zip plan.yes).forM fun (key,query) => stage.expectResults key query
  | .noQuery =>
    (plan.roles.no.zip plan.no).forM fun (key,query) => stage.expectNoResults key query
  | .yesTransaction =>
    (plan.roles.tyes.zip plan.tyes).forM fun (key,entry) =>
      stage.runScoped .yesTransaction key entry
  | .noTransaction =>
    (plan.roles.tno.zip plan.tno).forM fun (key,entry) =>
      stage.runScoped .noTransaction key entry
  | .cleanup => plan.clean.forM (stage.runPrivileged .cleanup)

theorem run_eq_phases (stage : ScenarioStage) (plan : ScenarioPlan) :
    stage.run plan = (do
      ExceptT.lift <| Run.note .info "Running scenario"
        [("scenario",plan.name),("database",stage.database.text)]
      Phase.all.forM (stage.runPhase plan)
      ExceptT.lift (Run.note .info "Scenario passed" [("scenario",plan.name)])
      return ⟨plan.name,plan.yes.length,plan.no.length,plan.tyes.length,plan.tno.length⟩) := by
  simp [run,Phase.all,runPhase]

/-- A phase whose keys and entries go in pairs. -/
theorem trace_pairs {ι : Type} {step : Key × ι → Step} {keys : List Key} {items : List ι}
    {spec : Nat → List Exchange → Except ScenarioError Unit → Prop} {events : List Event}
    {result : Except ScenarioError Unit} (same : keys.length = items.length)
    (trace : Run.Trace ((keys.zip items).forM step).run events result) (opens : stage.Opens events)
    (each : ∀ i key item log result, keys[i]? = some key → items[i]? = some item →
      Run.Trace (step (key,item)).run log result → stage.Opens log → spec i (actions log) result) :
    ∃ parts outcome, InTurn spec (List.range items.length) parts outcome ∧
      actions events = parts.flatten ∧ result = outcome.map fun _ => () := by
  obtain ⟨logs,outcome,turns,rfl,rfl⟩ := (Attempt.trace_forM _ _ _ _).mp trace
  have places := turns.indexed
  rw [List.length_zip,same,Nat.min_self] at places
  refine ⟨logs.map actions,outcome,?_,actions_flatten logs,rfl⟩
  have specified : InTurn (fun i log result => spec i (actions log) result)
      (List.range items.length) logs outcome := by
    refine places.imp fun i _ log member result ⟨⟨key,item⟩,paired,traced⟩ => ?_
    obtain ⟨atKey,atItem⟩ := List.getElem?_zip_eq_some.mp paired
    exact each i key item log result atKey atItem traced (opens.of_mem_flatten member)
  refine (specified.mapLog actions).imp fun i _ log _ result ⟨inner,done,same⟩ => ?_
  exact same ▸ done

/-- A phase of the root key. -/
theorem trace_single {ι : Type} {step : ι → Step} {item? : Option ι}
    {spec : Nat → List Exchange → Except ScenarioError Unit → Prop} {events : List Event}
    {result : Except ScenarioError Unit} (trace : Run.Trace (item?.forM step).run events result)
    (each : ∀ item, item? = some item → Run.Trace (step item).run events result →
      spec 0 (actions events) result) :
    ∃ parts outcome, InTurn spec (List.range (if item?.isSome then 1 else 0)) parts outcome ∧
      actions events = parts.flatten ∧ result = outcome.map fun _ => () := by
  cases item? with
  | none =>
    obtain ⟨rfl,rfl⟩ := (Attempt.trace_pure _ _ _).mp trace
    exact ⟨[],_,.none,rfl,rfl⟩
  | some item =>
    have done := each item rfl trace
    rcases result with error | _
    · exact ⟨[actions events],_,.failed done,by simp,rfl⟩
    · exact ⟨[actions events],_,.passed done .none,by simp,rfl⟩

theorem trace_runPhase (valid : plan.check = .ok ()) {phase : Phase} {events : List Event}
    {result : Except ScenarioError Unit}
    (trace : Run.Trace (stage.runPhase plan phase).run events result) (opens : stage.Opens events) :
    ∃ parts outcome,
      InTurn (fun i => Exercised stage plan (phase,i)) (List.range (plan.entries phase)) parts
        outcome ∧
      actions events = parts.flatten ∧ result = outcome.map fun _ => () := by
  have paired (phase : Phase) (bound : phase.roleSet?.isSome) := ScenarioPlan.paired valid bound
  cases phase with
  | prepare =>
    refine trace_single trace fun transaction given traced => ?_
    obtain ⟨reply,asked,rfl⟩ := trace_runPrivileged traced opens
    exact asked ▸ .prepare reply given
  | yesQuery =>
    refine trace_pairs (paired .yesQuery rfl) trace opens ?_
    intro i key query log result atKey atEntry traced opens
    obtain ⟨reply,asked,rfl⟩ := trace_expectResults traced opens
    exact asked ▸ .yesQuery reply atKey atEntry
  | noQuery =>
    refine trace_pairs (paired .noQuery rfl) trace opens ?_
    intro i key query log result atKey atEntry traced opens
    obtain ⟨reply,asked,rfl⟩ := trace_expectNoResults traced opens
    exact asked ▸ .noQuery reply atKey atEntry
  | yesTransaction =>
    refine trace_pairs (paired .yesTransaction rfl) trace opens ?_
    intro i key entry log result atKey atEntry traced opens
    obtain ⟨checked,verdict,judged,same,rfl⟩ := trace_runScoped traced opens
    exact .yesTransaction atKey atEntry
      ⟨same ▸ Monitor.check_actions judged,checked,same.symm,judged⟩
  | noTransaction =>
    refine trace_pairs (paired .noTransaction rfl) trace opens ?_
    intro i key entry log result atKey atEntry traced opens
    obtain ⟨checked,verdict,judged,same,rfl⟩ := trace_runScoped traced opens
    exact .noTransaction atKey atEntry
      ⟨same ▸ Monitor.check_actions judged,checked,same.symm,judged⟩
  | cleanup =>
    refine trace_single trace fun transaction given traced => ?_
    obtain ⟨reply,asked,rfl⟩ := trace_runPrivileged traced opens
    exact asked ▸ .cleanup reply given

theorem trace_phases (valid : plan.check = .ok ()) {events : List Event}
    {result : Except ScenarioError Unit}
    (trace : Run.Trace (Phase.all.forM (stage.runPhase plan)).run events result)
    (opens : stage.Opens events) :
    ∃ parts outcome, InTurn (Exercised stage plan) plan.places parts outcome ∧
      actions events = parts.flatten ∧ result = outcome.map fun _ => () := by
  obtain ⟨logs,outcome,turns,rfl,rfl⟩ := (Attempt.trace_forM _ _ _ _).mp trace
  have phases : InTurn (fun phase log result => ∃ parts outcome,
      InTurn (Exercised stage plan) ((List.range (plan.entries phase)).map fun i => (phase,i))
        parts outcome ∧ actions log = parts.flatten ∧ result = outcome.map fun _ => ())
      Phase.all logs outcome := by
    refine turns.imp fun phase _ log member result traced => ?_
    obtain ⟨parts,outcome,entries,flat,same⟩ :=
      trace_runPhase valid traced (opens.of_mem_flatten member)
    exact ⟨parts,outcome,(InTurn.map_iff _ _).mpr entries,flat,same⟩
  obtain ⟨parts,whole,entries,flat,same⟩ := InTurn.flatMap <|
    (phases.mapLog actions).imp fun phase _ log _ result ⟨inner,spec,same⟩ => same ▸ spec
  exact ⟨parts,whole,entries,(actions_flatten logs).trans flat,same⟩

/-- A run exercises the entries of a plan, each of them once, in order up to the first that fails,
whose error is that of the run; it passes when they all do, and then the report counts them. -/
theorem run_in_order (valid : plan.check = .ok ()) {events : List Event}
    {result : Except ScenarioError ScenarioReport}
    (trace : Run.Trace (stage.run plan).run events result) (opens : stage.Opens events) :
    plan.places.Nodup ∧ (∀ phase i, (phase,i) ∈ plan.places ↔ i < plan.entries phase) ∧
    ∃ parts outcome, InTurn (Exercised stage plan) plan.places parts outcome ∧
      actions events = parts.flatten ∧
      result = outcome.map fun _ => ⟨plan.name,plan.entries .yesQuery,plan.entries .noQuery,
        plan.entries .yesTransaction,plan.entries .noTransaction⟩ := by
  refine ⟨plan.places_nodup,fun _ _ => ScenarioPlan.mem_places,?_⟩
  rw [run_eq_phases] at trace
  obtain ⟨opening,_,_,noted,going,rfl⟩ := (Attempt.trace_lift_bind _ _ _ _).mp trace
  have quiet := actions_silent (Run.trace_note noted).exchanges_eq
  have opened := (opens_append.mp opens).2
  rcases (Attempt.trace_bind _ _ _ _).mp going with
    ⟨error,phases,rfl⟩ | ⟨_,_,_,phases,ending,rfl⟩
  · obtain ⟨parts,outcome,turns,flat,same⟩ := trace_phases valid phases opened
    refine ⟨parts,outcome,turns,by simp [quiet,flat],?_⟩
    rcases outcome with first | _
    · exact congrArg Except.error (Except.error.inj same)
    · contradiction
  · obtain ⟨parts,outcome,turns,flat,same⟩ := trace_phases valid phases (opens_append.mp opened).1
    obtain ⟨closing,_,_,noted,last,rfl⟩ := (Attempt.trace_lift_bind _ _ _ _).mp ending
    obtain ⟨rfl,rfl⟩ := (Attempt.trace_pure _ _ _).mp last
    have silent := actions_silent (Run.trace_note noted).exchanges_eq
    refine ⟨parts,outcome,turns,by simp [quiet,silent,flat],?_⟩
    rcases outcome with first | _
    · contradiction
    · rfl

def readingStage : ScenarioStage :=
  ⟨⟨"net/db"⟩,⟨"k","root"⟩,⟨⟨.ofMillis 100,10,none⟩,["error"]⟩⟩

/-- A reader may ask a query and may not submit a transaction. -/
def reading : ScenarioPlan :=
  ⟨"reading",⟨"reading"⟩,⟨[⟨"l","reader"⟩],[],[],[⟨"l","reader"⟩]⟩,none,[.object []],[],[],[[]],
    none⟩

def readingEvents : List Event :=
  let reader := readingStage.connection ⟨"l","reader"⟩
  let refusal := LedgerError.rejected 403 "forbidden"
  let outcome := Outcome.rejectedAsExpected none refusal.message
  let phase := ("phase",Phase.noTransaction.label)
  [⟨.note ⟨.info,"Running scenario",[("scenario","reading"),("database","net/db")]⟩,()⟩,
    ⟨.ask (.connect reader),.ok ()⟩,⟨.ask (.query reader (.object [])),.ok [.object []]⟩,
    ⟨.ask (.connect readingStage.rootConnection),.ok ()⟩,⟨.ask (.connect reader),.ok ()⟩,
    ⟨.ask (.submit reader (.list [])),.error refusal⟩,
    ⟨.note ⟨.warn,"Ledger error on a transaction expected to fail",
      [phase,("error",refusal.message)]⟩,()⟩,
    ⟨.note ⟨.debug,"Transaction checked",
      [phase,("identity","reader"),("outcome",outcome.inspection.text)]⟩,()⟩,
    ⟨.note ⟨.info,"Scenario passed",[("scenario","reading")]⟩,()⟩]

theorem trace_reading :
    Run.Trace (readingStage.run reading).run readingEvents (.ok ⟨"reading",1,0,0,1⟩) :=
  .act (.act (.act (.act (.act (.act (.act (.act (.act .done))))))))

theorem opens_reading : readingStage.Opens readingEvents := by
  intro key error member
  simp [readingEvents] at member

theorem reading_in_order :
    reading.places.Nodup ∧ (∀ phase i, (phase,i) ∈ reading.places ↔ i < reading.entries phase) ∧
    ∃ parts outcome, InTurn (Exercised readingStage reading) reading.places parts outcome ∧
      actions readingEvents = parts.flatten ∧
      (.ok ⟨"reading",1,0,0,1⟩ : Except ScenarioError ScenarioReport) =
        outcome.map fun _ => ⟨"reading",1,0,0,1⟩ :=
  run_in_order rfl trace_reading opens_reading

end ScenarioStage

end LedgerRehearsal

import LedgerRehearsal.Proofs.Secret.Run
import LedgerRehearsal.Rehearsal

/-! Secrets in a rehearsal. Running a scenario and setting up a schema are made of requests, which a
ledger in memory cannot tell from those without secrets, and of reports and verdicts, in which no
key is named. So what two keys differ in besides their accounts shows nowhere. -/
namespace LedgerRehearsal

open Json

def ScenarioPlan.hidden (plan : ScenarioPlan) : ScenarioPlan :=
  { plan with roles := plan.roles.hidden }

def ScenarioStage.hidden (stage : ScenarioStage) : ScenarioStage :=
  { stage with rootKey := stage.rootKey.hidden }

def Trial.hidden (trial : Trial) : Trial :=
  { trial with privileged := trial.privileged.hidden,submitter := trial.submitter.hidden }

def Rehearsal.hidden (rehearsal : Rehearsal) : Rehearsal :=
  { rehearsal with rootKey := rehearsal.rootKey.hidden }

namespace Monitor

variable (monitor : Monitor) (trial : Trial) (tx : TxId)

/-- The verdicts on a trial read no key, so only the lookups have to be compared. -/
theorem round_hidden (attempts : Nat) :
    (round monitor trial tx attempts).Indistinct (round monitor trial.hidden tx attempts) := by
  refine (Run.Indistinct.lookup trial.privileged tx).bind fun reply => ?_
  cases reply with
  | error error => exact .refl _
  | ok authoritative =>
    refine (Run.Indistinct.lookup trial.submitter tx).bind fun reply => ?_
    cases reply with
    | error error => exact .refl _
    | ok own => cases authoritative <;> exact .refl _

theorem poll_hidden (started : Duration) (attempts : Nat) (seen : Option Nat) (fuel : Nat) :
    (poll monitor trial tx started attempts seen fuel).Indistinct
      (poll monitor trial.hidden tx started attempts seen fuel) := by
  induction fuel generalizing attempts seen with
  | zero => exact .refl _
  | succ fuel ih =>
    refine (Run.Indistinct.refl (Run.perform .stopRequested)).bind fun requested => ?_
    split
    · exact .refl _
    · refine (round_hidden monitor trial tx attempts).bind fun verdict => ?_
      cases verdict with
      | some verdict => exact .refl _
      | none =>
        refine .note_if ((Run.Indistinct.refl Run.now).bind fun now => ?_)
        dsimp only
        split
        · exact .refl _
        · refine (Run.Indistinct.refl (rest monitor.policy seen)).bind fun after => ?_
          cases after with
          | stop => exact .refl _
          | goOn seen => exact ih _ seen

theorem check_hidden : (check monitor trial).Indistinct (check monitor trial.hidden) := by
  refine (Run.Indistinct.submit trial.submitter trial.transaction).bind fun reply => ?_
  cases reply with
  | error error => exact .refl _
  | ok tx =>
    -- the report on it names the submitter by the account
    refine (Run.Indistinct.refl (Run.perform (.note _))).bind fun _ => ?_
    exact (Run.Indistinct.refl Run.now).bind fun started =>
      poll_hidden monitor trial tx started 0 _ _

end Monitor

namespace ScenarioStage

variable (stage : ScenarioStage)

theorem submitAndWait_hidden (markers : List String) (connection : Connection)
    (transaction : Value) :
    (submitAndWait markers connection transaction).Indistinct
      (submitAndWait markers connection.hidden transaction) := by
  refine (Run.Indistinct.submitAndWait connection transaction).bind fun reply => ?_
  cases reply <;> exact .refl _

theorem runPrivileged_hidden (phase : Phase) (transaction : Transaction) :
    (stage.runPrivileged phase transaction).run.Indistinct
      (stage.hidden.runPrivileged phase transaction).run := by
  refine .attempt_bind (.attempt_lift (.connect stage.rootConnection)) fun reply => ?_
  cases reply with
  | error error => exact .refl _
  | ok opened =>
    refine .attempt_bind (.attempt_lift (submitAndWait_hidden _ stage.rootConnection _))
      fun reason => ?_
    cases reason <;> exact .refl _

theorem queryAs_hidden (key : Key) (query : Value) :
    (stage.queryAs key query).run.Indistinct (stage.hidden.queryAs key.hidden query).run :=
  .attempt_bind (.connect (stage.connection key)) fun _ => .query (stage.connection key) query

theorem expectResults_hidden (key : Key) (query : Value) :
    (stage.expectResults key query).run.Indistinct
      (stage.hidden.expectResults key.hidden query).run :=
  .attempt_bind (.attempt_lift (stage.queryAs_hidden key query)) fun _ => .refl _

theorem expectNoResults_hidden (key : Key) (query : Value) :
    (stage.expectNoResults key query).run.Indistinct
      (stage.hidden.expectNoResults key.hidden query).run :=
  .attempt_bind (.attempt_lift (stage.queryAs_hidden key query)) fun _ => .refl _

theorem runScoped_hidden (phase : Phase) (key : Key) (transaction : Transaction) :
    (stage.runScoped phase key transaction).run.Indistinct
      (stage.hidden.runScoped phase key.hidden transaction).run := by
  refine .attempt_bind (.attempt_lift ?_) fun opened => ?_
  · exact .attempt_bind (.connect stage.rootConnection) fun _ => .connect (stage.connection key)
  · cases opened with
    | error error => exact .refl _
    | ok opened =>
      exact .attempt_bind (stage.monitor.check_hidden ⟨stage.rootConnection,stage.connection key,
        transaction.toValue,phase.expectsSuccess⟩) fun _ => .refl _

/-- Keys without their secrets go in pairs with the same entries. -/
theorem forM_zip_hidden {ε α : Type} {first second : Key × α → Attempt ε Unit}
    (each : ∀ key entry, (first (key,entry)).run.Indistinct (second (key.hidden,entry)).run)
    (keys : List Key) (entries : List α) :
    ((keys.zip entries).forM first).run.Indistinct
      (((keys.map Key.hidden).zip entries).forM second).run := by
  induction keys generalizing entries with
  | nil => exact .refl _
  | cons key keys ih =>
    cases entries with
    | nil => exact .refl _
    | cons entry entries => exact .attempt_bind (each key entry) fun _ => ih entries

theorem forM_privileged_hidden (phase : Phase) (transaction : Option Transaction) :
    (transaction.forM (stage.runPrivileged phase)).run.Indistinct
      (transaction.forM (stage.hidden.runPrivileged phase)).run := by
  cases transaction with
  | none => exact .refl _
  | some transaction => exact stage.runPrivileged_hidden phase transaction

theorem run_hidden (plan : ScenarioPlan) :
    (stage.run plan).run.Indistinct (stage.hidden.run plan.hidden).run := by
  refine .attempt_bind (.refl _) fun _ => ?_
  refine .attempt_bind (stage.forM_privileged_hidden .prepare plan.prepare) fun _ => ?_
  refine .attempt_bind (forM_zip_hidden stage.expectResults_hidden _ _) fun _ => ?_
  refine .attempt_bind (forM_zip_hidden stage.expectNoResults_hidden _ _) fun _ => ?_
  refine .attempt_bind (forM_zip_hidden (stage.runScoped_hidden .yesTransaction) _ _) fun _ => ?_
  refine .attempt_bind (forM_zip_hidden (stage.runScoped_hidden .noTransaction) _ _) fun _ => ?_
  refine .attempt_bind (stage.forM_privileged_hidden .cleanup plan.clean) fun _ => ?_
  exact .refl _

end ScenarioStage

namespace Rehearsal

variable (rehearsal : Rehearsal)

theorem applyArtifact_hidden (connection : Connection) (stage : String) (artifact : Artifact) :
    (rehearsal.applyArtifact connection stage artifact).run.Indistinct
      (rehearsal.hidden.applyArtifact connection.hidden stage artifact).run := by
  unfold applyArtifact
  split
  · exact .refl _
  · refine .attempt_bind (.attempt_lift
      (ScenarioStage.submitAndWait_hidden _ connection artifact.toValue)) fun reason => ?_
    cases reason <;> exact .refl _

theorem setUpSchema_hidden (database : DatabaseId) (stage : String) (artifacts : List Artifact) :
    (rehearsal.setUpSchema database stage artifacts).run.Indistinct
      (rehearsal.hidden.setUpSchema database stage artifacts).run := by
  refine .attempt_bind (.attempt_mapError _ (.connect ⟨database,rehearsal.rootKey⟩)) fun _ => ?_
  exact .attempt_forM (rehearsal.applyArtifact_hidden ⟨database,rehearsal.rootKey⟩ stage) artifacts

end Rehearsal

/-- Secrets are nowhere to be seen. Role tables that differ in the secrets of their keys alone are
refused for the same reason or read as the same sets of accounts. And whatever its rules and its
state, a ledger in memory gives a scenario the same result, with the same notices and the same
ledger after it, whatever the secrets of the root key and of the keys of the plan, and it does so
when a schema is set up. -/
theorem secrets_unseen {first second : Value} (tables : blankTable first = blankTable second)
    {stage otherStage : ScenarioStage} (stages : stage.hidden = otherStage.hidden)
    {plan otherPlan : ScenarioPlan} (plans : plan.hidden = otherPlan.hidden)
    {rehearsal otherRehearsal : Rehearsal} (rehearsals : rehearsal.hidden = otherRehearsal.hidden) :
    (∀ (scenario : String) (path : Path),
      (RoleSets.ofValue scenario path first).map RoleSets.hidden =
        (RoleSets.ofValue scenario path second).map RoleSets.hidden) ∧
    ∀ (rules : LedgerRules) (world : World InMemoryLedger),
      rules.surroundings.play (stage.run plan).run world =
        rules.surroundings.play (otherStage.run otherPlan).run world ∧
      ∀ (database : DatabaseId) (name : String) (artifacts : List Artifact),
        rules.surroundings.play (rehearsal.setUpSchema database name artifacts).run world =
          rules.surroundings.play
            (otherRehearsal.setUpSchema database name artifacts).run world := by
  refine ⟨fun scenario path => ?_,fun rules world => ⟨?_,fun database name artifacts => ?_⟩⟩
  · rw [← RoleSets.ofValue_hidden,← RoleSets.ofValue_hidden,tables]
  · have alike := (stage.run_hidden plan).trans
      (stages ▸ plans ▸ (otherStage.run_hidden otherPlan).symm)
    exact alike rules world
  · have alike := (rehearsal.setUpSchema_hidden database name artifacts).trans
      (rehearsals ▸ (otherRehearsal.setUpSchema_hidden database name artifacts).symm)
    exact alike rules world

/-- A table with a key that is written as an object and one that is written as a list. -/
def twoKeys (ann ben : String) : Value :=
  .object [("keys",.list
      [.object [("account-id",.string "ann"),("private",.string ann)],
        .list [.string ben,.string "ben"]]),
    ("tno",.ofNat 1),("yes",.list [.ofNat 0,.ofNat 0])]

/-- A plan with the keys of that table. -/
def twoKeysPlan (ann ben : String) : ScenarioPlan :=
  { name := "s",dir := ⟨"s"⟩,roles := ⟨[⟨ann,"ann"⟩,⟨ann,"ann"⟩],[],[],[⟨ben,"ben"⟩]⟩,
    prepare := none,yes := [.null,.null],no := [],tyes := [],tno := [[]],clean := some [] }

def rootedStage (secret : String) : ScenarioStage :=
  ⟨⟨"net/db"⟩,⟨secret,"root"⟩,⟨⟨.ofMillis 10,1,none⟩,[]⟩⟩

def rootedRehearsal (secret : String) : Rehearsal :=
  ⟨.empty,⟨""⟩,⟨"app",["base"]⟩,"net",⟨secret,"root"⟩,⟨.ofMillis 10,1,none⟩,[]⟩

theorem twoKeys_unseen :
    blankTable (twoKeys "a" "b") = blankTable (twoKeys "c" "") ∧
      (rootedStage "r").hidden = (rootedStage "q").hidden ∧
      (twoKeysPlan "a" "b").hidden = (twoKeysPlan "c" "").hidden ∧
      (rootedRehearsal "r").hidden = (rootedRehearsal "q").hidden ∧
      RoleSets.ofValue "s" ⟨roleFile⟩ (twoKeys "a" "b") = .ok (twoKeysPlan "a" "b").roles ∧
      RoleSets.ofValue "s" ⟨roleFile⟩ (twoKeys "c" "") = .ok (twoKeysPlan "c" "").roles ∧
      (twoKeysPlan "a" "b").roles ≠ (twoKeysPlan "c" "").roles ∧
      (twoKeysPlan "a" "b").roles.hidden = (twoKeysPlan "c" "").roles.hidden ∧
      ∀ (rules : LedgerRules) (world : World InMemoryLedger),
        rules.surroundings.play ((rootedStage "r").run (twoKeysPlan "a" "b")).run world =
          rules.surroundings.play ((rootedStage "q").run (twoKeysPlan "c" "")).run world := by
  have tables : blankTable (twoKeys "a" "b") = blankTable (twoKeys "c" "") := rfl
  have stages : (rootedStage "r").hidden = (rootedStage "q").hidden := rfl
  have plans : (twoKeysPlan "a" "b").hidden = (twoKeysPlan "c" "").hidden := rfl
  have rehearsals : (rootedRehearsal "r").hidden = (rootedRehearsal "q").hidden := rfl
  obtain ⟨read,runs⟩ := secrets_unseen tables stages plans rehearsals
  have first : RoleSets.ofValue "s" ⟨roleFile⟩ (twoKeys "a" "b") =
      .ok (twoKeysPlan "a" "b").roles := by rfl
  have second : RoleSets.ofValue "s" ⟨roleFile⟩ (twoKeys "c" "") =
      .ok (twoKeysPlan "c" "").roles := by rfl
  have same := read "s" ⟨roleFile⟩
  rw [first,second] at same
  exact ⟨tables,stages,plans,rehearsals,first,second,by decide,Except.ok.inj same,
    fun rules world => (runs rules world).1⟩

end LedgerRehearsal

import LedgerRehearsal.Proofs.Monitor.Stopping
import LedgerRehearsal.Proofs.Readiness
import LedgerRehearsal.Proofs.Rehearsal.Deploy

/-! Rehearsals that are stopped. A stop signal that is set for good ends every wait for a
transaction, wherever the run is. The wait for the ledger does not listen to it, so a run that is
stopped goes on sleeping until the ledger is well, and not after that. -/
namespace LedgerRehearsal

open Monitor

namespace Run

variable {α : Type} {run : Run α}

/-- Wherever the run is when the stop signal is set for good, it sleeps no more after that. -/
def Prompt (run : Run α) : Prop :=
  ∀ version past ahead result, Trace run (past ++ ahead) result → Held version past →
    Stopped version ahead → ∀ event ∈ ahead, Wakeful version event.1

theorem prompt_of_only (only : run.Only Effect.Instant) : run.Prompt := by
  intro version past ahead result trace held stopped ⟨effect,answer⟩ member
  have instant := only.of_mem trace (List.mem_append_right past member)
  cases effect with
  | sleep | rest => exact absurd instant id
  | _ => trivial

theorem closed_prompt : Closed fun _ run => run.Prompt where
  pure value := prompt_of_only (only_pure value)
  bind head tail := by
    intro version past ahead result trace held stopped
    obtain ⟨first,value,rest,begun,going,whole⟩ := (trace_bind _ _ _ _).mp trace
    rcases List.append_eq_append_iff.mp whole with ⟨between,rfl,rfl⟩ | ⟨between,rfl,rfl⟩
    · -- The signal is set in the first part, and the rest lies ahead as a whole.
      refine List.forall_mem_append.mpr ⟨?_,?_⟩
      · exact head version past between value begun held
          (stopped.of_subset (List.subset_append_left between rest))
      · exact tail value version [] rest result going ⟨nofun,nofun⟩
          (stopped.of_subset (List.subset_append_right between rest))
    · exact tail value version between ahead result going
        (held.of_subset (List.subset_append_right first between)) stopped

theorem prompt_ask (request : Request) : (ask request).Prompt :=
  prompt_of_only (only_perform trivial)

theorem prompt_note (severity : Severity) (message : String) (fields : List (String × String)) :
    (note severity message fields).Prompt :=
  prompt_of_only (only_perform trivial)

/-- The last part of a longer run is cut where the longer run is, or all of it lies ahead. -/
theorem Prompt.last (prompt : run.Prompt) {version : Nat} {front part past ahead : List Event}
    {result : α} (trace : Trace run part result) (whole : front ++ part = past ++ ahead)
    (held : Held version past) (stopped : Stopped version ahead) :
    ∀ event ∈ part, event ∈ ahead → Wakeful version event.1 := by
  intro event inside member
  rcases List.append_eq_append_iff.mp whole with ⟨begun,rfl,rfl⟩ | ⟨before,rfl,rfl⟩
  · exact prompt version begun ahead result trace
      (held.of_subset (List.subset_append_right front begun)) stopped event member
  · exact prompt version [] part result trace ⟨nofun,nofun⟩
      (stopped.of_subset (List.subset_append_right before part)) event inside

end Run

theorem talksTo_prompt {database : DatabaseId} : TalksTo database fun _ run => run.Prompt where
  toClosed := Run.closed_prompt
  note := Run.prompt_note
  ask {request} _ _ _ := Run.prompt_ask request

/-- A transaction that is stopped ends at once, and the other parts of the work never sleep. -/
theorem worksOn_prompt (database : DatabaseId) (monitor : Monitor) :
    WorksOn database monitor fun _ run => run.Prompt where
  toTalksTo := talksTo_prompt
  check _ _ _ _ _ _ trace held stopped := (check_underWay trace held stopped).2

/-- The reply of a ledger that is well. -/
def wellReply : Event := ⟨.ask .health,.ok ()⟩

theorem OnlyNotes.unwell {notes : List Event} (only : OnlyNotes notes) :
    ⟨.ask .health,.ok ()⟩ ∉ notes := by
  intro member
  obtain ⟨notice,same⟩ := only _ member
  cases same

section

variable {policy : PollPolicy} {started : Duration} {attempts fuel : Nat} {events : List Event}
  {result : Health}

/-- The wait for the ledger succeeds at the first reply that it is well, and is over then. -/
theorem awaitHealth_well
    (trace : Run.Trace (awaitHealth policy started attempts fuel) events result) :
    match result with
    | .error _ => wellReply ∉ events
    | .ok _ => ∃ failed notes, events = failed ++ wellReply :: notes ∧ wellReply ∉ failed ∧
        OnlyNotes notes := by
  induction fuel generalizing attempts events with
  | zero =>
    obtain ⟨rfl,rfl⟩ := (Run.trace_done _ _ _).mp trace
    exact List.not_mem_nil
  | succ fuel ih =>
    cases trace_awaitHealth trace with
    | @ready notes only => exact ⟨[],notes,rfl,List.not_mem_nil,only⟩
    | gaveUp only => simp [Health.givesUp,wellReply,only.unwell]
    | @again error notes _ time _ only _ _ goesOn =>
      have later := ih goesOn
      cases result with
      | error => simpa [wellReply,only.unwell] using later
      | ok =>
        obtain ⟨failed,last,rfl,unwell,ended⟩ := later
        refine ⟨⟨.ask .health,.error error⟩ ::
          (notes ++ ⟨.now,time⟩ :: ⟨.sleep policy.interval,()⟩ :: failed),last,by simp,?_,ended⟩
        simpa [wellReply,only.unwell] using unwell

end

namespace Rehearsal

variable {rehearsal : Rehearsal}

theorem prompt_testStage {accumulated : List Artifact} {plan : StagePlan} :
    (rehearsal.testStage accumulated plan).run.Prompt := by
  have closed := Run.closed_prompt
  have created (database : DatabaseId) := Run.prompt_ask (.createDatabase database)
  refine closed.attempt_bind (closed.attempt_lift ?_) fun suffix => ?_
  · exact Run.prompt_of_only (Run.only_perform trivial)
  refine closed.attempt_bind (closed.attempt_lift (Run.prompt_note _ _ _)) fun _ => ?_
  refine closed.attempt_bind (closed.attempt_mapError (created _)) fun _ => ?_
  exact holds_stageWork (worksOn_prompt (rehearsal.databaseOf plan.stage suffix) _)

theorem holds_deployWork {name : String} {artifacts : List Artifact}
    {holds : (α : Type) → Run α → Prop}
    (talks : TalksTo (DatabaseId.make rehearsal.network name) holds)
    (created : ∀ database, holds (Except LedgerError Unit) (Run.ask (.createDatabase database))) :
    holds (Except Failure StageReport) (rehearsal.deployWork name artifacts).run := by
  refine talks.attempt_bind (talks.attempt_mapError (created _)) fun _ => ?_
  refine talks.attempt_bind (holds_setUpSchema talks) fun _ => ?_
  exact talks.attempt_bind (talks.attempt_note _ _ _) fun _ => talks.attempt_pure _

/-- What lies ahead when the ledger is known to be well comes after the wait for it. -/
theorem ahead_of_well {first ahead early late : List Event}
    (whole : first ++ ahead = early ++ wellReply :: late) (unwell : wellReply ∉ early)
    (well : wellReply ∈ first) : ahead ⊆ late := by
  rcases List.append_eq_append_iff.mp whole with ⟨between,rfl,-⟩ | ⟨between,rfl,rest⟩
  · exact absurd (List.mem_append_left between well) unwell
  · cases between with
    | nil => exact absurd (by simpa using well) unwell
    | cons head between =>
      obtain ⟨-,rfl⟩ := List.cons.inj rest
      exact List.subset_append_right between ahead

/-- Once the ledger was well, a run that is stopped sleeps no more. -/
theorem wakeful_afterReading {α β : Type} {policy : PollPolicy} {source : Attempt Failure α}
    {work : α → Attempt Failure β} {version : Nat} {past before ahead : List Event}
    {result : Except Failure β}
    (silent : ∀ events result, Run.Trace source.run events result → OnlyNotes events)
    (prompt : ∀ read, (work read).run.Prompt)
    (trace : Run.Trace (afterReading policy source work).run (past ++ (before ++ ahead)) result)
    (held : Held version past) (stopped : Stopped version (before ++ ahead))
    (well : wellReply ∈ past ++ before) : ∀ event ∈ ahead, Wakeful version event.1 := by
  generalize whole : past ++ (before ++ ahead) = events at trace
  have cut : (past ++ before) ++ ahead = events := (List.append_assoc ..).trans whole
  have known : wellReply ∈ events := cut ▸ List.mem_append_left ahead well
  rcases trace_afterReading trace with
    ⟨failure,failed,-⟩ | ⟨reading,read,waiting,ready,rest,loaded,waited,rfl,working⟩
  · exact absurd known (silent _ _ failed).unwell
  have last : (reading ++ waiting) ++ rest = past ++ (before ++ ahead) :=
    (List.append_assoc ..).trans whole.symm
  have unread := (silent _ _ loaded).unwell
  obtain ⟨started,checking,rfl,awaited⟩ := (Run.trace_perform_bind .now _ _ _).mp waited
  have waits := awaitHealth_well awaited
  cases ready with
  | error error =>
    obtain ⟨rfl,-⟩ := working
    exact absurd (by simpa [wellReply,unread] using known) waits
  | ok =>
    -- The ledger was well at one check only, the last of the wait, so what lies ahead comes after it.
    obtain ⟨failed,notes,rfl,unwell,ended⟩ := waits
    have early : wellReply ∉ reading ++ ⟨.now,started⟩ :: failed := by
      simpa [wellReply,unread] using unwell
    have within : ahead ⊆ notes ++ rest := ahead_of_well (cut.trans (by simp)) early well
    intro event member
    rcases List.mem_append.mp (within member) with noted | worked
    · exact wakeful_notes ended event noted
    · exact (prompt read).last working last held stopped event worked
        (List.mem_append_right before member)

/-- A run during which the stop signal is set for good. By a later moment, after which some of its
events are still ahead, the ledger is known to be well. -/
structure StoppedAndWell (past before ahead : List Dated) (start sent middle final : Moment) :
    Prop where
  first : Unfolds (fun _ => True) (past ++ (before ++ ahead)) start (before ++ ahead) sent
  listening : sent.channel.isOpen = true
  between : Unfolds (· ≠ .set false) (before ++ ahead) (sent.deliver (.set true)) ahead middle
  rest : Unfolds (· ≠ .set false) ahead middle [] final
  well : wellReply ∈ (past ++ before).map Dated.event

section

variable {past before ahead : List Dated} {start sent middle final : Moment}

theorem StoppedAndWell.setForGood
    (both : StoppedAndWell past before ahead start sent middle final) :
    SetForGood past (before ++ ahead) start sent final :=
  ⟨both.first,both.listening,both.between.trans both.rest⟩

theorem StoppedAndWell.setSince
    (both : StoppedAndWell past before ahead start sent middle final) :
    SetSince sent.channel.version middle.channel :=
  (both.between.answered _ (kept_setSince _) both.setForGood.setSince).1

end

/-- As soon as it is stopped and the ledger is well, the run does not sleep any more and ends there
and then. -/
def EndsOnceWell (events : List Event) : Prop :=
  ∀ past before ahead start sent middle final,
    (past ++ (before ++ ahead)).map Dated.event = events →
    StoppedAndWell past before ahead start sent middle final →
      (∀ event ∈ ahead.map Dated.event, Wakeful sent.channel.version event.1) ∧
      final.now = middle.now

theorem ends_afterReading {α β : Type} {policy : PollPolicy} {source : Attempt Failure α}
    {work : α → Attempt Failure β} {events : List Event} {result : Except Failure β}
    (silent : ∀ events result, Run.Trace source.run events result → OnlyNotes events)
    (prompt : ∀ read, (work read).run.Prompt)
    (trace : Run.Trace (afterReading policy source work).run events result) :
    EndsOnceWell events := by
  intro past before ahead start sent middle final dates both
  have good := both.setForGood
  have stopped := good.stopped
  have well := both.well
  rw [List.map_append] at stopped well
  rw [List.map_append,List.map_append] at dates
  have wakeful := wakeful_afterReading silent prompt (dates ▸ trace) good.held stopped well
  exact ⟨wakeful,both.setSince.atOnce both.rest wakeful⟩

end Rehearsal

/-- The effect has nothing to do with the stop signal. -/
def Effect.Unheeding : Effect → Prop
  | stopRequested | rest .. => False
  | _ => True

/-- The same world, with a stop signal that nobody uses. -/
def World.unsignalled {σ : Type} (world : World σ) : World σ :=
  { world with timeline := ⟨world.timeline.now,.initial,[]⟩ }

/-- Against every ledger the run does the same things, with the same result, and takes the same time
as if nobody used the stop signal. -/
def Run.Unheeding {α : Type} (run : Run α) : Prop :=
  ∀ (σ : Type) (surroundings : Surroundings σ) (world : World σ),
    surroundings.history run world.unsignalled = surroundings.history run world ∧
    surroundings.play run world.unsignalled =
      ((surroundings.play run world).1,(surroundings.play run world).2.unsignalled)

theorem Surroundings.answer_unsignalled {σ : Type} (surroundings : Surroundings σ)
    {effect : Effect} (unheeding : effect.Unheeding) (world : World σ) :
    surroundings.answer effect world.unsignalled =
      ((surroundings.answer effect world).1,(surroundings.answer effect world).2.unsignalled) := by
  cases effect with
  | stopRequested | rest => exact absurd unheeding id
  | _ => rfl

theorem Run.unheeding_of_only {α : Type} {run : Run α} (only : run.Only Effect.Unheeding) :
    run.Unheeding := by
  intro σ surroundings world
  induction only generalizing world with
  | done value => exact ⟨rfl,rfl⟩
  | @act effect next unheeding _ ih =>
    have answered := surroundings.answer_unsignalled unheeding world
    obtain ⟨later,played⟩ :=
      ih (surroundings.answer effect world).1 (surroundings.answer effect world).2
    constructor
    · rw [Surroundings.history,Run.history,answered]
      exact congrArg (List.cons _) later
    · rw [Surroundings.play,Run.play,answered]
      exact played

theorem unheeding_of_checks {effect : Effect} (checks : Rehearsal.Checks effect) :
    effect.Unheeding := by
  cases effect with
  | stopRequested | rest => exact checks
  | _ => trivial

theorem only_waitUntilReady_unheeding {policy : PollPolicy} :
    (waitUntilReady policy).run.Only Effect.Unheeding :=
  Rehearsal.only_waitUntilReady.imp fun _ => unheeding_of_checks

namespace Rehearsal

variable {rehearsal : Rehearsal}

theorem only_deploy_unheeding [Diagnostics] {name : String} :
    (rehearsal.deploy name).run.Only Effect.Unheeding := by
  have closed := Run.closed_only Effect.Unheeding
  rw [deploy_eq_afterReading]
  refine closed.attempt_bind (only_compileTarget _ fun _ => trivial) fun artifacts => ?_
  refine closed.attempt_bind (closed.attempt_mapError only_waitUntilReady_unheeding) fun _ => ?_
  exact holds_deployWork { closed with
    note := fun _ _ _ => Run.only_perform trivial
    ask := fun _ _ => Run.only_perform trivial } fun _ => Run.only_perform trivial

/-- Once the ledger is known to be well, a test or a deployment that is stopped sleeps no more,
whatever it is waiting for. It does not notice the stop signal while it waits for the ledger, and
thus a deployment never notices it. -/
theorem rehearsal_stops [Diagnostics] (rehearsal : Rehearsal) :
    (∀ events result, Run.Trace rehearsal.test.run events result → EndsOnceWell events) ∧
    (∀ name events result, Run.Trace (rehearsal.deploy name).run events result →
      EndsOnceWell events) ∧
    (waitUntilReady rehearsal.policy).run.Unheeding ∧
    ∀ name, (rehearsal.deploy name).run.Unheeding := by
  refine ⟨fun events result trace => ?_,fun name events result trace => ?_,?_,fun name => ?_⟩
  · rw [test_eq_afterReading] at trace
    refine ends_afterReading (fun _ _ => only_load_notes) (fun read => ?_) trace
    exact Run.closed_prompt.attempt_mapM fun step => prompt_testStage
  · rw [deploy_eq_afterReading] at trace
    refine ends_afterReading (fun _ _ => onlyNotes_of_only only_compileTarget) (fun artifacts => ?_)
      trace
    exact holds_deployWork talksTo_prompt fun _ => Run.prompt_ask _
  · exact Run.unheeding_of_only only_waitUntilReady_unheeding
  · exact Run.unheeding_of_only only_deploy_unheeding

/-- A target of one stage, with a scenario of one transaction that has to be carried out. -/
def watchedWrite : Rehearsal where
  files := ⟨[(["base"],.directory),
    (["base","main.json"],.text "[]"),
    (["base","test.json"],.text "[\"t\"]"),
    (["base","t"],.directory),
    (["base","t","user.json"],
      .text "\x7b\"keys\":[\x7b\"private\":\"p\",\"account-id\":\"ann\"\x7d],\"tyes\":0\x7d"),
    (["base","t","tyes.json"],.text "[[]]")],[],none⟩
  root := ⟨"."⟩
  target := ⟨"app",["base"]⟩
  network := "net"
  rootKey := ⟨"k","root"⟩
  policy := ⟨.ofMillis 100,10,none⟩
  markers := ["error"]

/-- The root key and the key of its scenario in the database of its stage. -/
def rootInBase : Connection := ⟨⟨"net/base-1"⟩,⟨"k","root"⟩⟩

def annInBase : Connection := ⟨⟨"net/base-1"⟩,⟨"p","ann"⟩⟩

def noted (time : Duration) (severity : Severity) (message : String)
    (fields : List (String × String)) : Dated := ⟨time,.note ⟨severity,message,fields⟩,()⟩

def compiling : List Dated :=
  [noted ⟨0⟩ .debug "Expanded stage templates" [("stage","base"),("operations","0")],
    noted ⟨0⟩ .info "Assembled build target" [("build_target","app"),("stages","1")]]

def loading : List Dated :=
  [noted ⟨0⟩ .debug "Loaded scenarios" [("stage","base"),("scenarios","1")]]

theorem compiling_unfolds (later : List Dated) : Unfolds (fun _ => True) (compiling ++ later)
    ⟨⟨0⟩,.initial,⟨0⟩⟩ later ⟨⟨0⟩,.initial,⟨0⟩⟩ :=
  .answer rfl trivial (.answer rfl trivial .here)

theorem loading_unfolds (later : List Dated) : Unfolds (fun _ => True)
    (compiling ++ loading ++ later) ⟨⟨0⟩,.initial,⟨0⟩⟩ later ⟨⟨0⟩,.initial,⟨0⟩⟩ :=
  (compiling_unfolds (loading ++ later)).trans (.answer rfl trivial .here)

/-- The first health check fails. -/
def unwell : List Dated :=
  [⟨⟨0⟩,.now,⟨0⟩⟩,⟨⟨0⟩,.ask .health,.error (.transport "refused")⟩,⟨⟨0⟩,.now,⟨0⟩⟩]

/-- The second one succeeds. -/
def recovered : List Dated :=
  [⟨.ofMillis 100,.sleep (.ofMillis 100),()⟩,⟨.ofMillis 100,.ask .health,.ok ()⟩]

/-- The stop signal is set after the first check, and the second one is made all the same. -/
theorem recovered_stopped {reading later : List Dated} {final : Moment}
    (reads : ∀ later, Unfolds (fun _ => True) (reading ++ later) ⟨⟨0⟩,.initial,⟨0⟩⟩ later
      ⟨⟨0⟩,.initial,⟨0⟩⟩)
    (rest : Unfolds (· ≠ .set false) later ⟨.ofMillis 100,⟨true,1,true⟩,⟨0⟩⟩ [] final) :
    StoppedAndWell (reading ++ unwell) recovered later ⟨⟨0⟩,.initial,⟨0⟩⟩ ⟨⟨0⟩,.initial,⟨0⟩⟩
      ⟨.ofMillis 100,⟨true,1,true⟩,⟨0⟩⟩ final where
  first := by
    rw [List.append_assoc]
    exact (reads _).trans (.answer rfl rfl (.answer rfl trivial (.answer rfl rfl .here)))
  listening := rfl
  between := .pass (.ofMillis 100) (Nat.le_refl _) (.answer rfl rfl (.answer rfl trivial .here))
  rest := rest
  well := by simp [recovered,wellReply]

/-- What a test does then: its first transaction is submitted and nothing else. -/
def cancelledWrite : List Dated :=
  let time := .ofMillis 100
  [noted time .info "Ledger is ready" [("attempts","1")],⟨time,.freshSuffix,"1"⟩,
    noted time .info "Testing stage" [("stage","base"),("database","net/base-1")],
    ⟨time,.ask (.createDatabase ⟨"net/base-1"⟩),.ok ()⟩,
    ⟨time,.ask (.connect rootInBase),.ok ()⟩,
    noted time .debug "Skipping empty stage transaction"
      [("stage","base"),("source_stage","base")],
    noted time .info "Running scenario" [("scenario","t"),("database","net/base-1")],
    ⟨time,.ask (.connect rootInBase),.ok ()⟩,⟨time,.ask (.connect annInBase),.ok ()⟩,
    ⟨time,.ask (.submit annInBase (.list [])),.ok "tx"⟩,
    noted time .debug "Submitted transaction" [("tx_id","tx"),("identity","ann")],
    ⟨time,.now,time⟩,⟨time,.stopRequested,true⟩]

theorem trace_cancelledWrite : Run.Trace watchedWrite.test.run
    (((compiling ++ loading ++ unwell) ++ (recovered ++ cancelledWrite)).map Dated.event)
    (.error (.scenario (.cancelled "tx"))) := by
  repeat constructor

theorem cancelledWrite_unfolds : Unfolds (· ≠ .set false) cancelledWrite
    ⟨.ofMillis 100,⟨true,1,true⟩,⟨0⟩⟩ [] ⟨.ofMillis 100,⟨true,1,true⟩,⟨0⟩⟩ :=
  .answer rfl trivial (.answer rfl trivial (.answer rfl trivial (.answer rfl trivial
    (.answer rfl trivial (.answer rfl trivial (.answer rfl trivial (.answer rfl trivial
      (.answer rfl trivial (.answer rfl trivial (.answer rfl trivial (.answer rfl rfl
        (.answer rfl rfl .here))))))))))))

/-- It slept for the ledger, but not for the transaction. -/
theorem cancelledWrite_stops :
    (∀ event ∈ cancelledWrite.map Dated.event, Wakeful 0 event.1) ∧
      (watchedWrite.deploy "live").run.Unheeding := by
  obtain ⟨tested,-,-,deployed⟩ := rehearsal_stops watchedWrite
  exact ⟨(tested _ _ trace_cancelledWrite _ _ _ _ _ _ _ rfl
    (recovered_stopped loading_unfolds cancelledWrite_unfolds)).1,deployed "live"⟩

/-- A run that never sleeps once it is stopped. -/
def SleepsNoMore (events : List Event) : Prop :=
  ∀ past ahead start sent final, (past ++ ahead).map Dated.event = events →
    SetForGood past ahead start sent final →
      ∀ event ∈ ahead.map Dated.event, Wakeful sent.channel.version event.1

theorem StoppedAndWell.sleepsOn {past before ahead : List Dated} {start sent middle final : Moment}
    (both : StoppedAndWell past before ahead start sent middle final) {time length : Duration}
    (sleeps : ⟨time,.sleep length,()⟩ ∈ before) :
    ¬SleepsNoMore ((past ++ (before ++ ahead)).map Dated.event) := fun wakeful =>
  wakeful _ _ _ _ _ rfl both.setForGood ⟨.sleep length,()⟩
    (List.mem_map_of_mem (List.mem_append_left ahead sleeps))

/-- What a deployment does when its database is refused. -/
def refusedDatabase : List Dated :=
  [noted (.ofMillis 100) .info "Ledger is ready" [("attempts","1")],
    ⟨.ofMillis 100,.ask (.createDatabase ⟨"net/live"⟩),.error (.transport "refused")⟩]

/-- A test and a deployment that are stopped before the ledger is well both sleep after that. -/
theorem recovered_sleepsOn :
    (∃ events result, Run.Trace watchedWrite.test.run events result ∧ ¬SleepsNoMore events) ∧
    ∃ events result, Run.Trace (watchedWrite.deploy "live").run events result ∧
      ¬SleepsNoMore events := by
  have refused : Run.Trace (watchedWrite.deploy "live").run
      (((compiling ++ unwell) ++ (recovered ++ refusedDatabase)).map Dated.event)
      (.error (.ledger (.transport "refused"))) := by
    repeat constructor
  have tested :=
    (recovered_stopped loading_unfolds cancelledWrite_unfolds).sleepsOn List.mem_cons_self
  have rest : Unfolds (· ≠ .set false) refusedDatabase ⟨.ofMillis 100,⟨true,1,true⟩,⟨0⟩⟩ []
      ⟨.ofMillis 100,⟨true,1,true⟩,⟨0⟩⟩ := .answer rfl trivial (.answer rfl trivial .here)
  have deployed := (recovered_stopped compiling_unfolds rest).sleepsOn List.mem_cons_self
  exact ⟨⟨_,_,trace_cancelledWrite,tested⟩,_,_,refused,deployed⟩

end Rehearsal

end LedgerRehearsal

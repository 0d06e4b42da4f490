import LedgerRehearsal.Proofs.Monitor.LastWord
import LedgerRehearsal.Proofs.Monitor.Pace
import LedgerRehearsal.Proofs.Timeline

/-! Monitored transactions that are stopped. Wherever a wait is when the stop signal is set, it makes
no further round and does not rest any more: it ends with the round that is under way. -/
namespace LedgerRehearsal

open Json

namespace Monitor

variable {monitor : Monitor} {trial : Trial} {tx : TxId} {version : Nat}

/-- What a run was answered while somebody held the stop signal who had set it `version` times at
the end. -/
structure Held (version : Nat) (events : List Event) : Prop where
  counted : ∀ length seen later, ⟨.rest length seen,.changed later⟩ ∈ events → later ≤ version
  unclosed : ∀ length seen, ⟨.rest length seen,.closed⟩ ∉ events

/-- What a run is answered from when the stop signal is set for good, after `version` other
settings. -/
structure Stopped (version : Nat) (events : List Event) : Prop where
  requested : ⟨.stopRequested,false⟩ ∉ events
  unclosed : ∀ length seen, ⟨.rest length seen,.closed⟩ ∈ events → version < seen

theorem Held.of_subset {events part : List Event} (held : Held version events)
    (within : part ⊆ events) : Held version part :=
  ⟨fun length seen later member => held.counted length seen later (within member),
    fun length seen member => held.unclosed length seen (within member)⟩

theorem Stopped.of_subset {events part : List Event} (stopped : Stopped version events)
    (within : part ⊆ events) : Stopped version part :=
  ⟨fun member => stopped.requested (within member),
    fun length seen member => stopped.unclosed length seen (within member)⟩

/-- No time passes at the effect once the stop signal was set more than `version` times. -/
def Wakeful (version : Nat) : Effect → Prop
  | .sleep _ => False
  | .rest _ seen => seen ≤ version
  | _ => True

theorem wakeful_notes {notes : List Event} (only : OnlyNotes notes) :
    ∀ event ∈ notes, Wakeful version event.1 := by
  intro event member
  obtain ⟨notice,rfl⟩ := only event member
  trivial

theorem Looked.wakeful {lookups : List Event} {result : Option Verdict}
    (looked : Looked monitor trial tx lookups result) :
    ∀ event ∈ lookups, Wakeful version event.1 := by
  cases looked <;> simp [Wakeful]

theorem Rested.wakeful {policy : PollPolicy} {seen : Nat} {events : List Event}
    {result : AfterRest} (rested : Rested policy (some seen) events result)
    (heard : seen ≤ version) : ∀ event ∈ events, Wakeful version event.1 := by
  cases rested <;> simp [Wakeful,heard]

/-- Every round of a trial had begun at a moment, or was about to: the first of the events ahead is
the one that was under way. -/
def RoundsBegun (trial : Trial) (past ahead : List Event) : Prop :=
  (roundsOf trial (past ++ ahead.take 1)).length = (roundsOf trial (past ++ ahead)).length

theorem lookupsOf_begun (past ahead : List Event) :
    lookupsOf (past ++ ahead) = lookupsOf (past ++ ahead.take 1) ++ lookupsOf (ahead.drop 1) := by
  rw [← lookupsOf_append,List.append_assoc,List.take_append_drop]

theorem roundsBegun_of_roundless {past ahead : List Event}
    (roundless : lookupsOf (past ++ ahead) = []) : RoundsBegun trial past ahead := by
  have begun : lookupsOf (past ++ ahead.take 1) = [] := by
    rw [lookupsOf_begun] at roundless
    exact (List.append_eq_nil_iff.mp roundless).1
  rw [RoundsBegun,roundsOf_silent begun,roundsOf_silent roundless]

/-- A round has begun as soon as the first of its lookups is made. -/
theorem Looked.begins {lookups : List Event} {result : Option Verdict}
    (looked : Looked monitor trial tx lookups result) {begun rest : List Lookup}
    (parts : lookupsOf lookups = begun ++ rest) (some : begun ≠ []) :
    (RoundReplies.ofLookups trial begun).length = 1 := by
  have first (privileged : Found) {more : List Lookup}
      (parts : ⟨trial.privileged,privileged⟩ :: more = begun ++ rest) :
      ∃ later, begun = ⟨trial.privileged,privileged⟩ :: later ∧ more = later ++ rest :=
    (List.cons_eq_append_iff.mp parts).resolve_left fun nothing => some nothing.1
  cases looked with
  | privilegedFailed error =>
    obtain ⟨later,rfl,none⟩ := first _ parts
    rw [(List.append_eq_nil_iff.mp none.symm).1]
    simp
  | submitterFailed | pending | judged =>
    obtain ⟨later,rfl,own⟩ := first _ parts
    rcases List.singleton_eq_append_iff.mp own with ⟨rfl,-⟩ | ⟨rfl,-⟩ <;> simp

/-- A round that no other one follows had begun when the stop signal was set: the question whether
to stop was answered before that. -/
theorem Looked.begun {past ahead lookups rest : List Event} {result : Option Verdict}
    (looked : Looked monitor trial tx lookups result)
    (whole : past ++ ahead = ⟨.stopRequested,false⟩ :: (lookups ++ rest))
    (silent : lookupsOf rest = []) (stopped : Stopped version ahead) :
    RoundsBegun trial past ahead := by
  have single := looked.single silent
  rw [← whole] at single
  obtain ⟨found,tail,rfl⟩ := looked.head
  have begun : lookupsOf (past ++ ahead.take 1) ≠ [] := by
    rcases past with _ | ⟨first,_ | ⟨second,past⟩⟩ <;>
      simp only [List.nil_append,List.cons_append,List.cons.injEq] at whole
    · exact absurd (whole ▸ List.mem_cons_self) stopped.requested
    · obtain ⟨rfl,rfl⟩ := whole
      simp
    · obtain ⟨rfl,rfl,-⟩ := whole
      simp
  have parts := lookupsOf_begun past ahead
  rw [whole,lookupsOf_other _ _ _ (by simp),lookupsOf_append,silent,List.append_nil] at parts
  rw [RoundsBegun,single]
  exact looked.begins parts begun

/-- A wait that is asked to stop before its next round does not make it. -/
theorem poll_requested {started : Duration} {attempts fuel : Nat} {seen : Option Nat}
    {events : List Event} {verdict : Verdict}
    (trace : Run.Trace (poll monitor trial tx started attempts seen fuel) events verdict)
    (more : fuel ≠ 0) (requested : ⟨.stopRequested,false⟩ ∉ events) :
    events = [⟨.stopRequested,true⟩] ∧ verdict = .error (.cancelled tx) := by
  obtain ⟨fuel,rfl⟩ := Nat.exists_eq_succ_of_ne_zero more
  cases trace_poll trace with
  | stopped => exact ⟨rfl,rfl⟩
  | decided | timedOut | stoppedAtRest | again => exact absurd List.mem_cons_self requested

/-- A wait that is asked to stop asks for nothing more and does not sleep. -/
theorem poll_silenced (version : Nat) {started : Duration} {attempts fuel : Nat} {seen : Option Nat}
    {events : List Event} {verdict : Verdict}
    (trace : Run.Trace (poll monitor trial tx started attempts seen fuel) events verdict)
    (requested : ⟨.stopRequested,false⟩ ∉ events) :
    exchanges events = [] ∧ ∀ event ∈ events, Wakeful version event.1 := by
  cases fuel with
  | zero =>
    obtain ⟨aside,-⟩ := trace_poll_zero trace
    exact ⟨aside.exchanges_eq,wakeful_notes aside.notes⟩
  | succ fuel =>
    obtain ⟨rfl,-⟩ := poll_requested trace (Nat.succ_ne_zero fuel) requested
    exact ⟨rfl,by simp [Wakeful]⟩

/-- The round that is under way when the stop signal is set is the last one, and no time passes
after that. -/
theorem poll_underWay {started : Duration} {attempts fuel seen : Nat} {past ahead : List Event}
    {verdict : Verdict}
    (trace : Run.Trace (poll monitor trial tx started attempts (some seen) fuel) (past ++ ahead)
      verdict)
    (heard : seen ≤ version) (held : Held version past) (stopped : Stopped version ahead) :
    RoundsBegun trial past ahead ∧ ∀ event ∈ ahead, Wakeful version event.1 := by
  induction fuel generalizing attempts seen past with
  | zero =>
    obtain ⟨aside,-⟩ := trace_poll_zero trace
    exact ⟨roundsBegun_of_roundless (lookupsOf_silent aside.exchanges_eq),fun event member =>
      wakeful_notes aside.notes event (List.mem_append_right past member)⟩
  | succ fuel ih =>
    generalize whole : past ++ ahead = events at trace
    -- Everything of an iteration is wakeful, so nothing has to be told apart in the last one.
    have within (wakeful : ∀ event ∈ events, Wakeful version event.1) :
        ∀ event ∈ ahead, Wakeful version event.1 := by
      rw [← whole,List.forall_mem_append] at wakeful
      exact wakeful.2
    cases trace_poll trace with
    | stopped =>
      exact ⟨roundsBegun_of_roundless (by rw [whole]; rfl),within (by simp [Wakeful])⟩
    | decided looked notes =>
      refine ⟨looked.begun whole (lookupsOf_silent notes.exchanges_eq) stopped,within ?_⟩
      simp only [List.forall_mem_cons,List.forall_mem_append]
      exact ⟨trivial,looked.wakeful,wakeful_notes notes⟩
    | @timedOut _ _ _ time looked notes expired gaveUp =>
      refine ⟨looked.begun whole (lookupsOf_between notes time gaveUp.exchanges_eq) stopped,
        within ?_⟩
      simp only [List.forall_mem_cons,List.forall_mem_append]
      exact ⟨trivial,looked.wakeful,wakeful_notes notes,trivial,wakeful_notes gaveUp⟩
    | @stoppedAtRest _ _ _ time looked notes early rested =>
      refine ⟨looked.begun whole (lookupsOf_between notes time rested.exchanges_eq) stopped,
        within ?_⟩
      simp only [List.forall_mem_cons,List.forall_mem_append]
      exact ⟨trivial,looked.wakeful,wakeful_notes notes,trivial,rested.wakeful heard⟩
    | @again lookups reports resting later time next _ looked notes early rested goesOn =>
      obtain ⟨replies,-,-,rounds⟩ := roundsOf_again looked notes time rested
      have parts : past ++ ahead =
          (⟨.stopRequested,false⟩ :: (lookups ++ (reports ++ ⟨.now,time⟩ :: resting))) ++ later := by
        simp [whole]
      rcases List.append_eq_append_iff.mp parts with ⟨under,iteration,rfl⟩ | ⟨between,rfl,rfl⟩
      · -- The stop signal was set during this iteration.
        obtain ⟨silent,quick⟩ := poll_silenced version goesOn
          fun member => stopped.requested (List.mem_append_right under member)
        refine ⟨looked.begun whole ?_ stopped,within ?_⟩
        · refine lookupsOf_between notes time ?_
          rw [exchanges_append,rested.exchanges_eq,silent,List.nil_append]
        · simp only [List.forall_mem_cons,List.forall_mem_append]
          exact ⟨trivial,looked.wakeful,wakeful_notes notes,trivial,rested.wakeful heard,quick⟩
      · -- The stop signal was not set before the next iteration.
        obtain ⟨next,rfl,heard⟩ : ∃ heard, next = some heard ∧ heard ≤ version := by
          cases rested with
          | timeUp => exact ⟨seen,rfl,heard⟩
          | closed => exact absurd (by simp) (held.unclosed monitor.policy.interval seen)
          | changed _ later =>
            exact ⟨later,rfl,held.counted monitor.policy.interval seen later (by simp)⟩
        obtain ⟨begun,wakeful⟩ := ih goesOn heard (held.of_subset (List.subset_append_right _ _))
        refine ⟨?_,wakeful⟩
        simp only [RoundsBegun,List.cons_append,List.append_assoc,rounds,List.length_cons]
        exact congrArg (· + 1) begun

/-- A wait is cancelled by the stop signal alone. -/
theorem poll_unrequested {started : Duration} {attempts fuel : Nat} {seen : Option Nat}
    {events : List Event} {verdict : Verdict}
    (trace : Run.Trace (poll monitor trial tx started attempts seen fuel) events verdict)
    (unrequested : ⟨.stopRequested,true⟩ ∉ events) (id : TxId) :
    verdict ≠ .error (.cancelled id) := by
  induction fuel generalizing attempts seen events with
  | zero =>
    rw [(trace_poll_zero trace).2]
    simp
  | succ fuel ih =>
    cases trace_poll trace with
    | stopped => exact absurd List.mem_cons_self unrequested
    | decided looked notes =>
      obtain ⟨replies,-,-,-,decides⟩ := looked.last (lookupsOf_silent notes.exchanges_eq)
      exact (RoundReplies.judged_of_verdict? decides).1 id
    | timedOut => simp
    | stoppedAtRest looked notes early rested =>
      cases rested
      exact absurd (by simp) unrequested
    | again looked notes early rested goesOn =>
      exact ih goesOn fun member => unrequested (by simp [member])

/-- A transaction is not looked up before it is submitted and the clock is read. -/
theorem check_underWay {past ahead : List Event} {verdict : Verdict}
    (trace : Run.Trace (check monitor trial) (past ++ ahead) verdict) (held : Held version past)
    (stopped : Stopped version ahead) :
    RoundsBegun trial past ahead ∧ ∀ event ∈ ahead, Wakeful version event.1 := by
  generalize whole : past ++ ahead = events at trace
  have silent_wakeful (silent : lookupsOf events = [])
      (wakeful : ∀ event ∈ events, Wakeful version event.1) :
      RoundsBegun trial past ahead ∧ ∀ event ∈ ahead, Wakeful version event.1 := by
    rw [← whole] at silent wakeful
    exact ⟨roundsBegun_of_roundless silent,(List.forall_mem_append.mp wakeful).2⟩
  rcases trace_check trace with ⟨error,notes,rfl,aside,-⟩ | ⟨tx,started,later,rfl,polled⟩
  · refine silent_wakeful ?_ (List.forall_mem_cons.mpr ⟨trivial,wakeful_notes aside.notes⟩)
    rw [lookupsOf_submit,lookupsOf_silent aside.exchanges_eq]
  · have early (within : later ⊆ ahead) :
        RoundsBegun trial past ahead ∧ ∀ event ∈ ahead, Wakeful version event.1 := by
      obtain ⟨silent,wakeful⟩ := poll_silenced version polled
        fun member => stopped.requested (within member)
      refine silent_wakeful ?_ ?_
      · rw [lookupsOf_submit,lookupsOf_other _ _ _ (by simp),lookupsOf_other _ _ _ (by simp),
          lookupsOf_silent silent]
      · simp only [List.forall_mem_cons]
        exact ⟨trivial,trivial,trivial,wakeful⟩
    rcases past with _ | ⟨first,_ | ⟨second,_ | ⟨third,past⟩⟩⟩ <;>
      simp only [List.nil_append,List.cons_append,List.cons.injEq] at whole
    · exact early fun event member => by simp [whole,member]
    · exact early fun event member => by simp [whole.2,member]
    · exact early fun event member => by simp [whole.2.2,member]
    · obtain ⟨rfl,rfl,rfl,rfl⟩ := whole
      obtain ⟨begun,wakeful⟩ := poll_underWay polled (Nat.zero_le version)
        (held.of_subset fun event member => by simp [member]) stopped
      refine ⟨?_,wakeful⟩
      simpa only [RoundsBegun,List.cons_append,roundsOf_submitted] using begun

theorem check_unrequested {events : List Event} {verdict : Verdict}
    (trace : Run.Trace (check monitor trial) events verdict)
    (unrequested : ⟨.stopRequested,true⟩ ∉ events) (id : TxId) :
    verdict ≠ .error (.cancelled id) := by
  rcases trace_check trace with ⟨error,notes,rfl,aside,rfl⟩ | ⟨tx,started,later,rfl,polled⟩
  · unfold Trial.refusal
    split <;> simp
  · exact poll_unrequested polled (fun member => unrequested (by simp [member])) id

/-- A run during which somebody sets the stop signal and never resets it. Anything else may have
been done with the signal before, and it may be dropped later. -/
structure SetForGood (past ahead : List Dated) (start sent final : Moment) : Prop where
  before : Unfolds (fun _ => True) (past ++ ahead) start ahead sent
  listening : sent.channel.isOpen = true
  after : Unfolds (· ≠ .set false) ahead (sent.deliver (.set true)) [] final

theorem SetForGood.held {past ahead : List Dated} {start sent final : Moment}
    (good : SetForGood past ahead start sent final) :
    Held sent.channel.version (past.map Dated.event) := by
  obtain ⟨-,past',same,answered⟩ :=
    good.before.answered (fun _ => True) (fun _ _ _ _ => trivial) trivial
  obtain rfl := List.append_cancel_right same
  constructor
  · intro length seen later member
    obtain ⟨⟨time,event⟩,member,rfl⟩ := List.mem_map.mp member
    obtain ⟨middle,-,after,answers⟩ := answered _ member
    obtain ⟨rfl,-⟩ := Channel.version_of_changed answers
    exact after.version
  · intro length seen member
    obtain ⟨⟨time,event⟩,member,rfl⟩ := List.mem_map.mp member
    obtain ⟨middle,-,after,answers⟩ := answered _ member
    have dropped := (Channel.seen_of_closed answers).2
    rw [after.dropped good.listening] at dropped
    contradiction

/-- What the stop signal is like once it was set for good after `version` other settings. -/
def SetSince (version : Nat) (channel : Channel) : Prop :=
  channel.value = true ∧ version < channel.version

theorem kept_setSince (version : Nat) : Kept (· ≠ .set false) (SetSince version) :=
  fun channel signal other set => ⟨Channel.deliver_value other set.1,
    Nat.lt_of_lt_of_le set.2 (channel.later_deliver signal).version⟩

theorem SetForGood.setSince {past ahead : List Dated} {start sent final : Moment}
    (good : SetForGood past ahead start sent final) :
    SetSince sent.channel.version (sent.deliver (.set true)).channel := by
  simp [SetSince,Moment.deliver,Channel.deliver,good.listening]

theorem SetForGood.stopped {past ahead : List Dated} {start sent final : Moment}
    (good : SetForGood past ahead start sent final) :
    Stopped sent.channel.version (ahead.map Dated.event) := by
  obtain ⟨-,past',same,answered⟩ :=
    good.after.answered _ (kept_setSince sent.channel.version) good.setSince
  obtain rfl : ahead = past' := by simpa using same
  constructor
  · intro member
    obtain ⟨⟨time,event⟩,member,rfl⟩ := List.mem_map.mp member
    obtain ⟨middle,set,-,answers⟩ := answered _ member
    have given : false = middle.channel.value := answers
    rw [set.1] at given
    contradiction
  · intro length seen member
    obtain ⟨⟨time,event⟩,member,rfl⟩ := List.mem_map.mp member
    obtain ⟨middle,set,-,answers⟩ := answered _ member
    exact (Channel.seen_of_closed answers).1 ▸ set.2

/-- No time passes any more where nothing sleeps. -/
theorem SetSince.atOnce {version : Nat} {ahead left : List Dated} {moment final : Moment}
    (set : SetSince version moment.channel)
    (after : Unfolds (· ≠ .set false) ahead moment left final)
    (wakeful : ∀ event ∈ ahead.map Dated.event, Wakeful version event.1) :
    final.now = moment.now := by
  refine after.now_eq _ (kept_setSince version) set ?_
  intro ⟨time,effect,answer⟩ member middle set length sleeps
  have quick : Wakeful version effect := wakeful _ (List.mem_map_of_mem member)
  cases effect with
  | sleep => exact quick
  | rest total seen =>
    obtain ⟨rfl,-⟩ := Channel.wake?_eq_none_iff.mp sleeps.1
    exact Nat.not_lt_of_le quick set.2
  | _ => exact sleeps

theorem SetForGood.atOnce {past ahead : List Dated} {start sent final : Moment}
    (good : SetForGood past ahead start sent final)
    (wakeful : ∀ event ∈ ahead.map Dated.event, Wakeful sent.channel.version event.1) :
    final.now = sent.now :=
  good.setSince.atOnce good.after wakeful

/-- A transaction whose run is stopped at any moment makes no further round and ends there and
then: with the verdict of its last round, or as timed out after it, and cancelled otherwise. If the
stop signal was set already, the transaction is submitted and nothing else. Without the stop signal
nothing is cancelled. -/
theorem check_stops {events : List Event} {verdict : Verdict}
    (trace : Run.Trace (check monitor trial) events verdict) :
    ∃ submission, trial.Conversed submission events ∧
      (∀ error, submission = .error error → verdict = trial.refusal none error) ∧
      (∀ past ahead start sent final, (past ++ ahead).map Dated.event = events →
        SetForGood past ahead start sent final →
          RoundsBegun trial (past.map Dated.event) (ahead.map Dated.event) ∧
          final.now = sent.now ∧
          ∀ tx, submission = .ok tx → (roundsOf trial events).length < maxAttempts →
            verdict = monitor.lastWord trial tx (roundsOf trial events).getLast?
              (roundsOf trial events).length (waitedIn events)) ∧
      (∀ dated start final tx, dated.map Dated.event = events → start.channel.value = true →
        Unfolds (· ≠ .set false) dated start [] final → submission = .ok tx →
          exchanges events = [⟨.submit trial.submitter trial.transaction,.ok tx⟩] ∧
          verdict = .error (.cancelled tx) ∧ final.now = start.now) ∧
      ∀ dated start final, dated.map Dated.event = events → start.channel.value = false →
        Unfolds (· ≠ .set true) dated start [] final → ∀ tx, verdict ≠ .error (.cancelled tx) := by
  have steady {value : Bool} {dated : List Dated} {start final : Moment}
      (dates : dated.map Dated.event = events) (given : start.channel.value = value)
      (unfolds : Unfolds (· ≠ .set !value) dated start [] final) :
      ⟨.stopRequested,!value⟩ ∉ events :=
    dates ▸ unfolds.requested_steady value given fun _ other => other
  obtain ⟨submission,conversed⟩ := check_conversed trace
  refine ⟨submission,conversed,?_,?_,?_,
    fun dated start final dates given unfolds => check_unrequested trace (steady dates given unfolds)⟩
  · rintro error rfl
    exact trace_refused trace conversed
  · intro past ahead start sent final dates good
    rw [List.map_append] at dates
    obtain ⟨begun,wakeful⟩ := check_underWay (dates ▸ trace) good.held good.stopped
    refine ⟨begun,good.atOnce wakeful,?_⟩
    rintro tx rfl counted
    exact check_lastWord trace conversed counted
  · rintro dated start final tx dates given unfolds rfl
    obtain ⟨started,later,rfl,polled⟩ := trace_taken trace conversed
    obtain ⟨rfl,rfl⟩ := poll_requested polled (by decide)
      fun member => steady dates given unfolds (by simp [member])
    refine ⟨rfl,rfl,unfolds.still ?_⟩
    rw [dates]
    simp [Effect.Instant]

/-- A transaction that has to be committed. -/
def wantedWrite : Trial :=
  ⟨⟨⟨"net/db"⟩,⟨"k","root"⟩⟩,⟨⟨"net/db"⟩,⟨"l","reader"⟩⟩,.list [],true⟩

def patient : Monitor := ⟨⟨.ofMillis 100,10,none⟩,["error"]⟩

/-- Its first round, all at the same time. -/
def firstRound : List Dated :=
  [⟨.ofMillis 0,.ask (.submit wantedWrite.submitter wantedWrite.transaction),.ok "tx"⟩,
    ⟨.ofMillis 0,.note (submittedNotice wantedWrite "tx"),()⟩,
    ⟨.ofMillis 0,.now,.ofMillis 0⟩,⟨.ofMillis 0,.stopRequested,false⟩,
    ⟨.ofMillis 0,.ask (.lookup wantedWrite.privileged "tx"),.ok []⟩,
    ⟨.ofMillis 0,.ask (.lookup wantedWrite.submitter "tx"),.ok []⟩,
    ⟨.ofMillis 0,.now,.ofMillis 0⟩]

/-- The rest after it, which is stopped before it is half over. -/
def stoppedRest : List Dated :=
  [⟨.ofMillis 45,.rest (.ofMillis 100) 0,.changed 1⟩,⟨.ofMillis 45,.stopRequested,true⟩]

theorem stoppedRest_setForGood : SetForGood firstRound stoppedRest
    ⟨.ofMillis 0,.initial,.ofMillis 0⟩ ⟨.ofMillis 45,.initial,.ofMillis 45⟩
    ⟨.ofMillis 45,⟨true,1,true⟩,.ofMillis 0⟩ where
  before := .answer rfl trivial (.answer rfl trivial (.answer rfl rfl (.answer rfl rfl
    (.answer rfl trivial (.answer rfl trivial (.answer rfl rfl
      (.pass (.ofMillis 45) ⟨rfl,by decide⟩ .here)))))))
  listening := rfl
  after := .answer rfl rfl (.answer rfl rfl .here)

/-- A ledger that takes transactions in and commits none. -/
def idle : Surroundings Unit :=
  ⟨fun request _ => (match request with
    | .submit .. => .ok "tx"
    | .submitAndWait .. => .ok .null
    | .lookup .. | .query .. => .ok []
    | .health | .createDatabase _ | .connect _ => .ok (),()),fun _ _ => [],fun _ => ""⟩

theorem roundsOf_stoppedRest :
    roundsOf wantedWrite ((firstRound ++ stoppedRest).map Dated.event) =
      [⟨.ok [],some (.ok [])⟩] := by
  simp [roundsOf,firstRound,stoppedRest]

theorem history_stoppedRest :
    idle.history (check patient wantedWrite) (.start () [(some (.ofMillis 45),.set true)]) =
      (firstRound ++ stoppedRest).map Dated.event := rfl

theorem history_stoppedBefore :
    idle.history (check patient wantedWrite) (.start () [(none,.set true)]) =
      (firstRound.take 3).map Dated.event ++ [⟨.stopRequested,true⟩] := rfl

/-- The run that is stopped during its first rest, and one that was stopped before it began. -/
theorem stoppedRest_stops :
    (idle.play (check patient wantedWrite) (.start () [(some (.ofMillis 45),.set true)])).1 =
        .error (.cancelled "tx") ∧
      (idle.play (check patient wantedWrite) (.start () [(none,.set true)])).1 =
        .error (.cancelled "tx") ∧
      exchanges (idle.history (check patient wantedWrite) (.start () [(none,.set true)])) =
        [⟨.submit wantedWrite.submitter wantedWrite.transaction,.ok "tx"⟩] := by
  constructor
  · have trace := idle.trace_history (check patient wantedWrite)
      (.start () [(some (.ofMillis 45),.set true)])
    rw [history_stoppedRest] at trace
    obtain ⟨submission,conversed,-,stops,-⟩ := check_stops trace
    obtain rfl : .ok "tx" = submission := by simpa [firstRound] using conversed.head?_eq
    obtain ⟨-,-,ends⟩ := stops _ _ _ _ _ rfl stoppedRest_setForGood
    rw [roundsOf_stoppedRest] at ends
    exact ends "tx" rfl (by decide)
  · obtain ⟨dated,dates,unfolds⟩ := @Surroundings.history_unfolds _ _ (· ≠ .set false) idle
      (check patient wantedWrite) () [(none,.set true)] (by simp)
    have trace := idle.trace_history (check patient wantedWrite) (.start () [(none,.set true)])
    rw [history_stoppedBefore] at dates trace ⊢
    obtain ⟨submission,conversed,-,-,already,-⟩ := check_stops trace
    obtain rfl : .ok "tx" = submission := by simpa [firstRound] using conversed.head?_eq
    obtain ⟨exchanged,cancelled,-⟩ := already dated _ _ "tx" dates rfl unfolds rfl
    exact ⟨cancelled,exchanged⟩

end Monitor

end LedgerRehearsal

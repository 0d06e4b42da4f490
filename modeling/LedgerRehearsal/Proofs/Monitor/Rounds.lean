import LedgerRehearsal.Proofs.Monitor.Iteration

/-! The rounds of a monitored transaction. A round is a lookup with the privileged key and one with
that of the submitter; which of them a reply belongs to is told by the connection that asked. All a
trial asks the ledger for is a submission and the lookups of its rounds, and only the last round can
decide. -/
namespace LedgerRehearsal

open Json

/-- The records that a lookup found. -/
abbrev Found := Except LedgerError (List Value)

/-- A lookup with the connection that made it. -/
structure Lookup where
  connection : Connection
  found : Found

def Exchange.lookup? : Exchange → Option Lookup
  | ⟨.lookup connection _,found⟩ => some ⟨connection,found⟩
  | _ => none

def lookupsOf (events : List Event) : List Lookup := (exchanges events).filterMap Exchange.lookup?

@[simp] theorem lookupsOf_nil : lookupsOf [] = [] := rfl

@[simp] theorem lookupsOf_append (first rest : List Event) :
    lookupsOf (first ++ rest) = lookupsOf first ++ lookupsOf rest := by simp [lookupsOf]

@[simp] theorem lookupsOf_lookup (connection : Connection) (tx : TxId) (found : Found)
    (events : List Event) :
    lookupsOf (⟨.ask (.lookup connection tx),found⟩ :: events) =
      ⟨connection,found⟩ :: lookupsOf events := rfl

@[simp] theorem lookupsOf_submit (connection : Connection) (transaction : Value)
    (reply : Except LedgerError TxId) (events : List Event) :
    lookupsOf (⟨.ask (.submit connection transaction),reply⟩ :: events) = lookupsOf events := rfl

@[simp] theorem lookupsOf_other (effect : Effect) (answer : effect.Answer) (events : List Event)
    (other : ∀ request, effect ≠ .ask request) :
    lookupsOf (⟨effect,answer⟩ :: events) = lookupsOf events := by
  rw [lookupsOf,exchanges_other effect answer events other,lookupsOf]

theorem lookupsOf_silent {events : List Event} (silent : exchanges events = []) :
    lookupsOf events = [] := by rw [lookupsOf,silent,List.filterMap_nil]

/-- What the replies of one round decide. A failed lookup outweighs what the other one shows. -/
def Trial.verdictOn (trial : Trial) (markers : List String) (tx : TxId)
    (privileged submitter : Found) : Option Verdict :=
  match privileged, submitter with
  | .error error, _ | .ok _, .error error => some (trial.refusal (some tx) error)
  | .ok [], .ok _ => none
  | .ok (record :: _), .ok own => some (trial.verdict markers tx record !own.isEmpty)

/-- The replies of one round of lookups. The submitter is not asked if the privileged key failed. -/
structure RoundReplies where
  privileged : Found
  submitter : Option Found

namespace RoundReplies

/-- The rounds that lookups make up. A round begins with a lookup of the privileged connection, and
the lookup after it is part of the round if the connection of the submitter made it. -/
def ofLookups (trial : Trial) : List Lookup → List RoundReplies
  | [] => []
  | [last] => if last.connection = trial.privileged then [⟨last.found,none⟩] else []
  | first :: second :: rest =>
    if first.connection = trial.privileged then
      if second.connection = trial.submitter then
        ⟨first.found,some second.found⟩ :: ofLookups trial rest
      else ⟨first.found,none⟩ :: ofLookups trial (second :: rest)
    else ofLookups trial (second :: rest)

/-- What a round asks for, with the replies. -/
def asked (trial : Trial) (tx : TxId) (replies : RoundReplies) : List Exchange :=
  ⟨.lookup trial.privileged tx,replies.privileged⟩ ::
    (replies.submitter.map fun own => ⟨.lookup trial.submitter tx,own⟩).toList

/-- What a round decides. -/
def verdict? (replies : RoundReplies) (trial : Trial) (markers : List String) (tx : TxId) :
    Option Verdict :=
  trial.verdictOn markers tx replies.privileged (replies.submitter.getD (.ok []))

/-- Neither lookup failed, and the privileged key saw nothing. -/
def Undecided (replies : RoundReplies) : Prop :=
  replies.privileged = .ok [] ∧ ∃ own, replies.submitter = some (.ok own)

instance (replies : RoundReplies) : Decidable replies.Undecided :=
  match replies with
  | ⟨.ok [],some (.ok own)⟩ => .isTrue ⟨rfl,own,rfl⟩
  | ⟨.ok [],some (.error _)⟩ | ⟨.ok [],none⟩ | ⟨.ok (_ :: _),_⟩ | ⟨.error _,_⟩ =>
    .isFalse (by simp [Undecided])

/-- The submitter was asked, unless the lookup with the privileged key failed. -/
def Complete (replies : RoundReplies) : Prop :=
  replies.submitter = none ↔ ∃ error, replies.privileged = .error error

variable {trial : Trial} {replies : RoundReplies}

@[simp] theorem ofLookups_nil : ofLookups trial [] = [] := rfl

@[simp] theorem ofLookups_single (found : Found) :
    ofLookups trial [⟨trial.privileged,found⟩] = [⟨found,none⟩] := by simp [ofLookups]

@[simp] theorem ofLookups_pair (found own : Found) (rest : List Lookup) :
    ofLookups trial (⟨trial.privileged,found⟩ :: ⟨trial.submitter,own⟩ :: rest) =
      ⟨found,some own⟩ :: ofLookups trial rest := by simp [ofLookups]

/-- No round decides that the time is over or that the transaction was cancelled. -/
theorem judged_of_verdict? {markers : List String} {tx : TxId} {verdict : Verdict}
    (decides : replies.verdict? trial markers tx = some verdict) :
    (∀ id, verdict ≠ .error (.cancelled id)) ∧
      ∀ id attempts waited, verdict ≠ .error (.timedOut id attempts waited) := by
  unfold verdict? Trial.verdictOn at decides
  split at decides
  · obtain rfl := Option.some.inj decides
    unfold Trial.refusal
    split <;> simp
  · obtain rfl := Option.some.inj decides
    unfold Trial.refusal
    split <;> simp
  · contradiction
  · obtain rfl := Option.some.inj decides
    unfold Trial.verdict
    split <;> simp

theorem Undecided.verdict?_eq_none (undecided : replies.Undecided) (trial : Trial)
    (markers : List String) (tx : TxId) : replies.verdict? trial markers tx = none := by
  obtain ⟨privileged,own,submitter⟩ := undecided
  simp [verdict?,privileged,submitter,Trial.verdictOn]

theorem Undecided.complete (undecided : replies.Undecided) : replies.Complete := by
  obtain ⟨privileged,own,submitter⟩ := undecided
  simp [Complete,privileged,submitter]

theorem undecided_iff (complete : replies.Complete) (trial : Trial) (markers : List String)
    (tx : TxId) : replies.Undecided ↔ replies.verdict? trial markers tx = none := by
  refine ⟨fun undecided => undecided.verdict?_eq_none trial markers tx,fun silent => ?_⟩
  obtain ⟨privileged,submitter⟩ := replies
  cases submitter with
  | none =>
    obtain ⟨error,rfl⟩ := complete.mp rfl
    simp [verdict?,Trial.verdictOn] at silent
  | some submitter =>
    rcases privileged with error | _ | ⟨record,more⟩ <;> rcases submitter with error' | own <;>
      simp_all [verdict?,Trial.verdictOn,Undecided]

end RoundReplies

/-- The rounds of a trial. -/
def roundsOf (trial : Trial) (events : List Event) : List RoundReplies :=
  RoundReplies.ofLookups trial (lookupsOf events)

/-- What a trial asks for, with the replies: its transaction is submitted with the connection of the
submitter and, if it is taken in, looked up round by round. -/
def Trial.conversation (trial : Trial) (submission : Except LedgerError TxId)
    (rounds : List RoundReplies) : List Exchange :=
  ⟨.submit trial.submitter trial.transaction,submission⟩ ::
    match submission with
    | .error _ => []
    | .ok tx => rounds.flatMap (·.asked trial tx)

/-- These are all the exchanges of a trial, and its rounds go on until one of them decides. -/
structure Trial.Conversed (trial : Trial) (submission : Except LedgerError TxId)
    (events : List Event) : Prop where
  exchanges_eq : exchanges events = trial.conversation submission (roundsOf trial events)
  complete : ∀ round ∈ roundsOf trial events, round.Complete
  undecided : ∀ round ∈ (roundsOf trial events).dropLast, round.Undecided
  roundless : ∀ error, submission = .error error → roundsOf trial events = []

theorem Trial.Conversed.head?_eq {trial : Trial} {submission : Except LedgerError TxId}
    {events : List Event} (conversed : trial.Conversed submission events) :
    (exchanges events).head? = some ⟨.submit trial.submitter trial.transaction,submission⟩ := by
  rw [conversed.exchanges_eq]
  rfl

/-- A round that decides is the last one. -/
theorem Trial.Conversed.getLast?_eq {trial : Trial} {submission : Except LedgerError TxId}
    {events : List Event} (conversed : trial.Conversed submission events) {round : RoundReplies}
    (member : round ∈ roundsOf trial events) (decided : ¬round.Undecided) :
    (roundsOf trial events).getLast? = some round := by
  have undecided := conversed.undecided
  rcases List.eq_nil_or_concat (roundsOf trial events) with none | ⟨before,last,rounds⟩
  · rw [none] at member
    contradiction
  · rw [rounds,List.concat_eq_append] at member undecided ⊢
    rw [List.dropLast_concat] at undecided
    rcases List.mem_append.mp member with earlier | same
    · exact absurd (undecided round earlier) decided
    · rw [List.getLast?_concat,List.mem_singleton.mp same]

namespace Monitor

variable {monitor : Monitor} {trial : Trial} {tx : TxId}

theorem roundsOf_silent {events : List Event} (silent : lookupsOf events = []) :
    roundsOf trial events = [] := by rw [roundsOf,silent,RoundReplies.ofLookups_nil]

theorem roundsOf_other (effect : Effect) (answer : effect.Answer) (events : List Event)
    (other : ∀ request, effect ≠ .ask request) :
    roundsOf trial (⟨effect,answer⟩ :: events) = roundsOf trial events := by
  rw [roundsOf,lookupsOf_other effect answer events other,roundsOf]

/-- Before its first round a transaction is submitted and the clock is read. -/
@[simp] theorem roundsOf_submitted (connection : Connection) (transaction : Value)
    (reply : Except LedgerError TxId) (notice : Notice) (started : Duration) (later : List Event) :
    roundsOf trial (⟨.ask (.submit connection transaction),reply⟩ :: ⟨.note notice,()⟩ ::
      ⟨.now,started⟩ :: later) = roundsOf trial later := by
  rw [roundsOf,lookupsOf_submit,lookupsOf_other _ _ _ (by simp),lookupsOf_other _ _ _ (by simp),
    roundsOf]

theorem roundsOf_refused (connection : Connection) (transaction : Value) (error : LedgerError)
    {notes : List Event} (aside : Aside notes) :
    roundsOf trial (⟨.ask (.submit connection transaction),.error error⟩ :: notes) = [] :=
  roundsOf_silent (by rw [lookupsOf_submit,lookupsOf_silent aside.exchanges_eq])

theorem Looked.head {lookups : List Event} {result : Option Verdict}
    (looked : Looked monitor trial tx lookups result) :
    ∃ found tail, lookups = ⟨.ask (.lookup trial.privileged tx),found⟩ :: tail := by
  cases looked <;> exact ⟨_,_,rfl⟩

/-- A round after which nothing is looked up any more. -/
theorem Looked.last {lookups rest : List Event} {result : Option Verdict}
    (looked : Looked monitor trial tx lookups result) (silent : lookupsOf rest = []) :
    ∃ replies : RoundReplies,
      roundsOf trial (⟨.stopRequested,false⟩ :: (lookups ++ rest)) = [replies] ∧
      exchanges lookups = replies.asked trial tx ∧ replies.Complete ∧
      replies.verdict? trial monitor.markers tx = result := by
  rw [roundsOf_other _ _ _ (by simp),roundsOf,lookupsOf_append,silent]
  cases looked with
  | privilegedFailed error =>
    exact ⟨⟨.error error,none⟩,by simp,rfl,by simp [RoundReplies.Complete],rfl⟩
  | submitterFailed records error =>
    exact ⟨⟨.ok records,some (.error error)⟩,by simp,rfl,by simp [RoundReplies.Complete],rfl⟩
  | pending own =>
    exact ⟨⟨.ok [],some (.ok own)⟩,by simp,rfl,by simp [RoundReplies.Complete],rfl⟩
  | judged record more own =>
    exact ⟨⟨.ok (record :: more),some (.ok own)⟩,by simp,rfl,by simp [RoundReplies.Complete],rfl⟩

theorem Looked.single {lookups rest : List Event} {result : Option Verdict}
    (looked : Looked monitor trial tx lookups result) (silent : lookupsOf rest = []) :
    (roundsOf trial (⟨.stopRequested,false⟩ :: (lookups ++ rest))).length = 1 := by
  obtain ⟨replies,rounds,-⟩ := looked.last silent
  rw [rounds,List.length_singleton]

/-- Between two rounds nothing is looked up. -/
theorem lookupsOf_between {notes more : List Event} (only : OnlyNotes notes) (time : Duration)
    (silent : exchanges more = []) : lookupsOf (notes ++ ⟨.now,time⟩ :: more) = [] := by
  rw [lookupsOf_append,lookupsOf_silent only.exchanges_eq,
    lookupsOf_other .now time more (by simp),lookupsOf_silent silent,List.nil_append]

/-- A round that decides nothing, with what comes after it before the next one. -/
theorem roundsOf_again {lookups notes resting : List Event} {seen : Option Nat} {result : AfterRest}
    (looked : Looked monitor trial tx lookups none) (only : OnlyNotes notes) (time : Duration)
    (rested : Rested monitor.policy seen resting result) :
    ∃ replies : RoundReplies, replies.Undecided ∧
      exchanges lookups = replies.asked trial tx ∧ ∀ later,
        roundsOf trial (⟨.stopRequested,false⟩ ::
          (lookups ++ (notes ++ ⟨.now,time⟩ :: (resting ++ later)))) =
            replies :: roundsOf trial later := by
  obtain _ | _ | own | _ := looked
  refine ⟨⟨.ok [],some (.ok own)⟩,⟨rfl,own,rfl⟩,rfl,fun later => ?_⟩
  simp [roundsOf,lookupsOf_silent only.exchanges_eq,lookupsOf_silent rested.exchanges_eq]

/-- A transaction that is polled is looked up in rounds, and nothing else is asked for. -/
theorem poll_conversation {started : Duration} {attempts fuel : Nat} {seen : Option Nat}
    {events : List Event} {verdict : Verdict}
    (trace : Run.Trace (poll monitor trial tx started attempts seen fuel) events verdict) :
    exchanges events = (roundsOf trial events).flatMap (·.asked trial tx) ∧
      (∀ round ∈ roundsOf trial events, round.Complete) ∧
      ∀ round ∈ (roundsOf trial events).dropLast, round.Undecided := by
  -- The last round, with nothing to ask for after it.
  have last {lookups rest : List Event} {result : Option Verdict}
      (looked : Looked monitor trial tx lookups result) (silent : exchanges rest = []) :
      exchanges (⟨.stopRequested,false⟩ :: (lookups ++ rest)) =
          (roundsOf trial (⟨.stopRequested,false⟩ :: (lookups ++ rest))).flatMap
            (·.asked trial tx) ∧
        (∀ round ∈ roundsOf trial (⟨.stopRequested,false⟩ :: (lookups ++ rest)),
          round.Complete) ∧
        ∀ round ∈ (roundsOf trial (⟨.stopRequested,false⟩ :: (lookups ++ rest))).dropLast,
          round.Undecided := by
    obtain ⟨replies,rounds,asked,complete,-⟩ := looked.last (lookupsOf_silent silent)
    rw [rounds]
    exact ⟨by simp [asked,silent],List.forall_mem_singleton.mpr complete,nofun⟩
  induction fuel generalizing attempts seen events with
  | zero =>
    have silent := (trace_poll_zero trace).1.exchanges_eq
    rw [silent,roundsOf_silent (lookupsOf_silent silent)]
    exact ⟨rfl,nofun,nofun⟩
  | succ fuel ih =>
    cases trace_poll trace with
    | stopped => exact ⟨rfl,nofun,nofun⟩
    | decided looked notes => exact last looked notes.exchanges_eq
    | timedOut looked notes expired gaveUp =>
      exact last looked (by simp [notes.exchanges_eq,gaveUp.exchanges_eq])
    | stoppedAtRest looked notes early rested =>
      exact last looked (by simp [notes.exchanges_eq,rested.exchanges_eq])
    | @again _ _ _ later time _ _ looked notes early rested goesOn =>
      obtain ⟨replies,undecided,asked,rounds⟩ := roundsOf_again looked notes time rested
      obtain ⟨exchanged,complete,before⟩ := ih goesOn
      rw [rounds]
      refine ⟨?_,List.forall_mem_cons.mpr ⟨undecided.complete,complete⟩,?_⟩
      · simp [asked,notes.exchanges_eq,rested.exchanges_eq,exchanged]
      · cases more : roundsOf trial later with
        | nil => exact nofun
        | cons second others =>
          rw [more] at before
          exact List.forall_mem_cons.mpr ⟨undecided,before⟩

/-- A transaction that is not taken in is not looked up. -/
theorem conversed_refused (trial : Trial) (error : LedgerError) {notes : List Event}
    (aside : Aside notes) : trial.Conversed (.error error)
      (⟨.ask (.submit trial.submitter trial.transaction),.error error⟩ :: notes) := by
  have rounds : roundsOf trial (⟨.ask (.submit trial.submitter trial.transaction),.error error⟩ ::
      notes) = [] := roundsOf_refused trial.submitter trial.transaction error aside
  refine ⟨?_,rounds ▸ nofun,rounds ▸ nofun,fun _ _ => rounds⟩
  rw [exchanges_ask,aside.exchanges_eq]
  rfl

theorem conversed_taken {started : Duration} {later : List Event} {verdict : Verdict}
    (polled : Run.Trace (poll monitor trial tx started 0 (some 0) maxAttempts) later verdict) :
    trial.Conversed (.ok tx)
      (⟨.ask (.submit trial.submitter trial.transaction),.ok tx⟩ ::
        ⟨.note (submittedNotice trial tx),()⟩ :: ⟨.now,started⟩ :: later) := by
  obtain ⟨exchanged,complete,undecided⟩ := poll_conversation polled
  refine ⟨?_,?_,?_,nofun⟩
  · simp [exchanged,Trial.conversation]
  · rwa [roundsOf_submitted]
  · rwa [roundsOf_submitted]

/-- Whatever a trial is answered, its exchanges are those of its rounds. -/
theorem check_conversed {events : List Event} {verdict : Verdict}
    (trace : Run.Trace (check monitor trial) events verdict) :
    ∃ submission, trial.Conversed submission events := by
  rcases trace_check trace with ⟨error,notes,rfl,aside,-⟩ | ⟨tx,started,later,rfl,polled⟩
  · exact ⟨_,conversed_refused trial error aside⟩
  · exact ⟨_,conversed_taken polled⟩

theorem trace_refused {events : List Event} {verdict : Verdict} {error : LedgerError}
    (trace : Run.Trace (check monitor trial) events verdict)
    (conversed : trial.Conversed (.error error) events) : verdict = trial.refusal none error := by
  have submitted := conversed.head?_eq
  rcases trace_check trace with ⟨error',notes,rfl,-,refused⟩ | ⟨tx,started,later,rfl,-⟩
  · obtain rfl : error' = error := by simpa using submitted
    exact refused
  · simp at submitted

/-- A transaction that is taken in is polled. -/
theorem trace_taken {events : List Event} {verdict : Verdict}
    (trace : Run.Trace (check monitor trial) events verdict)
    (conversed : trial.Conversed (.ok tx) events) :
    ∃ started later, events =
        ⟨.ask (.submit trial.submitter trial.transaction),.ok tx⟩ ::
          ⟨.note (submittedNotice trial tx),()⟩ :: ⟨.now,started⟩ :: later ∧
      Run.Trace (poll monitor trial tx started 0 (some 0) maxAttempts) later verdict := by
  have submitted := conversed.head?_eq
  rcases trace_check trace with ⟨error,notes,rfl,-⟩ | ⟨tx',started,later,rfl,polled⟩
  · simp at submitted
  · obtain rfl : tx' = tx := by simpa using submitted
    exact ⟨started,later,rfl,polled⟩

end Monitor

end LedgerRehearsal

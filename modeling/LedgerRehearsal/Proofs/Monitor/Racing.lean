import LedgerRehearsal.Proofs.Ledger.Records
import LedgerRehearsal.Proofs.Monitor.Deadline
import LedgerRehearsal.Proofs.Monitor.Stopping

/-! Transactions that are committed while they are looked up. The two lookups of a round are separate
requests, and the commit may come between them. The privileged lookup is made first, so a round that
shows the record to the privileged key shows it to every key that may read it. -/
namespace LedgerRehearsal

open Json

/-- A transaction that is committed after so many lookups. -/
structure Commit where
  record : Value
  /-- Who may read the record. -/
  readers : String → Bool
  point : Nat

namespace Commit

/-- What a key sees after so many lookups. -/
def shows (commit : Commit) (lookups : Nat) (connection : Connection) : List Value :=
  if commit.point ≤ lookups ∧ commit.readers connection.key.account then [commit.record] else []

/-- A ledger that takes a transaction in and commits it. The state counts the lookups. -/
def ledger (commit : Commit) (tx : TxId) : Surroundings Nat where
  reply
    | .submit .., lookups => (.ok tx,lookups)
    | .lookup connection wanted, lookups =>
      (.ok (if wanted = tx then commit.shows lookups connection else []),lookups + 1)
    | .submitAndWait .., lookups => (.ok .null,lookups)
    | .query .., lookups => (.ok [],lookups)
    | .health, lookups | .createDatabase _, lookups | .connect _, lookups => (.ok (),lookups)
  remarks _ _ := []
  suffix n := s!"#{n}"

/-- The round that is the first one to begin after the commit. -/
def firstRound (commit : Commit) : Nat := (commit.point + 1) / 2

/-- The replies of round `i`. -/
def replies (commit : Commit) (trial : Trial) (i : Nat) : RoundReplies :=
  ⟨.ok (commit.shows (2 * i) trial.privileged),some (.ok (commit.shows (2 * i + 1) trial.submitter))⟩

variable {commit : Commit} {trial : Trial}

theorem firstRound_le_iff (i : Nat) : commit.firstRound ≤ i ↔ commit.point ≤ 2 * i := by
  unfold firstRound
  omega

/-- Before that round the privileged key sees nothing. -/
theorem undecided_replies {i : Nat} (early : i < commit.firstRound) :
    (commit.replies trial i).Undecided := by
  have late : ¬commit.point ≤ 2 * i := mt (firstRound_le_iff i).mpr (Nat.not_le_of_lt early)
  exact ⟨by simp [replies,shows,late],_,rfl⟩

/-- A round that shows the record to the privileged key shows it to the submitter if it may read
it. -/
theorem verdict?_replies {i : Nat} (reached : commit.firstRound ≤ i)
    (privileged : commit.readers trial.privileged.key.account = true) (markers : List String)
    (tx : TxId) :
    (commit.replies trial i).verdict? trial markers tx =
      some (trial.verdict markers tx commit.record
        (commit.readers trial.submitter.key.account)) := by
  have committed := (firstRound_le_iff i).mp reached
  have later : commit.point ≤ 2 * i + 1 := Nat.le_succ_of_le committed
  cases own : commit.readers trial.submitter.key.account <;>
    simp [RoundReplies.verdict?,Trial.verdictOn,replies,shows,committed,later,privileged,own]

end Commit

/-- Lookups of a transaction that show a commit, wherever the ledger is asked from. -/
structure ShowsCommit {σ : Type} (surroundings : Surroundings σ) (tx : TxId) (commit : Commit)
    (after : Nat → σ → Prop) : Prop where
  shown : ∀ lookups ledger connection, after lookups ledger →
    (surroundings.reply (.lookup connection tx) ledger).1 = .ok (commit.shows lookups connection)
  counted : ∀ lookups ledger connection, after lookups ledger →
    after (lookups + 1) (surroundings.reply (.lookup connection tx) ledger).2

namespace ShowsCommit

variable {σ : Type} {surroundings : Surroundings σ} {tx : TxId} {commit : Commit}
  {after : Nat → σ → Prop} {trial : Trial} {ledger : σ}

/-- A round is two lookups. -/
theorem afterRounds (shows : ShowsCommit surroundings tx commit after) (i : Nat) {lookups : Nat}
    (reached : after lookups ledger) :
    after (lookups + 2 * i) (surroundings.afterRounds trial tx i ledger) := by
  induction i generalizing lookups ledger with
  | zero => exact reached
  | succ i ih =>
    have later := ih (shows.counted _ _ trial.submitter (shows.counted _ _ trial.privileged reached))
    rwa [Nat.mul_succ,Nat.add_comm (2 * i) 2,← Nat.add_assoc]

theorem round_eq (shows : ShowsCommit surroundings tx commit after) (reached : after 0 ledger)
    (i : Nat) : (surroundings.scriptOf trial tx ledger).round i = commit.replies trial i := by
  have begun : after (0 + 2 * i) (surroundings.afterRounds trial tx i ledger) :=
    shows.afterRounds i reached
  rw [Nat.zero_add] at begun
  have privileged := shows.shown _ _ trial.privileged begun
  have submitter := shows.shown _ _ trial.submitter (shows.counted _ _ trial.privileged begun)
  simp only [TransactionScript.round,Surroundings.scriptOf,privileged,submitter,Commit.replies]

/-- The first round to begin after the commit decides. -/
theorem decidesFirst (shows : ShowsCommit surroundings tx commit after) (reached : after 0 ledger)
    (privileged : commit.readers trial.privileged.key.account = true) :
    (surroundings.scriptOf trial tx ledger).DecidesFirst commit.firstRound := by
  constructor
  · refine Classical.byContradiction fun pending => ?_
    have undecided := TransactionScript.undecided_round_iff.mpr pending
    rw [shows.round_eq reached] at undecided
    have silent := undecided.verdict?_eq_none trial [] tx
    rw [Commit.verdict?_replies (Nat.le_refl _) privileged] at silent
    contradiction
  · intro i early
    rw [← TransactionScript.undecided_round_iff,shows.round_eq reached]
    exact Commit.undecided_replies early

end ShowsCommit

namespace Monitor

variable {σ : Type} {surroundings : Surroundings σ} {tx : TxId} {commit : Commit}
  {after : Nat → σ → Prop}

/-- How a race against a commit ends: in the first round after it, with the verdict on the record. -/
structure Ends (monitor : Monitor) (trial : Trial) (tx : TxId) (commit : Commit)
    (events : List Event) (verdict : Verdict) (started ended : Duration) : Prop where
  verdict_eq : verdict = trial.verdict monitor.markers tx commit.record
    (commit.readers trial.submitter.key.account)
  length_rounds : (roundsOf trial events).length = commit.firstRound + 1
  undecided : ∀ i < commit.firstRound, ∃ round, (roundsOf trial events)[i]? = some round ∧ round.Undecided
  ended : ended = ⟨started.nanos + commit.firstRound * monitor.policy.interval.nanos⟩

/-- A transaction that is submitted to a ledger that shows a commit. -/
theorem check_ends (shows : ShowsCommit surroundings tx commit after) {world : World σ}
    (quiet : world.timeline.Quiet) (monitor : Monitor) (trial : Trial)
    (taken : (surroundings.reply (.submit trial.submitter trial.transaction) world.ledger).1 = .ok tx)
    (reached :
      after 0 (surroundings.reply (.submit trial.submitter trial.transaction) world.ledger).2)
    (privileged : commit.readers trial.privileged.key.account = true)
    (moves : 0 < monitor.policy.interval.nanos) (counted : commit.firstRound < maxAttempts)
    (inTime : ∀ deadline, monitor.policy.deadline = some deadline →
      commit.firstRound ≤ monitor.policy.lastRound deadline) :
    Ends monitor trial tx commit (surroundings.history (check monitor trial) world)
      (surroundings.play (check monitor trial) world).1 world.timeline.now
      (surroundings.play (check monitor trial) world).2.timeline.now := by
  have follows := follows_exchanges (surroundings.follows_history (check monitor trial) world)
  have script := Surroundings.script_taken taken
  rcases check_waited surroundings quiet monitor trial with
    ⟨error,conversed,-⟩ | ⟨tx',last,conversed,waited,ended⟩
  · obtain ⟨submitted,-⟩ := conversed.scripted follows
    rw [surroundings.submission_script,taken] at submitted
    contradiction
  · obtain ⟨submitted,scripted⟩ := conversed.scripted follows
    rw [surroundings.submission_script,taken] at submitted
    obtain rfl : tx' = tx := Except.ok.inj submitted
    rw [script] at scripted
    obtain ⟨ends,rfl,length⟩ := decidedAt waited scripted moves
      (shows.decidesFirst reached privileged) counted inTime
    rw [shows.round_eq reached,Commit.verdict?_replies (Nat.le_refl _) privileged] at ends
    refine ⟨Option.some.inj ends,length,fun i early => ⟨commit.replies trial i,?_,?_⟩,ended⟩
    · rw [scripted,length,← shows.round_eq reached]
      simp [TransactionScript.rounds,Nat.lt_succ_of_lt early]
    · exact Commit.undecided_replies early

end Monitor

theorem Commit.showsCommit (commit : Commit) (tx : TxId) :
    ShowsCommit (commit.ledger tx) tx commit fun lookups ledger => ledger = lookups where
  shown lookups ledger connection same := by
    subst same
    simp [Commit.ledger]
  counted lookups ledger connection same := congrArg (· + 1) same

/-- The commit of a record that a ledger in memory keeps. -/
def Submission.commit (submission : Submission) (rules : LedgerRules) (record : Value) : Commit :=
  ⟨record,fun identity => rules.visible identity submission,rules.commitAfter⟩

theorem InMemoryLedger.showsCommit (rules : LedgerRules) (submission : Submission)
    (record : Value) :
    ShowsCommit rules.surroundings submission.tx (submission.commit rules record) fun lookups ledger =>
      ledger.Keeps submission record lookups rules.commitAfter where
  shown _ _ connection keeps := (keeps.looked connection).1
  counted _ _ connection keeps := (keeps.looked connection).2

namespace Monitor

/-- Only a submitter that may not read the record is told so. -/
theorem hidden_of_insufficient {trial : Trial} {markers : List String} {tx : TxId} {record : Value}
    {visible : Bool} {id : TxId} {transaction : String}
    (insufficient : trial.verdict markers tx record visible =
      .error (.insufficientOwnReadRights id transaction)) : visible = false := by
  cases visible with
  | false => rfl
  | true =>
    unfold Trial.verdict at insufficient
    split at insufficient <;> simp_all

/-- Wherever a commit comes between the lookups, the verdict is the one on its record, if a round
begins after it that is in time and that can still be counted. Against a ledger in memory, that shows
the record after so many lookups of all keys together, half as many rounds are undecided. -/
theorem racing_commit (monitor : Monitor) (trial : Trial)
    (moves : 0 < monitor.policy.interval.nanos) :
    (∀ (commit : Commit) (tx : TxId) (world : World Nat), world.ledger = 0 →
      world.timeline.Quiet → commit.readers trial.privileged.key.account = true →
      ∀ round < maxAttempts, commit.point ≤ 2 * round →
      (∀ deadline, monitor.policy.deadline = some deadline →
        round ≤ monitor.policy.lastRound deadline) →
      let verdict := ((commit.ledger tx).play (check monitor trial) world).1
      verdict = trial.verdict monitor.markers tx commit.record
        (commit.readers trial.submitter.key.account) ∧
      ∀ id transaction, verdict = .error (.insufficientOwnReadRights id transaction) →
        commit.readers trial.submitter.key.account = false) ∧
    ∀ (rules : LedgerRules) (exchanged : List Exchange) (world : World InMemoryLedger)
      (record : Value), Follows (InMemoryLedger.reply rules) exchanged .empty world.ledger →
      world.timeline.Quiet → trial.submitter.database ∈ world.ledger.databases →
      let submission : Submission := ⟨world.ledger.submissions.length + 1,
        trial.submitter.database,trial.submitter.key.account,trial.transaction,false⟩
      rules.outcome submission = .ok record →
      rules.visible trial.privileged.key.account submission = true →
      rules.commitAfter < Nat.pow 2 32 →
      (∀ deadline, monitor.policy.deadline = some deadline →
        (rules.commitAfter + 1) / 2 ≤ monitor.policy.lastRound deadline) →
      Ends monitor trial submission.tx (submission.commit rules record)
        (rules.surroundings.history (check monitor trial) world)
        (rules.surroundings.play (check monitor trial) world).1 world.timeline.now
        (rules.surroundings.play (check monitor trial) world).2.timeline.now := by
  constructor
  · intro commit tx world fresh quiet privileged round counted reached inTime verdict
    have early := (Commit.firstRound_le_iff round).mpr reached
    have ends := check_ends (commit.showsCommit tx) quiet monitor trial rfl fresh privileged moves
      (Nat.lt_of_le_of_lt early counted)
      fun deadline limited => Nat.le_trans early (inTime deadline limited)
    refine ⟨ends.verdict_eq,fun id transaction insufficient => ?_⟩
    exact hidden_of_insufficient (ends.verdict_eq.symm.trans insufficient)
  · intro rules exchanged world record reached quiet existing submission carried privileged counted
      inTime
    have numbered := InMemoryLedger.numbered_empty.follows reached
    obtain ⟨taken,keeps⟩ := InMemoryLedger.submit_keeps numbered existing rfl carried
    refine check_ends (InMemoryLedger.showsCommit rules submission record) quiet monitor trial taken
      keeps privileged moves ?_ inTime
    have counts : maxAttempts = 4294967295 := rfl
    have fits : rules.commitAfter < 4294967296 := counted
    change (rules.commitAfter + 1) / 2 < maxAttempts
    omega

/-- A submitter that may not read its own record. -/
def blindWrite : Trial :=
  ⟨⟨⟨"net/db"⟩,⟨"k","root"⟩⟩,⟨⟨"net/db"⟩,⟨"l","writer"⟩⟩,.list [],true⟩

/-- Only the privileged key reads it, and it shows after three lookups. -/
def rootOnly : LedgerRules :=
  { LedgerRules.plain with visible := fun identity _ => identity = "root", commitAfter := 3 }

/-- The commit comes between the lookups of a round, or after those of the first round and one
more. -/
theorem blindWrite_races :
    ((Commit.ledger ⟨.object [],fun identity => identity = "root",1⟩ "tx").play
        (check patient blindWrite) (.start 0 [])).1 =
      .error (.insufficientOwnReadRights "tx" blindWrite.payload) ∧
    (roundsOf blindWrite (rootOnly.surroundings.history (check patient blindWrite)
      (.start { InMemoryLedger.empty with databases := [⟨"net/db"⟩] } []))).length = 3 := by
  obtain ⟨races,kept⟩ := racing_commit patient blindWrite (by decide)
  constructor
  · exact (races ⟨.object [],fun identity => identity = "root",1⟩ "tx" (.start 0 []) rfl ⟨rfl,rfl⟩
      rfl 1 (by decide) (by decide) nofun).1
  · exact (kept rootOnly [⟨.createDatabase ⟨"net/db"⟩,.ok ()⟩]
      (.start { InMemoryLedger.empty with databases := [⟨"net/db"⟩] } []) _ ⟨rfl,rfl⟩ ⟨rfl,rfl⟩
      (List.mem_singleton.mpr rfl) rfl rfl (by decide) nofun).length_rounds

end Monitor

end LedgerRehearsal

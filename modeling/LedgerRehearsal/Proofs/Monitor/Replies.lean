import LedgerRehearsal.Ledger.Script
import LedgerRehearsal.Proofs.Monitor.Rounds

/-! What a ledger replies to a trial. The replies are those of the ledger to the submission, and to
the lookups of one round after another, each in the state that the requests before it have left. So
every ledger has a script for a trial, whatever the run makes of it. -/
namespace LedgerRehearsal

open Json

namespace TransactionScript

/-- A round decides when a lookup fails or the privileged key sees a record. -/
def Decides (script : TransactionScript) (i : Nat) : Prop :=
  script.privileged i ≠ .ok [] ∨ ∃ error, script.submitter i = .error error

def DecidesFirst (script : TransactionScript) (n : Nat) : Prop :=
  script.Decides n ∧ ∀ i < n, ¬script.Decides i

/-- What is learned in round `i`. -/
def round (script : TransactionScript) (i : Nat) : RoundReplies :=
  ⟨script.privileged i,
    match script.privileged i with
    | .error _ => none
    | .ok _ => some (script.submitter i)⟩

def rounds (script : TransactionScript) (n : Nat) : List RoundReplies :=
  (List.range n).map script.round

variable {script : TransactionScript} {trial : Trial}

theorem undecided_round_iff {i : Nat} : (script.round i).Undecided ↔ ¬script.Decides i := by
  unfold RoundReplies.Undecided round Decides
  rcases script.privileged i with error | _ | ⟨record,more⟩ <;>
    rcases script.submitter i with error' | own <;> simp

theorem verdict?_round (trial : Trial) (markers : List String) (tx : TxId) (i : Nat) :
    (script.round i).verdict? trial markers tx =
      trial.verdictOn markers tx (script.privileged i) (script.submitter i) := by
  unfold RoundReplies.verdict? round
  cases script.privileged i <;> rfl

theorem complete_round (script : TransactionScript) (i : Nat) : (script.round i).Complete := by
  unfold RoundReplies.Complete round
  cases script.privileged i <;> simp

/-- One of the rounds up to one that decides is the first to decide. -/
theorem exists_decidesFirst {i : Nat} (decides : script.Decides i) :
    ∃ n ≤ i, script.DecidesFirst n := by
  induction i using Nat.strongRecOn with
  | ind i ih =>
    by_cases earlier : ∃ j < i, script.Decides j
    · obtain ⟨j,sooner,decides⟩ := earlier
      obtain ⟨n,before,first⟩ := ih j sooner decides
      exact ⟨n,Nat.le_trans before (Nat.le_of_lt sooner),first⟩
    · exact ⟨i,Nat.le_refl i,decides,fun j sooner decides => earlier ⟨j,sooner,decides⟩⟩

theorem eq_round_of_getElem? {n i : Nat} {round : RoundReplies}
    (made : (script.rounds n)[i]? = some round) : round = script.round i := by
  obtain ⟨within,found⟩ := List.getElem?_eq_some_iff.mp made
  simpa [rounds] using found.symm

end TransactionScript

namespace Surroundings

variable {σ : Type}

/-- The ledger after so many rounds of lookups. -/
def afterRounds (surroundings : Surroundings σ) (trial : Trial) (tx : TxId) : Nat → σ → σ
  | 0, ledger => ledger
  | i + 1, ledger =>
    let looked := (surroundings.reply (.lookup trial.privileged tx) ledger).2
    afterRounds surroundings trial tx i (surroundings.reply (.lookup trial.submitter tx) looked).2

/-- The replies of a ledger to the lookups of a transaction. -/
def scriptOf (surroundings : Surroundings σ) (trial : Trial) (tx : TxId) (ledger : σ) :
    TransactionScript where
  submission := .ok tx
  privileged i :=
    (surroundings.reply (.lookup trial.privileged tx) (surroundings.afterRounds trial tx i ledger)).1
  submitter i :=
    let looked := surroundings.reply (.lookup trial.privileged tx)
      (surroundings.afterRounds trial tx i ledger)
    (surroundings.reply (.lookup trial.submitter tx) looked.2).1

/-- The replies of a ledger to a trial. What is not submitted is not looked up. -/
def script (surroundings : Surroundings σ) (trial : Trial) (ledger : σ) : TransactionScript :=
  match surroundings.reply (.submit trial.submitter trial.transaction) ledger with
  | (.error error,_) => ⟨.error error,fun _ => .ok [],fun _ => .ok []⟩
  | (.ok tx,taken) => surroundings.scriptOf trial tx taken

variable {surroundings : Surroundings σ} {trial : Trial} {tx : TxId}

theorem submission_script (surroundings : Surroundings σ) (trial : Trial) (ledger : σ) :
    (surroundings.script trial ledger).submission =
      (surroundings.reply (.submit trial.submitter trial.transaction) ledger).1 := by
  unfold script
  split <;> rename_i submitted <;> simp [submitted,scriptOf]

theorem script_taken {ledger : σ}
    (taken : (surroundings.reply (.submit trial.submitter trial.transaction) ledger).1 = .ok tx) :
    surroundings.script trial ledger =
      surroundings.scriptOf trial tx
        (surroundings.reply (.submit trial.submitter trial.transaction) ledger).2 := by
  unfold script
  split <;> rename_i submitted <;> simp_all

/-- The round after the first one is the first one of the ledger that the first one leaves. -/
theorem rounds_succ (surroundings : Surroundings σ) (trial : Trial) (tx : TxId) (ledger : σ)
    (n : Nat) :
    (surroundings.scriptOf trial tx ledger).rounds (n + 1) =
      (surroundings.scriptOf trial tx ledger).round 0 ::
        (surroundings.scriptOf trial tx (surroundings.afterRounds trial tx 1 ledger)).rounds n := by
  rw [TransactionScript.rounds,List.range_succ_eq_map,List.map_cons,List.map_map]
  rfl

/-- The rounds of a conversation are those of the ledger. -/
theorem rounds_of_follows {rounds : List RoundReplies} {ledger final : σ}
    (follows : Follows surroundings.reply (rounds.flatMap (·.asked trial tx)) ledger final)
    (complete : ∀ round ∈ rounds, round.Complete)
    (undecided : ∀ round ∈ rounds.dropLast, round.Undecided) :
    rounds = (surroundings.scriptOf trial tx ledger).rounds rounds.length := by
  induction rounds generalizing ledger with
  | nil => rfl
  | cons first rounds ih =>
    obtain ⟨privileged,submitter⟩ := first
    rw [List.length_cons,rounds_succ]
    have whole := complete _ List.mem_cons_self
    cases submitter with
    | none =>
      obtain ⟨error,failed⟩ := whole.mp rfl
      obtain rfl : privileged = .error error := failed
      obtain ⟨shown,-⟩ := follows
      cases rounds with
      | nil => simp [TransactionScript.round,TransactionScript.rounds,scriptOf,afterRounds,← shown]
      | cons second rounds =>
        obtain ⟨nothing,-⟩ := undecided _ List.mem_cons_self
        contradiction
    | some own =>
      obtain ⟨shown,owned,follows⟩ := follows
      have before : ∀ round ∈ rounds.dropLast, round.Undecided := by
        intro round member
        have more : rounds ≠ [] := by
          rintro rfl
          contradiction
        rw [List.dropLast_cons_of_ne_nil more] at undecided
        exact undecided round (List.mem_cons_of_mem _ member)
      have later := ih follows (List.forall_mem_cons.mp complete).2 before
      refine List.cons_eq_cons.mpr ⟨?_,later⟩
      cases privileged with
      | error error => cases whole.mpr ⟨error,rfl⟩
      | ok records =>
        simp [TransactionScript.round,scriptOf,afterRounds,← shown,← owned]

end Surroundings

/-- What a trial asks and learns is in the script of its ledger. -/
theorem Trial.Conversed.scripted {σ : Type} {surroundings : Surroundings σ} {trial : Trial}
    {submission : Except LedgerError TxId} {events : List Event} {ledger final : σ}
    (conversed : trial.Conversed submission events)
    (follows : Follows surroundings.reply (exchanges events) ledger final) :
    submission = (surroundings.script trial ledger).submission ∧
      roundsOf trial events =
        (surroundings.script trial ledger).rounds (roundsOf trial events).length := by
  rw [conversed.exchanges_eq] at follows
  obtain ⟨submitted,follows⟩ := follows
  rw [surroundings.submission_script]
  refine ⟨submitted,?_⟩
  cases submission with
  | error error =>
    rw [conversed.roundless error rfl]
    rfl
  | ok tx =>
    rw [Surroundings.script_taken submitted.symm]
    exact Surroundings.rounds_of_follows follows conversed.complete conversed.undecided

namespace TransactionScript

variable {script : TransactionScript} {trial : Trial}

theorem afterRounds_surroundings (distinct : trial.privileged ≠ trial.submitter) (tx : TxId)
    (i privileged submitter : Nat) :
    (script.surroundings trial.privileged).afterRounds trial tx i ⟨privileged,submitter⟩ =
      ⟨privileged + i,submitter + i⟩ := by
  induction i generalizing privileged submitter with
  | zero => rfl
  | succ i ih =>
    have looked :
        (script.surroundings trial.privileged).afterRounds trial tx (i + 1) ⟨privileged,submitter⟩ =
          (script.surroundings trial.privileged).afterRounds trial tx i
            ⟨privileged + 1,submitter + 1⟩ := by
      simp [Surroundings.afterRounds,surroundings,reply,distinct.symm]
    rw [looked,ih,Nat.succ_add_eq_add_succ,Nat.succ_add_eq_add_succ]

/-- Every script is that of a ledger, which tells the connections of a trial apart. -/
theorem script_surroundings (distinct : trial.privileged ≠ trial.submitter) {tx : TxId}
    (taken : script.submission = .ok tx) :
    (script.surroundings trial.privileged).script trial ⟨0,0⟩ = script := by
  rw [Surroundings.script_taken taken]
  unfold Surroundings.scriptOf
  simp only [afterRounds_surroundings distinct]
  obtain ⟨submission,privileged,submitter⟩ := script
  obtain rfl : submission = .ok tx := taken
  simp [surroundings,reply,distinct.symm]

end TransactionScript

end LedgerRehearsal

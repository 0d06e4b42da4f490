import LedgerRehearsal.Proofs.Ledger.Consistency

/-! What lookups show. A record shows after so many lookups of its transaction, counted over all who
look it up, to those who may read it. Nothing else that a ledger is asked for has a part in it, and
whoever saw a record sees it from then on. -/
namespace LedgerRehearsal

open Json

/-- How often a transaction is looked up, by whomever. -/
def lookupsFor (tx : TxId) (exchanged : List Exchange) : Nat :=
  exchanged.countP fun exchange => exchange.1.lookup? = some tx

theorem lookupsFor_cons (tx : TxId) (exchange : Exchange) (exchanged : List Exchange) :
    lookupsFor tx (exchange :: exchanged) =
      lookupsFor tx exchanged + if exchange.1.lookup? = some tx then 1 else 0 := by
  simp [lookupsFor,List.countP_cons]

namespace InMemoryLedger

variable {rules : LedgerRules} {ledger final : InMemoryLedger} {submission : Submission}
  {record : Value} {lookups hiddenFor : Nat}

theorem lookup_unreplaced {records : List (TxId × StoredRecord)} {tx other : TxId}
    (apart : other ≠ tx) (after : StoredRecord) :
    (records.map fun entry => if entry.1 = other then (other,after) else entry).lookup tx =
      records.lookup tx := by
  induction records with
  | nil => rfl
  | cons entry records ih =>
    obtain ⟨name,kept⟩ := entry
    by_cases same : name = other
    · subst same
      have skipped : (tx == name) = false := beq_eq_false_iff_ne.mpr apart.symm
      rw [List.map_cons,if_pos rfl,List.lookup_cons,List.lookup_cons,skipped,ih]
    · rw [List.map_cons,if_neg same,List.lookup_cons,List.lookup_cons,ih]

/-- Only a lookup of its transaction has a part in what is kept of a submission. -/
theorem Keeps.step {request : Request} (keeps : ledger.Keeps submission record lookups hiddenFor)
    (numbered : ledger.Numbered) (step : Step rules ledger request final) :
    final.Keeps submission record
      (lookups + if request.lookup? = some submission.tx then 1 else 0) hiddenFor := by
  obtain ⟨position,place,stored⟩ := keeps
  have within := (List.getElem?_eq_some_iff.mp place).1
  cases step with
  | kept absent =>
    have other : request.lookup? ≠ some submission.tx := fun looks => by
      rw [absent _ looks] at stored
      contradiction
    rw [if_neg other]
    exact ⟨position,place,stored⟩
  | checked | created | asked => exact ⟨position,place,stored⟩
  | failed sent =>
    rw [Request.lookup?_of_submission sent]
    exact ⟨position,(List.getElem?_append_left within).trans place,stored⟩
  | carried sent =>
    rw [Request.lookup?_of_submission sent]
    refine ⟨position,(List.getElem?_append_left within).trans place,?_⟩
    rw [numbered.carriedOut_records,List.lookup_append,stored]
    rfl
  | looked found =>
    rename_i tx before
    refine ⟨position,place,?_⟩
    by_cases same : tx = submission.tx
    · obtain rfl := same
      obtain rfl := Option.some.inj (stored.symm.trans found)
      rw [Request.lookup?,if_pos rfl]
      exact lookup_replaced found
    · rw [Request.lookup?,if_neg fun looks => same (Option.some.inj looks)]
      exact (lookup_unreplaced same _).trans stored

theorem Keeps.follows {exchanged : List Exchange}
    (keeps : ledger.Keeps submission record lookups hiddenFor) (numbered : ledger.Numbered)
    (follows : Follows (reply rules) exchanged ledger final) :
    final.Keeps submission record (lookups + lookupsFor submission.tx exchanged) hiddenFor := by
  induction exchanged generalizing ledger lookups with
  | nil =>
    cases follows
    exact keeps
  | cons exchange exchanged ih =>
    have step := reply_step rules ledger exchange.1
    have later := ih (keeps.step numbered step) (numbered.step step) follows.2
    rw [lookupsFor_cons,Nat.add_comm (lookupsFor _ _),← Nat.add_assoc]
    exact later

/-- What is kept of a submission decides the answer to every later lookup. -/
theorem Keeps.answered {between : List Exchange}
    (keeps : ledger.Keeps submission record lookups hiddenFor) (numbered : ledger.Numbered)
    (follows : Follows (reply rules) between ledger final) (connection : Connection) :
    (reply rules (.lookup connection submission.tx) final).1 =
      .ok (if hiddenFor ≤ lookups + lookupsFor submission.tx between ∧
          rules.visible connection.key.account submission then [record] else []) :=
  ((keeps.follows numbered follows).looked connection).1

theorem reply_lookup_absent {tx : TxId} (absent : ledger.records.lookup tx = none)
    (connection : Connection) :
    reply rules (.lookup connection tx) ledger = (.ok [],ledger) := by
  simp only [reply,lookup,absent]

namespace Consistent

theorem lookup_unissued {tx : TxId} (consistent : ledger.Consistent rules)
    (unissued : tx ∉ ledger.submissions.map Submission.tx) : ledger.records.lookup tx = none := by
  cases found : ledger.records.lookup tx with
  | none => rfl
  | some stored =>
    obtain ⟨submission,place,named,-⟩ := consistent.origin (mem_of_lookup found)
    exact absurd (List.mem_map.mpr ⟨submission,List.mem_of_getElem? place,named⟩) unissued

theorem lookup_failed {error : LedgerError} (consistent : ledger.Consistent rules)
    (member : submission ∈ ledger.submissions) (failed : rules.outcome submission = .error error) :
    ledger.records.lookup submission.tx = none := by
  have kept := consistent.record_eq member
  rw [failed] at kept
  exact Option.map_eq_none_iff.mp kept

/-- The answers for a submission depend on the number of its own lookups, and on nothing else that
the ledger was asked for. -/
theorem lookup_alone {tx : TxId} {between between' : List Exchange} {final' : InMemoryLedger}
    (consistent : ledger.Consistent rules) (issued : tx ∈ ledger.submissions.map Submission.tx)
    (follows : Follows (reply rules) between ledger final)
    (follows' : Follows (reply rules) between' ledger final')
    (same : lookupsFor tx between = lookupsFor tx between') (connection : Connection) :
    (reply rules (.lookup connection tx) final).1 =
      (reply rules (.lookup connection tx) final').1 := by
  obtain ⟨submission,member,rfl⟩ := List.mem_map.mp issued
  cases outcome : rules.outcome submission with
  | error error =>
    have failed {next : InMemoryLedger} {asked : List Exchange}
        (follows : Follows (reply rules) asked ledger next) :=
      (consistent.follows follows).lookup_failed ((Grows.follows follows).submissions.subset member)
        outcome
    rw [reply_lookup_absent (failed follows),reply_lookup_absent (failed follows')]
  | ok record =>
    obtain ⟨lookups,keeps⟩ := consistent.keeps_of_carried member outcome
    rw [keeps.answered consistent.toNumbered follows,keeps.answered consistent.toNumbered follows',
      same]

/-- Whoever saw a record sees it from then on. -/
theorem lookup_again {tx : TxId} {first again : Connection} {seen : Value} {others : List Value}
    {between : List Exchange} (consistent : ledger.Consistent rules)
    (saw : (reply rules (.lookup first tx) ledger).1 = .ok (seen :: others))
    (follows : Follows (reply rules) between (reply rules (.lookup first tx) ledger).2 final)
    (identity : again.key.account = first.key.account) :
    (reply rules (.lookup again tx) final).1 = .ok (seen :: others) := by
  cases found : ledger.records.lookup tx with
  | none =>
    rw [reply_lookup_absent found] at saw
    cases saw
  | some stored =>
    obtain ⟨submission,place,rfl,-⟩ := consistent.origin (mem_of_lookup found)
    have keeps : ledger.Keeps submission stored.record stored.lookups stored.hiddenFor :=
      ⟨stored.position,place,found⟩
    obtain ⟨shown,looked⟩ : (reply rules (.lookup first _) ledger).1 = _ ∧ _ := keeps.looked first
    have numbered :=
      consistent.toNumbered.step (reply_step rules ledger (.lookup first submission.tx))
    rw [looked.answered numbered follows,identity]
    rw [shown] at saw
    split at saw
    · rename_i shows
      rw [← saw,if_pos ⟨by omega,shows.2⟩]
    · cases saw

end Consistent

/-- From a state on, the lookup of a submission that comes after so many hidden ones shows its
record to those who may read it, and every other lookup of it shows nothing. -/
def Shows (rules : LedgerRules) (submission : Submission) (record : Value) (hiddenFor : Nat)
    (ledger : InMemoryLedger) : Prop :=
  ∀ between final, Follows (reply rules) between ledger final → ∀ reader : Connection,
    (reply rules (.lookup reader submission.tx) final).1 =
      .ok (if hiddenFor < lookupsFor submission.tx between + 1 ∧
          rules.visible reader.key.account submission then [record] else [])

theorem carriedOut_shows {connection : Connection} {transaction : Value} {waited : Bool}
    (numbered : ledger.Numbered) :
    (ledger.carriedOut rules (ledger.next connection transaction waited) record).Shows rules
      (ledger.next connection transaction waited) record (rules.hiddenFor waited) := by
  intro between final follows reader
  rw [(carriedOut_keeps numbered).answered numbered.carriedOut follows]
  simp only [Nat.zero_add,Nat.lt_succ_iff]

/-- What a reachable ledger answers to lookups. A record that is not waited for shows after the
hidden lookups, one that is waited for shows at once, and nothing shows of a submission that failed
or was never made. Only the lookups of one transaction count for it, and what an identity saw it
sees again. -/
theorem lookup_answers {exchanged : List Exchange}
    (reached : Follows (reply rules) exchanged empty ledger) :
    (∀ (connection : Connection) (transaction record : Value),
      connection.database ∈ ledger.databases →
      let submission := ledger.next connection transaction false
      rules.outcome submission = .ok record →
      let (taken,next) := reply rules (.submit connection transaction) ledger
      taken = .ok submission.tx ∧ next.Shows rules submission record rules.commitAfter) ∧
    (∀ (connection : Connection) (transaction record : Value),
      connection.database ∈ ledger.databases →
      let submission := ledger.next connection transaction true
      rules.outcome submission = .ok record →
      let (committed,next) := reply rules (.submitAndWait connection transaction) ledger
      committed = .ok record ∧ next.Shows rules submission record 0) ∧
    (∀ submission ∈ ledger.submissions, ∀ error, rules.outcome submission = .error error →
      ∀ reader, reply rules (.lookup reader submission.tx) ledger = (.ok [],ledger)) ∧
    (∀ tx ∉ ledger.submissions.map Submission.tx,
      ∀ reader, reply rules (.lookup reader tx) ledger = (.ok [],ledger)) ∧
    (∀ tx ∈ ledger.submissions.map Submission.tx, ∀ between final between' final',
      Follows (reply rules) between ledger final → Follows (reply rules) between' ledger final' →
      lookupsFor tx between = lookupsFor tx between' → ∀ reader,
        (reply rules (.lookup reader tx) final).1 = (reply rules (.lookup reader tx) final').1) ∧
    ∀ (tx : TxId) (first again : Connection) (seen : Value) (others : List Value),
      (reply rules (.lookup first tx) ledger).1 = .ok (seen :: others) →
      again.key.account = first.key.account →
      ∀ between final, Follows (reply rules) between (reply rules (.lookup first tx) ledger).2 final →
        (reply rules (.lookup again tx) final).1 = .ok (seen :: others) := by
  have consistent := consistent_empty.follows reached
  refine ⟨fun connection transaction record existing carried => ?_,
    fun connection transaction record existing carried => ?_,
    fun submission member error failed => ?_,fun tx unissued => ?_,
    fun tx issued between final between' final' follows follows' same => ?_,
    fun tx first again seen others saw identity between final follows => ?_⟩
  · rw [reply,submit_carried existing carried]
    exact ⟨rfl,carriedOut_shows consistent.toNumbered⟩
  · rw [reply,submit_carried existing carried]
    exact ⟨rfl,carriedOut_shows consistent.toNumbered⟩
  · exact reply_lookup_absent (consistent.lookup_failed member failed)
  · exact reply_lookup_absent (consistent.lookup_unissued unissued)
  · exact consistent.lookup_alone issued follows follows' same
  · exact consistent.lookup_again saw follows identity

/-- The first lookup shows nothing, and later ones only to alice. -/
def secondLook : LedgerRules :=
  { withoutBob with commitAfter := 1, visible := fun identity _ => identity = "alice" }

def emptyBooks : InMemoryLedger := { empty with databases := [⟨"net/books"⟩] }

/-- Bob looks at the submission of alice, fails with his own, and looks at that one. -/
def bobsTurn : List Exchange :=
  [⟨.lookup bobAtBooks "tx-0001",.ok []⟩,⟨.submit bobAtBooks .null,.error (.transport "gone")⟩,
    ⟨.lookup bobAtBooks "tx-0002",.ok []⟩]

theorem secondLook_answers :
    ∃ final,
      Follows (reply secondLook) bobsTurn
        (reply secondLook (.submit aliceAtBooks .null) emptyBooks).2 final ∧
      (reply secondLook (.lookup aliceAtBooks "tx-0001") final).1 = .ok [.null] ∧
      (reply secondLook (.lookup bobAtBooks "tx-0001") final).1 = .ok [] := by
  have created : Follows (reply secondLook) [⟨.createDatabase ⟨"net/books"⟩,.ok ()⟩] empty
      emptyBooks := ⟨rfl,rfl⟩
  obtain ⟨submitted,-⟩ := lookup_answers created
  obtain ⟨-,shows⟩ := submitted aliceAtBooks .null .null List.mem_cons_self rfl
  have follows : Follows (reply secondLook) bobsTurn
      (reply secondLook (.submit aliceAtBooks .null) emptyBooks).2 _ := ⟨rfl,rfl,rfl,rfl⟩
  exact ⟨_,follows,shows _ _ follows aliceAtBooks,shows _ _ follows bobAtBooks⟩

end InMemoryLedger

end LedgerRehearsal

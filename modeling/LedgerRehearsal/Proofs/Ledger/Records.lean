import LedgerRehearsal.Ledger.InMemory
import LedgerRehearsal.Proofs.Trace
import Mathlib.Data.Nat.Digits.Defs

/-! The records of a ledger in memory. Each submission gets an identifier of its own, so its record
is never mistaken for another one, and lookups change nothing but the number of lookups. -/
namespace LedgerRehearsal

theorem Submission.txOfNumber_injective : Function.Injective Submission.txOfNumber := by
  intro first second same
  have digits : (Nat.toDigits 10 first).leftpad 4 '0' = (Nat.toDigits 10 second).leftpad 4 '0' := by
    have texts := congrArg String.toList same
    rwa [txOfNumber,txOfNumber,String.toList_append,String.toList_append,List.append_cancel_left_eq,
      String.toList_ofList,String.toList_ofList] at texts
  have value (n : Nat) : Nat.ofDigitChars 10 ((Nat.toDigits 10 n).leftpad 4 '0') 0 = n := by
    simp [List.leftpad,Nat.ofDigitChars_append]
  rw [← value first,digits,value]

/-- What is submitted over a connection, and whether its record is waited for. -/
def Request.submission? : Request → Option (Connection × Json.Value × Bool)
  | .submit connection transaction => some (connection,transaction,false)
  | .submitAndWait connection transaction => some (connection,transaction,true)
  | _ => none

/-- The transaction that is looked up. -/
def Request.lookup? : Request → Option TxId
  | .lookup _ tx => some tx
  | _ => none

theorem Request.lookup?_of_submission {request : Request} {sent : Connection × Json.Value × Bool}
    (submits : request.submission? = some sent) : request.lookup? = none := by
  cases request with
  | lookup => contradiction
  | _ => rfl

namespace InMemoryLedger

variable {rules : LedgerRules} {ledger : InMemoryLedger} {connection : Connection}
  {transaction : Json.Value} {waited : Bool}

theorem submit_unknown (absent : connection.database ∉ ledger.databases) :
    ledger.submit rules connection transaction waited =
      (.error (.unknownDatabase connection.database.text),ledger) := by
  rw [submit,requireDatabase,if_neg absent]

theorem submit_failed {error : LedgerError} (existing : connection.database ∈ ledger.databases)
    (failed : rules.outcome (ledger.next connection transaction waited) = .error error) :
    ledger.submit rules connection transaction waited =
      (.error error,ledger.take (ledger.next connection transaction waited)) := by
  simp only [submit,requireDatabase,if_pos existing,failed]

/-- The ledger after a submission that was carried out. -/
def carriedOut (rules : LedgerRules) (submission : Submission) (record : Json.Value)
    (ledger : InMemoryLedger) : InMemoryLedger :=
  (ledger.take submission).store submission.tx
    ⟨ledger.submissions.length,record,0,rules.hiddenFor submission.waited⟩

theorem submit_carried {record : Json.Value} (existing : connection.database ∈ ledger.databases)
    (carried : rules.outcome (ledger.next connection transaction waited) = .ok record) :
    ledger.submit rules connection transaction waited =
      (.ok ((ledger.next connection transaction waited).tx,record),
        ledger.carriedOut rules (ledger.next connection transaction waited) record) := by
  simp only [submit,requireDatabase,if_pos existing,carried]
  rfl

/-- The ledger after a lookup that found a record. -/
def looked (tx : TxId) (stored : StoredRecord) (ledger : InMemoryLedger) : InMemoryLedger :=
  { ledger with
    records := ledger.records.map fun entry =>
      if entry.1 = tx then (tx,{ stored with lookups := stored.lookups + 1 }) else entry }

/-- What one request makes of a ledger. -/
inductive Step (rules : LedgerRules) (ledger : InMemoryLedger) :
    Request → InMemoryLedger → Prop where
  | kept {request : Request}
      (absent : ∀ tx, request.lookup? = some tx → ledger.records.lookup tx = none) :
    Step rules ledger request ledger
  | checked : Step rules ledger .health { ledger with healthChecks := ledger.healthChecks + 1 }
  | created {database : DatabaseId} (absent : database ∉ ledger.databases) :
    Step rules ledger (.createDatabase database)
      { ledger with databases := ledger.databases ++ [database] }
  | failed {request : Request} {connection : Connection} {transaction : Json.Value} {waited : Bool}
      {error : LedgerError} (sent : request.submission? = some (connection,transaction,waited))
      (existing : connection.database ∈ ledger.databases)
      (failed : rules.outcome (ledger.next connection transaction waited) = .error error) :
    Step rules ledger request (ledger.take (ledger.next connection transaction waited))
  | carried {request : Request} {connection : Connection} {transaction : Json.Value} {waited : Bool}
      {record : Json.Value} (sent : request.submission? = some (connection,transaction,waited))
      (existing : connection.database ∈ ledger.databases)
      (carried : rules.outcome (ledger.next connection transaction waited) = .ok record) :
    Step rules ledger request
      (ledger.carriedOut rules (ledger.next connection transaction waited) record)
  | asked {connection : Connection} {query : Json.Value} :
    Step rules ledger (.query connection query)
      { ledger with
        queries := ledger.queries ++ [⟨connection.database,connection.key.account,query⟩] }
  | looked {connection : Connection} {tx : TxId} {stored : StoredRecord}
      (found : ledger.records.lookup tx = some stored) :
    Step rules ledger (.lookup connection tx) (ledger.looked tx stored)

theorem submit_step {request : Request}
    (sent : request.submission? = some (connection,transaction,waited)) :
    Step rules ledger request (ledger.submit rules connection transaction waited).2 := by
  by_cases existing : connection.database ∈ ledger.databases
  · cases outcome : rules.outcome (ledger.next connection transaction waited) with
    | error error =>
      rw [submit_failed existing outcome]
      exact .failed sent existing outcome
    | ok record =>
      rw [submit_carried existing outcome]
      exact .carried sent existing outcome
  · rw [submit_unknown existing]
    refine .kept fun tx looks => ?_
    rw [Request.lookup?_of_submission sent] at looks
    contradiction

theorem reply_step (rules : LedgerRules) (ledger : InMemoryLedger) (request : Request) :
    Step rules ledger request (reply rules request ledger).2 := by
  cases request with
  | health => exact .checked
  | createDatabase database =>
    rw [reply,createDatabase]
    split
    · exact .kept nofun
    · exact .created ‹_›
  | connect => exact .kept nofun
  | submit | submitAndWait => exact submit_step rfl
  | query => exact .asked
  | lookup connection tx =>
    simp only [reply,lookup]
    split
    · exact .kept fun other same => Option.some.inj same ▸ ‹_›
    · exact .looked ‹_›

/-- What every request preserves still holds whatever the ledger was asked for. -/
theorem preserved {property : InMemoryLedger → Prop}
    (step : ∀ request before after, property before → Step rules before request after →
      property after)
    {exchanged : List Exchange} {final : InMemoryLedger} (holds : property ledger)
    (follows : Follows (reply rules) exchanged ledger final) : property final := by
  induction exchanged generalizing ledger with
  | nil =>
    cases follows
    exact holds
  | cons exchange exchanged ih =>
    exact ih (step exchange.1 _ _ holds (reply_step rules ledger exchange.1)) follows.2

theorem mem_of_lookup {records : List (TxId × StoredRecord)} {tx : TxId} {stored : StoredRecord}
    (found : records.lookup tx = some stored) : (tx,stored) ∈ records := by
  obtain ⟨before,after,rfl,-⟩ := List.lookup_eq_some_iff.mp found
  exact List.mem_append_right _ List.mem_cons_self

/-- Submissions are numbered in order, and every record belongs to the submission of its
identifier. -/
structure Numbered (ledger : InMemoryLedger) : Prop where
  numbers : ledger.submissions.map Submission.number = List.range' 1 ledger.issued
  records : ∀ entry ∈ ledger.records, ∃ submission,
    ledger.submissions[entry.2.position]? = some submission ∧ submission.tx = entry.1

theorem numbered_empty : empty.Numbered := ⟨rfl,nofun⟩

namespace Numbered

theorem issued (numbered : ledger.Numbered) : ledger.issued = ledger.submissions.length := by
  simpa using (congrArg List.length numbered.numbers).symm

theorem number {i : Nat} {submission : Submission} (numbered : ledger.Numbered)
    (place : ledger.submissions[i]? = some submission) : submission.number = i + 1 := by
  obtain ⟨within,-⟩ := List.getElem?_eq_some_iff.mp place
  have counted : (ledger.submissions.map Submission.number)[i]? = some (1 + i) := by
    rw [numbered.numbers,List.getElem?_range' (numbered.issued ▸ within),Nat.one_mul]
  rw [List.getElem?_map,place] at counted
  exact (Option.some.inj counted).trans (Nat.add_comm 1 i)

/-- No record is kept yet under the next identifier. -/
theorem absent (numbered : ledger.Numbered) :
    ∀ entry ∈ ledger.records, entry.1 ≠ (ledger.next connection transaction waited).tx := by
  intro entry member same
  obtain ⟨submission,place,named⟩ := numbered.records entry member
  have within := (List.getElem?_eq_some_iff.mp place).1
  have number : submission.number = ledger.issued + 1 :=
    Submission.txOfNumber_injective (named.trans same)
  rw [numbered.number place,numbered.issued] at number
  omega

theorem fresh (numbered : ledger.Numbered) :
    ledger.records.lookup (ledger.next connection transaction waited).tx = none :=
  List.lookup_eq_none_iff.mpr fun entry member =>
    bne_iff_ne.mpr (numbered.absent entry member).symm

theorem carriedOut_records {record : Json.Value} (numbered : ledger.Numbered) :
    (ledger.carriedOut rules (ledger.next connection transaction waited) record).records =
      ledger.records ++ [((ledger.next connection transaction waited).tx,
        ⟨ledger.submissions.length,record,0,rules.hiddenFor waited⟩)] := by
  have apart : ledger.records.filter
      (·.1 ≠ (ledger.next connection transaction waited).tx) = ledger.records :=
    List.filter_eq_self.mpr fun entry member => decide_eq_true (numbered.absent entry member)
  exact congrArg (· ++ _) apart

theorem take (numbered : ledger.Numbered) :
    (ledger.take (ledger.next connection transaction waited)).Numbered where
  numbers := by
    simp [InMemoryLedger.take,next,numbered.numbers,List.range'_concat,Nat.add_comm]
  records entry member := by
    obtain ⟨submission,place,named⟩ := numbered.records entry member
    have within := (List.getElem?_eq_some_iff.mp place).1
    exact ⟨submission,(List.getElem?_append_left within).trans place,named⟩

theorem carriedOut {record : Json.Value} (numbered : ledger.Numbered) :
    (ledger.carriedOut rules (ledger.next connection transaction waited) record).Numbered where
  numbers := numbered.take.numbers
  records entry member := by
    rw [numbered.carriedOut_records] at member
    rcases List.mem_append.mp member with old | new
    · exact numbered.take.records entry old
    · obtain rfl := List.mem_singleton.mp new
      exact ⟨_,List.getElem?_concat_length,rfl⟩

/-- A lookup leaves every record under its identifier. -/
theorem looked {tx : TxId} {stored : StoredRecord} (numbered : ledger.Numbered)
    (found : ledger.records.lookup tx = some stored) : (ledger.looked tx stored).Numbered where
  numbers := numbered.numbers
  records entry member := by
    obtain ⟨before,present,rfl⟩ := List.mem_map.mp member
    by_cases same : before.1 = tx
    · rw [if_pos same]
      exact numbered.records (tx,stored) (mem_of_lookup found)
    · rw [if_neg same]
      exact numbered.records before present

theorem step {request : Request} {final : InMemoryLedger} (numbered : ledger.Numbered)
    (step : Step rules ledger request final) : final.Numbered := by
  cases step with
  | kept | checked | created | asked => exact ⟨numbered.numbers,numbered.records⟩
  | failed => exact numbered.take
  | carried => exact numbered.carriedOut
  | looked found => exact numbered.looked found

/-- Whatever a ledger was asked for, its records are numbered. -/
theorem follows {exchanged : List Exchange} {final : InMemoryLedger} (numbered : ledger.Numbered)
    (follows : Follows (InMemoryLedger.reply rules) exchanged ledger final) : final.Numbered :=
  preserved (fun _ _ _ numbered => numbered.step) numbered follows

end Numbered

/-- The record of a submission, with the lookups since and how many of them show nothing. -/
def Keeps (ledger : InMemoryLedger) (submission : Submission) (record : Json.Value)
    (lookups hiddenFor : Nat) : Prop :=
  ∃ position, ledger.submissions[position]? = some submission ∧
    ledger.records.lookup submission.tx = some ⟨position,record,lookups,hiddenFor⟩

theorem carriedOut_keeps {record : Json.Value} (numbered : ledger.Numbered) :
    (ledger.carriedOut rules (ledger.next connection transaction waited) record).Keeps
      (ledger.next connection transaction waited) record 0 (rules.hiddenFor waited) := by
  refine ⟨ledger.submissions.length,List.getElem?_concat_length,?_⟩
  rw [numbered.carriedOut_records,List.lookup_append,numbered.fresh,Option.none_or]
  exact List.lookup_cons_self

theorem submit_keeps {record : Json.Value} (numbered : ledger.Numbered)
    (existing : connection.database ∈ ledger.databases)
    {submission : Submission} (submitted : submission = ⟨ledger.submissions.length + 1,
      connection.database,connection.key.account,transaction,false⟩)
    (carried : rules.outcome submission = .ok record) :
    (InMemoryLedger.reply rules (.submit connection transaction) ledger).1 = .ok submission.tx ∧
      (InMemoryLedger.reply rules (.submit connection transaction) ledger).2.Keeps submission
        record 0 rules.commitAfter := by
  rw [← numbered.issued] at submitted
  subst submitted
  rw [InMemoryLedger.reply,submit_carried existing carried]
  exact ⟨rfl,carriedOut_keeps numbered⟩

theorem lookup_replaced {records : List (TxId × StoredRecord)} {tx : TxId}
    {before after : StoredRecord} (stored : records.lookup tx = some before) :
    (records.map fun entry => if entry.1 = tx then (tx,after) else entry).lookup tx =
      some after := by
  induction records with
  | nil => contradiction
  | cons entry records ih =>
    obtain ⟨name,kept⟩ := entry
    by_cases same : name = tx
    · simp [same]
    · have other : (tx == name) = false := beq_eq_false_iff_ne.mpr (Ne.symm same)
      rw [List.lookup_cons,other] at stored
      rw [List.map_cons,if_neg same,List.lookup_cons,other]
      exact ih stored

/-- The record shows when there were enough lookups, to those who may read its submission. -/
theorem shown_eq {identity : String} {stored : StoredRecord} {submission : Submission}
    (place : ledger.submissions[stored.position]? = some submission) :
    ledger.shown rules identity stored =
      if stored.hiddenFor < stored.lookups ∧ rules.visible identity submission
        then [stored.record] else [] := by
  rw [shown,place]
  by_cases hidden : stored.lookups ≤ stored.hiddenFor
  · rw [if_pos hidden,if_neg fun enough => Nat.not_lt_of_le hidden enough.1]
  · simp only [if_neg hidden,Nat.lt_of_not_le hidden,true_and]

/-- A lookup shows the record to those who may read it once there were enough lookups before, and
it counts as one. -/
theorem Keeps.looked {submission : Submission} {record : Json.Value} {lookups hiddenFor : Nat}
    (keeps : ledger.Keeps submission record lookups hiddenFor) (connection : Connection) :
    (InMemoryLedger.reply rules (.lookup connection submission.tx) ledger).1 =
        .ok (if hiddenFor ≤ lookups ∧ rules.visible connection.key.account submission
          then [record] else []) ∧
      (InMemoryLedger.reply rules (.lookup connection submission.tx) ledger).2.Keeps submission
        record (lookups + 1) hiddenFor := by
  obtain ⟨position,place,stored⟩ := keeps
  simp only [InMemoryLedger.reply,InMemoryLedger.lookup,stored]
  refine ⟨?_,position,place,lookup_replaced stored⟩
  rw [shown_eq place]
  simp only [Nat.lt_succ_iff]

end InMemoryLedger

end LedgerRehearsal

import LedgerRehearsal.Proofs.Ledger.InMemory
import LedgerRehearsal.Proofs.Ledger.Records
import Mathlib.Data.List.Nodup

/-! A ledger in memory stays consistent whatever it is asked for and by however many connections.
Its submissions are those that it was sent for databases that were created, numbered without gaps,
and each was answered with its own identifier. It keeps a record for each of those that were carried
out and for no other, and it only ever grows at the end. -/
namespace LedgerRehearsal

/-- What is kept of a submission that is carried out, besides its place and its lookups. -/
def LedgerRules.kept? (rules : LedgerRules) (submission : Submission) :
    Option (TxId × Json.Value × Nat) :=
  match rules.outcome submission with
  | .error _ => none
  | .ok record => some (submission.tx,record,rules.hiddenFor submission.waited)

theorem LedgerRules.kept?_eq_some {rules : LedgerRules} {submission : Submission} {tx : TxId}
    {record : Json.Value} {hiddenFor : Nat} :
    rules.kept? submission = some (tx,record,hiddenFor) ↔
      submission.tx = tx ∧ rules.outcome submission = .ok record ∧
        rules.hiddenFor submission.waited = hiddenFor := by
  unfold kept?
  split <;> simp [*]

namespace InMemoryLedger

variable {rules : LedgerRules} {ledger final : InMemoryLedger}

namespace Numbered

theorem tx_nodup (numbered : ledger.Numbered) : (ledger.submissions.map Submission.tx).Nodup := by
  have named : ledger.submissions.map Submission.tx =
      (ledger.submissions.map Submission.number).map Submission.txOfNumber := by
    rw [List.map_map]
    rfl
  rw [named,numbered.numbers]
  exact (List.nodup_range' 1).map Submission.txOfNumber_injective

theorem submission_unique {first second : Submission} (numbered : ledger.Numbered)
    (one : first ∈ ledger.submissions) (other : second ∈ ledger.submissions)
    (same : first.tx = second.tx) : first = second :=
  List.inj_on_of_nodup_map numbered.tx_nodup one other same

end Numbered

/-- The databases are distinct, every submission is to one of them, and the records are those of the
submissions that were carried out. -/
structure Consistent (rules : LedgerRules) (ledger : InMemoryLedger) : Prop extends
    Numbered ledger where
  databases : ledger.databases.Nodup
  created : ∀ submission ∈ ledger.submissions, submission.database ∈ ledger.databases
  kept : ledger.records.map (fun entry => (entry.1,entry.2.record,entry.2.hiddenFor)) =
    ledger.submissions.filterMap rules.kept?

theorem consistent_empty : empty.Consistent rules :=
  ⟨numbered_empty,List.nodup_nil,nofun,rfl⟩

namespace Consistent

/-- A record that is kept is the one of its submission. -/
theorem origin {entry : TxId × StoredRecord} (consistent : ledger.Consistent rules)
    (present : entry ∈ ledger.records) :
    ∃ submission, ledger.submissions[entry.2.position]? = some submission ∧
      submission.tx = entry.1 ∧ rules.outcome submission = .ok entry.2.record ∧
      rules.hiddenFor submission.waited = entry.2.hiddenFor := by
  obtain ⟨submission,place,named⟩ := consistent.records _ present
  have listed : (entry.1,entry.2.record,entry.2.hiddenFor) ∈
      ledger.submissions.filterMap rules.kept? := by
    rw [← consistent.kept]
    exact List.mem_map_of_mem present
  obtain ⟨origin,member,kept⟩ := List.mem_filterMap.mp listed
  obtain ⟨same,carried,hidden⟩ := LedgerRules.kept?_eq_some.mp kept
  obtain rfl := consistent.submission_unique member (List.mem_of_getElem? place)
    (same.trans named.symm)
  exact ⟨origin,place,same,carried,hidden⟩

theorem same_record {entry other : TxId × StoredRecord} (consistent : ledger.Consistent rules)
    (one : entry ∈ ledger.records) (two : other ∈ ledger.records) (same : entry.1 = other.1) :
    entry.2.record = other.2.record ∧ entry.2.hiddenFor = other.2.hiddenFor := by
  obtain ⟨submission,place,named,outcome,hidden⟩ := consistent.origin one
  obtain ⟨origin,place',named',outcome',hidden'⟩ := consistent.origin two
  obtain rfl := consistent.submission_unique (List.mem_of_getElem? place)
    (List.mem_of_getElem? place') (named.trans (same.trans named'.symm))
  exact ⟨Except.ok.inj (outcome.symm.trans outcome'),hidden.symm.trans hidden'⟩

/-- A record is kept of every submission that was carried out. -/
theorem keeps_of_carried {submission : Submission} {record : Json.Value}
    (consistent : ledger.Consistent rules) (member : submission ∈ ledger.submissions)
    (carried : rules.outcome submission = .ok record) :
    ∃ lookups, ledger.Keeps submission record lookups (rules.hiddenFor submission.waited) := by
  have listed : (submission.tx,record,rules.hiddenFor submission.waited) ∈
      ledger.records.map (fun entry => (entry.1,entry.2.record,entry.2.hiddenFor)) := by
    rw [consistent.kept]
    exact List.mem_filterMap.mpr ⟨submission,member,LedgerRules.kept?_eq_some.mpr ⟨rfl,carried,rfl⟩⟩
  obtain ⟨⟨tx,entry⟩,present,same⟩ := List.mem_map.mp listed
  cases found : ledger.records.lookup submission.tx with
  | none =>
    have apart := bne_iff_ne.mp (List.lookup_eq_none_iff.mp found _ present)
    exact absurd (congrArg Prod.fst same).symm apart
  | some stored =>
    obtain ⟨origin,place,named,outcome,hidden⟩ := consistent.origin (mem_of_lookup found)
    obtain rfl := consistent.submission_unique (List.mem_of_getElem? place) member named
    obtain rfl : record = stored.record := Except.ok.inj (carried.symm.trans outcome)
    rw [hidden]
    exact ⟨stored.lookups,stored.position,place,found⟩

theorem record_eq {submission : Submission} (consistent : ledger.Consistent rules)
    (member : submission ∈ ledger.submissions) :
    (ledger.records.lookup submission.tx).map StoredRecord.record =
      (rules.outcome submission).toOption := by
  cases found : ledger.records.lookup submission.tx with
  | some stored =>
    obtain ⟨origin,place,named,outcome,-⟩ := consistent.origin (mem_of_lookup found)
    obtain rfl := consistent.submission_unique (List.mem_of_getElem? place) member named
    rw [outcome]
    rfl
  | none =>
    cases outcome : rules.outcome submission with
    | error error => rfl
    | ok record =>
      obtain ⟨lookups,position,-,kept⟩ := consistent.keeps_of_carried member outcome
      rw [found] at kept
      contradiction

theorem take {connection : Connection} {transaction : Json.Value} {waited : Bool}
    {error : LedgerError} (consistent : ledger.Consistent rules)
    (existing : connection.database ∈ ledger.databases)
    (failed : rules.outcome (ledger.next connection transaction waited) = .error error) :
    (ledger.take (ledger.next connection transaction waited)).Consistent rules where
  toNumbered := consistent.toNumbered.take
  databases := consistent.databases
  created := List.forall_mem_append.mpr
    ⟨consistent.created,List.forall_mem_singleton.mpr existing⟩
  kept := by
    have none : rules.kept? (ledger.next connection transaction waited) = none := by
      rw [LedgerRules.kept?,failed]
    change ledger.records.map _ = (ledger.submissions ++ [_]).filterMap _
    rw [List.filterMap_append,List.filterMap_cons_none none,List.filterMap_nil,List.append_nil]
    exact consistent.kept

theorem carriedOut {connection : Connection} {transaction record : Json.Value} {waited : Bool}
    (consistent : ledger.Consistent rules) (existing : connection.database ∈ ledger.databases)
    (carried : rules.outcome (ledger.next connection transaction waited) = .ok record) :
    (ledger.carriedOut rules (ledger.next connection transaction waited) record).Consistent
      rules where
  toNumbered := consistent.toNumbered.carriedOut
  databases := consistent.databases
  created := List.forall_mem_append.mpr
    ⟨consistent.created,List.forall_mem_singleton.mpr existing⟩
  kept := by
    have kept := LedgerRules.kept?_eq_some.mpr ⟨rfl,carried,rfl⟩
    rw [consistent.carriedOut_records,List.map_append,consistent.kept]
    change _ = (ledger.submissions ++ [_]).filterMap _
    rw [List.filterMap_append,List.filterMap_cons_some kept]
    rfl

/-- A lookup changes no record, only how often it was looked up. -/
theorem looked {tx : TxId} {stored : StoredRecord} (consistent : ledger.Consistent rules)
    (found : ledger.records.lookup tx = some stored) :
    (ledger.looked tx stored).Consistent rules where
  toNumbered := consistent.toNumbered.looked found
  databases := consistent.databases
  created := consistent.created
  kept := by
    rw [InMemoryLedger.looked,List.map_map]
    refine (List.map_congr_left fun entry member => ?_).trans consistent.kept
    by_cases same : entry.1 = tx
    · obtain ⟨record,hidden⟩ := consistent.same_record member (mem_of_lookup found) same
      simp [same,record,hidden]
    · simp [same]

theorem step {request : Request} (consistent : ledger.Consistent rules)
    (step : Step rules ledger request final) : final.Consistent rules := by
  have numbered := consistent.toNumbered.step step
  cases step with
  | kept => exact consistent
  | checked | asked => exact ⟨numbered,consistent.databases,consistent.created,consistent.kept⟩
  | created absent =>
    refine ⟨numbered,?_,?_,consistent.kept⟩
    · exact List.nodup_append.mpr ⟨consistent.databases,List.nodup_singleton _,
        fun old member new named same => absent (List.mem_singleton.mp named ▸ same ▸ member)⟩
    · exact fun submission member => List.mem_append_left _ (consistent.created submission member)
  | failed _ existing failed => exact consistent.take existing failed
  | carried _ existing carried => exact consistent.carriedOut existing carried
  | looked found => exact consistent.looked found

theorem follows {exchanged : List Exchange} (consistent : ledger.Consistent rules)
    (follows : Follows (InMemoryLedger.reply rules) exchanged ledger final) :
    final.Consistent rules :=
  preserved (fun _ _ _ consistent => consistent.step) consistent follows

end Consistent

/-- What is there stays in its place. -/
structure Grows (before after : InMemoryLedger) : Prop where
  databases : before.databases <+: after.databases
  submissions : before.submissions <+: after.submissions
  queries : before.queries <+: after.queries

namespace Grows

theorem refl (ledger : InMemoryLedger) : Grows ledger ledger :=
  ⟨List.prefix_rfl,List.prefix_rfl,List.prefix_rfl⟩

theorem trans {before between after : InMemoryLedger} (first : Grows before between)
    (rest : Grows between after) : Grows before after :=
  ⟨first.databases.trans rest.databases,first.submissions.trans rest.submissions,
    first.queries.trans rest.queries⟩

theorem step {request : Request} (step : Step rules ledger request final) :
    Grows ledger final := by
  have same := refl ledger
  cases step with
  | kept | checked | looked => exact ⟨same.databases,same.submissions,same.queries⟩
  | created => exact { same with databases := List.prefix_append _ _ }
  | failed | carried => exact { same with submissions := List.prefix_append _ _ }
  | asked => exact { same with queries := List.prefix_append _ _ }

theorem follows {exchanged : List Exchange}
    (follows : Follows (InMemoryLedger.reply rules) exchanged ledger final) : Grows ledger final :=
  preserved (fun _ _ _ grows moved => grows.trans (step moved)) (refl ledger) follows

end Grows

/-- How a submission that is kept was sent and what was replied: its identifier, or its record to one
who waits for it. -/
inductive Answered (rules : LedgerRules) : Exchange → Submission → Prop where
  | submitted {connection : Connection} {transaction : Json.Value} {submission : Submission} :
      submission.sent = (connection.database,connection.key.account,transaction,false) →
      Answered rules
        ⟨.submit connection transaction,(rules.outcome submission).map fun _ => submission.tx⟩
        submission
  | awaited {connection : Connection} {transaction : Json.Value} {submission : Submission} :
      submission.sent = (connection.database,connection.key.account,transaction,true) →
      Answered rules ⟨.submitAndWait connection transaction,rules.outcome submission⟩ submission

/-- The transaction is for a database that is there. -/
def accepts (databases : List DatabaseId) (exchange : Exchange) : Bool :=
  exchange.submission?.any fun sent => sent.1 ∈ databases

/-- What was sent to databases that had been created by then. -/
def accepted (databases : List DatabaseId) : List Exchange → List Exchange
  | [] => []
  | exchange :: rest =>
    let later := accepted (databases ++ exchange.created?.toList) rest
    if accepts databases exchange then exchange :: later else later

theorem submit_taken {connection : Connection} {transaction : Json.Value} {waited : Bool}
    (existing : connection.database ∈ ledger.databases) :
    let submission := ledger.next connection transaction waited
    (ledger.submit rules connection transaction waited).2.submissions =
        ledger.submissions ++ [submission] ∧
      (ledger.submit rules connection transaction waited).1 =
        (rules.outcome submission).map fun record => (submission.tx,record) := by
  intro submission
  cases outcome : rules.outcome submission with
  | error error =>
    rw [submit_failed existing outcome]
    exact ⟨rfl,rfl⟩
  | ok record =>
    rw [submit_carried existing outcome]
    exact ⟨rfl,rfl⟩

theorem reply_accepted {request : Request}
    (accepted : accepts ledger.databases ⟨request,(reply rules request ledger).1⟩ = true) :
    ∃ submission, (reply rules request ledger).2.submissions = ledger.submissions ++ [submission] ∧
      Answered rules ⟨request,(reply rules request ledger).1⟩ submission := by
  cases request with
  | submit connection transaction =>
    obtain ⟨kept,replied⟩ := submit_taken (of_decide_eq_true accepted)
    have told : (reply rules (.submit connection transaction) ledger).1 =
        (rules.outcome (ledger.next connection transaction false)).map fun _ =>
          (ledger.next connection transaction false).tx := by
      refine (congrArg (Except.map Prod.fst) replied).trans ?_
      cases rules.outcome (ledger.next connection transaction false) <;> rfl
    rw [told]
    exact ⟨_,kept,.submitted rfl⟩
  | submitAndWait connection transaction =>
    obtain ⟨kept,replied⟩ := submit_taken (of_decide_eq_true accepted)
    have told : (reply rules (.submitAndWait connection transaction) ledger).1 =
        rules.outcome (ledger.next connection transaction true) := by
      refine (congrArg (Except.map Prod.snd) replied).trans ?_
      cases rules.outcome (ledger.next connection transaction true) <;> rfl
    rw [told]
    exact ⟨_,kept,.awaited rfl⟩
  | _ => cases accepted

theorem reply_unaccepted {request : Request}
    (refused : accepts ledger.databases ⟨request,(reply rules request ledger).1⟩ = false) :
    (reply rules request ledger).2.submissions = ledger.submissions := by
  cases request with
  | createDatabase database =>
    simp only [reply,createDatabase]
    split <;> rfl
  | submit connection transaction | submitAndWait connection transaction =>
    have absent : connection.database ∉ ledger.databases := of_decide_eq_false refused
    rw [reply,submit_unknown absent]
  | lookup => exact lookup_keeps.2.1
  | health | connect | query => rfl

/-- The submissions are those that were sent to databases that were there, and their replies. -/
theorem follows_accepted {exchanged : List Exchange}
    (follows : Follows (reply rules) exchanged ledger final) :
    ∃ taken, final.submissions = ledger.submissions ++ taken ∧
      List.Forall₂ (Answered rules) (accepted ledger.databases exchanged) taken := by
  induction exchanged generalizing ledger with
  | nil =>
    cases follows
    exact ⟨[],(List.append_nil _).symm,.nil⟩
  | cons exchange exchanged ih =>
    obtain ⟨request,given⟩ := exchange
    obtain ⟨rfl,follows⟩ := follows
    obtain ⟨taken,same,answered⟩ := ih follows
    rw [reply_databases] at answered
    cases known : accepts ledger.databases ⟨request,(reply rules request ledger).1⟩ with
    | true =>
      obtain ⟨submission,kept,first⟩ := reply_accepted known
      refine ⟨submission :: taken,by simp [same,kept],?_⟩
      rw [accepted,if_pos known]
      exact .cons first answered
    | false =>
      refine ⟨taken,by rw [same,reply_unaccepted known],?_⟩
      rw [accepted,if_neg (by simp [known])]
      exact answered

/-- Whatever a new ledger was asked for, by any number of connections: its databases are those that it
created, all distinct, and its submissions are those that it was sent for them, with the identifiers
of their places, which are the ones that it replied. It keeps the record of each submission that was
carried out and no others. From then on it only grows at the end, and a refusal leaves it as it is. -/
theorem reached_consistent {exchanged : List Exchange}
    (follows : Follows (reply rules) exchanged empty final) :
    final.databases.Nodup ∧ final.databases = exchanged.filterMap Exchange.created? ∧
      final.issued = final.submissions.length ∧
      List.Forall₂ (Answered rules) (accepted [] exchanged) final.submissions ∧
      (∀ i submission, final.submissions[i]? = some submission →
        submission.tx = "tx-" ++ String.ofList ((Nat.toDigits 10 (i + 1)).leftpad 4 '0') ∧
        submission.database ∈ final.databases) ∧
      (final.submissions.map Submission.tx).Nodup ∧
      (∀ tx stored, final.records.lookup tx = some stored →
        ∃ submission, final.submissions[stored.position]? = some submission ∧
          submission.tx = tx ∧ rules.outcome submission = .ok stored.record) ∧
      (∀ submission ∈ final.submissions,
        (final.records.lookup submission.tx).map StoredRecord.record =
          (rules.outcome submission).toOption) ∧
      (∀ further last, Follows (reply rules) further final last →
        final.databases <+: last.databases ∧ final.submissions <+: last.submissions ∧
          final.queries <+: last.queries) ∧
      (∀ database, reply rules (.createDatabase database) final =
        if database ∈ final.databases then
          (.error (.rejected 400 s!"database {database.text} already exists"),final)
        else (.ok (),{ final with databases := final.databases ++ [database] })) ∧
      ∀ connection, reply rules (.connect connection) final =
        (if connection.database ∈ final.databases then .ok ()
          else .error (.unknownDatabase connection.database.text),final) := by
  have consistent := consistent_empty.follows follows
  obtain ⟨taken,same,answered⟩ := follows_accepted follows
  refine ⟨consistent.databases,follows_databases follows,consistent.issued,?_,
    fun i submission place => ?_,
    consistent.tx_nodup,fun tx stored found => ?_,fun submission => consistent.record_eq,
    fun further last later => ?_,fun database => rfl,fun connection => rfl⟩
  · rw [same]
    exact answered
  · refine ⟨?_,consistent.created submission (List.mem_of_getElem? place)⟩
    rw [Submission.tx,consistent.number place,Submission.txOfNumber]
  · obtain ⟨submission,place,named,outcome,-⟩ := consistent.origin (mem_of_lookup found)
    exact ⟨submission,place,named,outcome⟩
  · have grows := Grows.follows later
    exact ⟨grows.databases,grows.submissions,grows.queries⟩

/-- The rules fail what bob submits. -/
def withoutBob : LedgerRules :=
  { LedgerRules.plain with
    outcome := fun submission =>
      if submission.identity = "bob" then .error (.transport "gone") else .ok .null }

def aliceAtBooks : Connection := ⟨⟨"net/books"⟩,⟨"a","alice"⟩⟩

def bobAtBooks : Connection := ⟨⟨"net/books"⟩,⟨"b","bob"⟩⟩

/-- Two keys share a database, and a third one does not find its own. -/
def sharedBooks : List Exchange :=
  [⟨.createDatabase ⟨"net/books"⟩,.ok ()⟩,
    ⟨.createDatabase ⟨"net/books"⟩,.error (.rejected 400 "database net/books already exists")⟩,
    ⟨.connect ⟨⟨"net/lost"⟩,⟨"c","carol"⟩⟩,.error (.unknownDatabase "net/lost")⟩,
    ⟨.submit bobAtBooks .null,.error (.transport "gone")⟩,
    ⟨.submitAndWait aliceAtBooks .null,.ok .null⟩,
    ⟨.lookup bobAtBooks "tx-0002",.ok [.null]⟩,
    ⟨.query bobAtBooks .null,.ok []⟩]

def afterSharedBooks : InMemoryLedger :=
  ⟨[⟨"net/books"⟩],[⟨1,⟨"net/books"⟩,"bob",.null,false⟩,⟨2,⟨"net/books"⟩,"alice",.null,true⟩],
    [("tx-0002",⟨1,.null,1,0⟩)],[⟨⟨"net/books"⟩,"bob",.null⟩],2,0⟩

theorem sharedBooks_consistent :
    Follows (reply withoutBob) sharedBooks empty afterSharedBooks ∧
      (accepted [] sharedBooks).map (·.1) =
        [.submit bobAtBooks .null,.submitAndWait aliceAtBooks .null] ∧
      List.Forall₂ (Answered withoutBob) (accepted [] sharedBooks) afterSharedBooks.submissions ∧
      (afterSharedBooks.submissions.map Submission.tx).Nodup ∧
      afterSharedBooks.issued = afterSharedBooks.submissions.length ∧
      (∃ submission, afterSharedBooks.submissions[1]? = some submission ∧
        submission.tx = "tx-0002" ∧ withoutBob.outcome submission = .ok .null) := by
  have follows : Follows (reply withoutBob) sharedBooks empty afterSharedBooks :=
    ⟨rfl,rfl,rfl,rfl,rfl,rfl,rfl,rfl⟩
  obtain ⟨-,-,issued,answered,-,distinct,records,-⟩ := reached_consistent follows
  exact ⟨follows,rfl,answered,distinct,issued,records "tx-0002" _ rfl⟩

end InMemoryLedger

end LedgerRehearsal

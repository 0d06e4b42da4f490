import LedgerRehearsal.Ledger.InMemory
import LedgerRehearsal.Proofs.Scenario.Database

/-! What a ledger in memory keeps. Its lists grow at the end, by one entry for each request that
they keep, so they can be read off the history of a run. -/
namespace LedgerRehearsal

open Json

/-- A ledger in memory with any choice of suffixes. -/
def LedgerRules.inMemory (rules : LedgerRules) (suffix : Nat → String) :
    Surroundings InMemoryLedger :=
  ⟨InMemoryLedger.reply rules,fun _ _ => [],suffix⟩

namespace Exchange

def created? : Exchange → Option DatabaseId
  | ⟨.createDatabase database,.ok _⟩ => some database
  | _ => none

/-- The database, the identity, the transaction, and whether the submitter waited. -/
def submission? : Exchange → Option (DatabaseId × String × Value × Bool)
  | ⟨.submit connection transaction,_⟩ =>
    some (connection.database,connection.key.account,transaction,false)
  | ⟨.submitAndWait connection transaction,_⟩ =>
    some (connection.database,connection.key.account,transaction,true)
  | _ => none

def query? : Exchange → Option LedgerQuery
  | ⟨.query connection query,_⟩ => some ⟨connection.database,connection.key.account,query⟩
  | _ => none

end Exchange

def Submission.sent (submission : Submission) : DatabaseId × String × Value × Bool :=
  (submission.database,submission.identity,submission.transaction,submission.waited)

namespace InMemoryLedger

variable {rules : LedgerRules} {ledger : InMemoryLedger}

theorem submit_databases {connection : Connection} {transaction : Value} {waited : Bool} :
    (ledger.submit rules connection transaction waited).2.databases = ledger.databases := by
  unfold submit
  split
  · rfl
  · dsimp only
    split <;> rfl

theorem submit_queries {connection : Connection} {transaction : Value} {waited : Bool} :
    (ledger.submit rules connection transaction waited).2.queries = ledger.queries := by
  unfold submit
  split
  · rfl
  · dsimp only
    split <;> rfl

theorem submissionsTo_sent (ledger : InMemoryLedger) (database : DatabaseId) :
    (ledger.submissionsTo database).map Submission.sent =
      (ledger.submissions.map Submission.sent).filter fun sent => sent.1 = database := by
  rw [List.filter_map]
  rfl

/-- Whatever becomes of a submission, it is kept. -/
theorem submit_submissions {connection : Connection} {transaction : Value} {waited : Bool}
    (existing : connection.database ∈ ledger.databases) :
    (ledger.submit rules connection transaction waited).2.submissions.map Submission.sent =
      ledger.submissions.map Submission.sent ++
        [(connection.database,connection.key.account,transaction,waited)] := by
  simp only [submit,requireDatabase,if_pos existing]
  split <;> simp [Submission.sent,next,take,store]

theorem lookup_keeps {identity : String} {tx : TxId} :
    (ledger.lookup rules identity tx).2.databases = ledger.databases ∧
      (ledger.lookup rules identity tx).2.submissions = ledger.submissions ∧
      (ledger.lookup rules identity tx).2.queries = ledger.queries := by
  unfold lookup
  split <;> exact ⟨rfl,rfl,rfl⟩

theorem reply_databases (request : Request) :
    (reply rules request ledger).2.databases = ledger.databases ++
      (Exchange.created? ⟨request,(reply rules request ledger).1⟩).toList := by
  cases request with
  | createDatabase database =>
    simp only [reply,createDatabase]
    split <;> simp [Exchange.created?]
  | submit | submitAndWait => simp [reply,submit_databases,Exchange.created?]
  | lookup => simp [reply,lookup_keeps,Exchange.created?]
  | health | connect | query => simp [reply,checkHealth,query,Exchange.created?]

theorem reply_queries (request : Request) :
    (reply rules request ledger).2.queries = ledger.queries ++
      (Exchange.query? ⟨request,(reply rules request ledger).1⟩).toList := by
  cases request with
  | createDatabase database =>
    simp only [reply,createDatabase]
    split <;> simp [Exchange.query?]
  | submit | submitAndWait => simp [reply,submit_queries,Exchange.query?]
  | lookup => simp [reply,lookup_keeps,Exchange.query?]
  | health | connect | query => simp [reply,checkHealth,query,Exchange.query?]

theorem reply_submissions (request : Request)
    (existing : ∀ connection, request.connection? = some connection →
      connection.database ∈ ledger.databases) :
    (reply rules request ledger).2.submissions.map Submission.sent =
      ledger.submissions.map Submission.sent ++
        (Exchange.submission? ⟨request,(reply rules request ledger).1⟩).toList := by
  cases request with
  | createDatabase database =>
    simp only [reply,createDatabase]
    split <;> simp [Exchange.submission?]
  | submit connection | submitAndWait connection =>
    simp [reply,submit_submissions (existing connection rfl),Exchange.submission?]
  | lookup => simp [reply,lookup_keeps,Exchange.submission?]
  | health | connect | query => simp [reply,checkHealth,query,Exchange.submission?]

/-- The databases are those that were created, in this order. -/
theorem follows_databases {exchanged : List Exchange} {final : InMemoryLedger}
    (follows : Follows (reply rules) exchanged ledger final) :
    final.databases = ledger.databases ++ exchanged.filterMap Exchange.created? := by
  induction exchanged generalizing ledger with
  | nil =>
    cases follows
    simp
  | cons exchange exchanged ih =>
    obtain ⟨request,given⟩ := exchange
    obtain ⟨rfl,follows⟩ := follows
    rw [ih follows,reply_databases,List.append_assoc,List.filterMap_cons]
    cases Exchange.created? ⟨request,(reply rules request ledger).1⟩ <;> rfl

theorem follows_queries {exchanged : List Exchange} {final : InMemoryLedger}
    (follows : Follows (reply rules) exchanged ledger final) :
    final.queries = ledger.queries ++ exchanged.filterMap Exchange.query? := by
  induction exchanged generalizing ledger with
  | nil =>
    cases follows
    simp
  | cons exchange exchanged ih =>
    obtain ⟨request,given⟩ := exchange
    obtain ⟨rfl,follows⟩ := follows
    rw [ih follows,reply_queries,List.append_assoc,List.filterMap_cons]
    cases Exchange.query? ⟨request,(reply rules request ledger).1⟩ <;> rfl

/-- Every connection is used after its database was created. -/
def UsesExisting : List DatabaseId → List Exchange → Prop
  | _, [] => True
  | databases, exchange :: rest =>
    (∀ connection, exchange.1.connection? = some connection → connection.database ∈ databases) ∧
      UsesExisting (databases ++ exchange.created?.toList) rest

theorem usesExisting_append {first rest : List Exchange} {databases : List DatabaseId} :
    UsesExisting databases (first ++ rest) ↔
      UsesExisting databases first ∧
        UsesExisting (databases ++ first.filterMap Exchange.created?) rest := by
  induction first generalizing databases with
  | nil => simp [UsesExisting]
  | cons exchange first ih =>
    rw [List.cons_append,UsesExisting,UsesExisting,ih,and_assoc,List.append_assoc,
      List.filterMap_cons]
    cases exchange.created? <;> rfl

theorem usesExisting_of_forall {exchanged : List Exchange} {databases : List DatabaseId}
    (existing : ∀ exchange ∈ exchanged, ∀ connection,
      exchange.1.connection? = some connection → connection.database ∈ databases) :
    UsesExisting databases exchanged := by
  induction exchanged generalizing databases with
  | nil => trivial
  | cons exchange exchanged ih =>
    refine ⟨existing exchange List.mem_cons_self,ih fun other member connection made => ?_⟩
    exact List.mem_append_left _ (existing other (List.mem_cons_of_mem _ member) connection made)

theorem usesExisting_of_checks {checks : List Exchange} {databases : List DatabaseId}
    (health : ∀ exchange ∈ checks, exchange.1 = .health) : UsesExisting databases checks := by
  refine usesExisting_of_forall fun exchange member connection made => ?_
  rw [health exchange member] at made
  contradiction

theorem follows_submissions {exchanged : List Exchange} {final : InMemoryLedger}
    (follows : Follows (reply rules) exchanged ledger final)
    (existing : UsesExisting ledger.databases exchanged) :
    final.submissions.map Submission.sent =
      ledger.submissions.map Submission.sent ++ exchanged.filterMap Exchange.submission? := by
  induction exchanged generalizing ledger with
  | nil =>
    cases follows
    simp
  | cons exchange exchanged ih =>
    obtain ⟨request,given⟩ := exchange
    obtain ⟨rfl,follows⟩ := follows
    have later := existing.2
    rw [← reply_databases] at later
    rw [ih follows later,reply_submissions request existing.1,List.append_assoc,List.filterMap_cons]
    cases Exchange.submission? ⟨request,(reply rules request ledger).1⟩ <;> rfl

end InMemoryLedger

/-- All that is exchanged concerns one database, and it begins with the creation of it. -/
def Confined (database : DatabaseId) (exchanged : List Exchange) : Prop :=
  ∃ rest, exchanged = ⟨.createDatabase database,.ok ()⟩ :: rest ∧
    ∀ exchange ∈ rest, ∃ connection, exchange.1.connection? = some connection ∧
      connection.database = database

theorem created_within {database : DatabaseId} {exchanged : List Exchange}
    (within : ∀ exchange ∈ exchanged, ∃ connection, exchange.1.connection? = some connection ∧
      connection.database = database) :
    exchanged.filterMap Exchange.created? = [] := by
  refine List.filterMap_eq_nil_iff.mpr fun exchange member => ?_
  obtain ⟨connection,made,-⟩ := within exchange member
  obtain ⟨request,reply⟩ := exchange
  cases request with
  | createDatabase database => contradiction
  | _ => rfl

namespace Confined

variable {database : DatabaseId} {exchanged : List Exchange}

theorem usesExisting (confined : Confined database exchanged) (databases : List DatabaseId) :
    InMemoryLedger.UsesExisting databases exchanged := by
  obtain ⟨rest,rfl,within⟩ := confined
  refine ⟨nofun,InMemoryLedger.usesExisting_of_forall fun exchange member connection made => ?_⟩
  obtain ⟨used,same,rfl⟩ := within exchange member
  obtain rfl : used = connection := Option.some.inj (same.symm.trans made)
  exact List.mem_append_right _ List.mem_cons_self

theorem submission_database (confined : Confined database exchanged) :
    ∀ sent ∈ exchanged.filterMap Exchange.submission?, sent.1 = database := by
  obtain ⟨rest,rfl,within⟩ := confined
  intro sent member
  obtain ⟨⟨request,reply⟩,present,kept⟩ := List.mem_filterMap.mp member
  rcases List.mem_cons.mp present with same | later
  · cases same
    contradiction
  obtain ⟨connection,made,rfl⟩ := within _ later
  cases request with
  | submit | submitAndWait =>
    cases made
    cases kept
    rfl
  | _ => contradiction

theorem query_database (confined : Confined database exchanged) :
    ∀ asked ∈ exchanged.filterMap Exchange.query?, asked.database = database := by
  obtain ⟨rest,rfl,within⟩ := confined
  intro asked member
  obtain ⟨⟨request,reply⟩,present,kept⟩ := List.mem_filterMap.mp member
  rcases List.mem_cons.mp present with same | later
  · cases same
    contradiction
  obtain ⟨connection,made,rfl⟩ := within _ later
  cases request with
  | query =>
    cases made
    cases kept
    rfl
  | _ => contradiction

end Confined

theorem usesExisting_flatten {parts : List (List Exchange)} {databases : List DatabaseId}
    (each : ∀ part ∈ parts, ∀ databases, InMemoryLedger.UsesExisting databases part) :
    InMemoryLedger.UsesExisting databases parts.flatten := by
  induction parts generalizing databases with
  | nil => trivial
  | cons part parts ih =>
    exact InMemoryLedger.usesExisting_append.mpr ⟨each part List.mem_cons_self databases,
      ih fun other member => each other (List.mem_cons_of_mem _ member)⟩

/-- Of parts with different owners, those of one owner are one part. -/
theorem filter_flatten_of_owner {ι κ : Type} [DecidableEq κ] {owner : ι → κ} {name : Nat → κ}
    (distinct : ∀ i j, name i = name j → i = j) {parts : List (List ι)}
    (owned : ∀ i part, parts[i]? = some part → ∀ item ∈ part, owner item = name i)
    {i : Nat} {part : List ι} (place : parts[i]? = some part) :
    parts.flatten.filter (fun item => owner item = name i) = part := by
  induction parts generalizing name i with
  | nil => simp at place
  | cons head parts ih =>
    have first := owned 0 head rfl
    have later (j : Nat) (part : List ι) (at' : parts[j]? = some part) :
        ∀ item ∈ part, owner item = name (j + 1) := owned (j + 1) part at'
    rw [List.flatten_cons,List.filter_append]
    cases i with
    | zero =>
      obtain rfl : head = part := by simpa using place
      have all : head.filter (fun item => owner item = name 0) = head :=
        List.filter_eq_self.mpr fun item member => decide_eq_true (first item member)
      have none : parts.flatten.filter (fun item => owner item = name 0) = [] := by
        refine List.filter_eq_nil_iff.mpr fun item member same => ?_
        obtain ⟨part,among,inside⟩ := List.mem_flatten.mp member
        obtain ⟨j,at'⟩ := List.mem_iff_getElem?.mp among
        have apart := distinct _ _ <|
          (later j part at' item inside).symm.trans (of_decide_eq_true same)
        omega
      rw [all,none,List.append_nil]
    | succ i =>
      have none : head.filter (fun item => owner item = name (i + 1)) = [] := by
        refine List.filter_eq_nil_iff.mpr fun item member same => ?_
        have apart := distinct _ _ ((first item member).symm.trans (of_decide_eq_true same))
        omega
      rw [none,List.nil_append]
      exact ih (fun i j same => Nat.succ.inj (distinct _ _ same)) later (by simpa using place)

theorem filterMap_checks {ι : Type} {f : Exchange → Option ι} {checks : List Exchange}
    (health : ∀ exchange ∈ checks, exchange.1 = .health)
    (silent : ∀ reply, f ⟨.health,reply⟩ = none) :
    checks.filterMap f = [] := by
  refine List.filterMap_eq_nil_iff.mpr fun ⟨request,reply⟩ member => ?_
  obtain rfl : request = .health := health _ member
  exact silent reply

/-- What a ledger keeps of the work on each of several databases that were created for it. -/
theorem kept_of_confined {rules : LedgerRules} {ledger final : InMemoryLedger}
    {name : Nat → DatabaseId} (distinct : ∀ i j, name i = name j → i = j)
    {checks : List Exchange} {parts : List (List Exchange)}
    (health : ∀ exchange ∈ checks, exchange.1 = .health)
    (confined : ∀ i part, parts[i]? = some part → Confined (name i) part)
    (follows : Follows (InMemoryLedger.reply rules) (checks ++ parts.flatten) ledger final)
    {i : Nat} {part : List Exchange} (place : parts[i]? = some part) :
    (final.submissionsTo (name i)).map Submission.sent =
        (ledger.submissionsTo (name i)).map Submission.sent ++
          part.filterMap Exchange.submission? ∧
      (final.queries.filter fun asked => asked.database = name i) =
        (ledger.queries.filter fun asked => asked.database = name i) ++
          part.filterMap Exchange.query? := by
  have existing : InMemoryLedger.UsesExisting ledger.databases (checks ++ parts.flatten) := by
    refine InMemoryLedger.usesExisting_append.mpr
      ⟨InMemoryLedger.usesExisting_of_checks health,usesExisting_flatten fun part member => ?_⟩
    obtain ⟨j,at'⟩ := List.mem_iff_getElem?.mp member
    exact (confined j part at').usesExisting
  have submissions := InMemoryLedger.follows_submissions follows existing
  have queries := InMemoryLedger.follows_queries follows
  rw [List.filterMap_append,filterMap_checks health fun _ => rfl,List.nil_append,
    List.filterMap_flatten] at submissions queries
  constructor
  · rw [InMemoryLedger.submissionsTo_sent,InMemoryLedger.submissionsTo_sent,submissions,
      List.filter_append]
    refine congrArg _ (filter_flatten_of_owner distinct (fun j kept at' => ?_) (by simp [place]))
    rw [List.getElem?_map] at at'
    obtain ⟨part,atPart,rfl⟩ := Option.map_eq_some_iff.mp at'
    exact (confined j part atPart).submission_database
  · rw [queries,List.filter_append]
    refine congrArg _ (filter_flatten_of_owner distinct (fun j kept at' => ?_) (by simp [place]))
    rw [List.getElem?_map] at at'
    obtain ⟨part,atPart,rfl⟩ := Option.map_eq_some_iff.mp at'
    exact (confined j part atPart).query_database

namespace InMemoryLedger

variable {rules : LedgerRules} {ledger final : InMemoryLedger} {database : DatabaseId}

/-- Only a database that is not there can be created. -/
theorem follows_createDatabase {rest : List Exchange}
    (follows : Follows (reply rules) (⟨.createDatabase database,.ok ()⟩ :: rest) ledger final) :
    database ∉ ledger.databases := by
  intro member
  have refused : Except.ok () = (ledger.createDatabase database).1 := follows.1
  simp [createDatabase,member] at refused

/-- A database that was created can be opened. -/
theorem follows_connect {connection : Connection} {opened : Except LedgerError Unit}
    {rest : List Exchange}
    (follows : Follows (reply rules)
      (⟨.createDatabase database,.ok ()⟩ :: ⟨.connect connection,opened⟩ :: rest) ledger final)
    (here : connection.database = database) : opened = .ok () := by
  have absent := follows_createDatabase follows
  obtain ⟨-,opening,-⟩ := follows
  have usable : opened = requireDatabase (ledger.createDatabase database).2 connection.database :=
    opening
  rw [usable,createDatabase,if_neg absent,requireDatabase,if_pos (by simp [here])]

theorem UsesExisting.submission_database {databases : List DatabaseId} {exchanged : List Exchange}
    (existing : UsesExisting databases exchanged) :
    ∀ sent ∈ exchanged.filterMap Exchange.submission?,
      sent.1 ∈ databases ++ exchanged.filterMap Exchange.created? := by
  induction exchanged generalizing databases with
  | nil => simp
  | cons exchange exchanged ih =>
    intro sent member
    have grown : databases ++ (exchange :: exchanged).filterMap Exchange.created? =
        databases ++ exchange.created?.toList ++ exchanged.filterMap Exchange.created? := by
      rw [List.filterMap_cons,List.append_assoc]
      cases exchange.created? <;> rfl
    rw [grown]
    obtain ⟨⟨request,reply⟩,present,kept⟩ := List.mem_filterMap.mp member
    rcases List.mem_cons.mp present with rfl | later
    · refine List.mem_append_left _ (List.mem_append_left _ ?_)
      cases request with
      | submit connection | submitAndWait connection =>
        cases kept
        exact existing.1 connection rfl
      | _ => contradiction
    · exact ih existing.2 sent (List.mem_filterMap.mpr ⟨_,later,kept⟩)

/-- A ledger keeps the work on the last database that was created apart from all earlier work. -/
theorem kept_of_last {before part : List Exchange}
    (follows : Follows (reply rules) (before ++ part) ledger final)
    (existing : UsesExisting ledger.databases before) (confined : Confined database part) :
    final.databases = ledger.databases ++ before.filterMap Exchange.created? ++ [database] ∧
      (final.submissionsTo database).map Submission.sent =
        (ledger.submissionsTo database).map Submission.sent ++
          part.filterMap Exchange.submission? := by
  obtain ⟨middle,first,last⟩ := (follows_append _ _ _ _ _).mp follows
  have earlier := follows_databases first
  have absent : database ∉ middle.databases := by
    obtain ⟨rest,rfl,-⟩ := confined
    exact follows_createDatabase last
  constructor
  · obtain ⟨rest,rfl,within⟩ := confined
    rw [follows_databases last,earlier,List.filterMap_cons,created_within within]
    rfl
  · have all : UsesExisting ledger.databases (before ++ part) :=
      usesExisting_append.mpr ⟨existing,confined.usesExisting _⟩
    have none : (before.filterMap Exchange.submission?).filter
        (fun sent => sent.1 = database) = [] := by
      refine List.filter_eq_nil_iff.mpr fun sent member same => absent ?_
      rw [earlier,← of_decide_eq_true same]
      exact existing.submission_database sent member
    have whole : (part.filterMap Exchange.submission?).filter (fun sent => sent.1 = database) =
        part.filterMap Exchange.submission? :=
      List.filter_eq_self.mpr fun sent member =>
        decide_eq_true (confined.submission_database sent member)
    rw [submissionsTo_sent,submissionsTo_sent,follows_submissions follows all,
      List.filterMap_append,List.filter_append,List.filter_append,none,whole,List.nil_append]

end InMemoryLedger

end LedgerRehearsal

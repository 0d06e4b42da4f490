import LedgerRehearsal.Proofs.Trace

/-! Work on a list in turn, one item after another and up to the first that fails. Every loop of a
rehearsal is of this kind: the stages of a target, the artifacts of a schema, the scenarios of a
stage and the entries of a scenario. -/
namespace LedgerRehearsal

variable {α β Log ε : Type}

/-- The error of a result that is one. -/
def errorOf? : Except ε α → Option ε
  | .ok _ => none
  | .error error => some error

@[simp] theorem errorOf?_ok (value : α) : errorOf? (.ok value : Except ε α) = none := rfl

@[simp] theorem errorOf?_error (error : ε) :
    errorOf? (.error error : Except ε α) = some error := rfl

@[simp] theorem errorOf?_eq_some {result : Except ε α} {error : ε} :
    errorOf? result = some error ↔ result = .error error := by
  cases result <;> simp [errorOf?]

theorem errorOf?_isSome_iff {result : Except ε α} :
    (errorOf? result).isSome ↔ ∃ error, result = .error error := by
  cases result <;> simp

/-- The error of a loop is that of the first item that fails. -/
theorem errorOf?_mapM (f : α → Except ε β) (items : List α) :
    errorOf? (items.mapM f) = items.findSome? fun item => errorOf? (f item) := by
  induction items with
  | nil => rfl
  | cons item items ih =>
    rw [List.mapM_cons,List.findSome?_cons]
    cases f item with
    | error error => rfl
    | ok value =>
      rw [errorOf?_ok,← ih]
      cases items.mapM f <;> rfl

theorem errorOf?_forM (f : α → Except ε Unit) (items : List α) :
    errorOf? (items.forM f) = items.findSome? fun item => errorOf? (f item) := by
  induction items with
  | nil => rfl
  | cons item items ih =>
    rw [List.forM,List.findSome?_cons]
    cases f item with
    | error error => rfl
    | ok value => exact ih

/-- The error of one step after another is that of the first that fails. -/
theorem errorOf?_bind {first : Except ε α} {next : α → Except ε β} {rest : List (Option ε)}
    (each : ∀ value, errorOf? (next value) = rest.findSome? id) :
    errorOf? (first >>= next) = (errorOf? first :: rest).findSome? id := by
  cases first with
  | error error => rfl
  | ok value => exact each value

/-- A log of each item that was reached, with what came of the whole. The first item that fails is
the last that is reached, and its error is that of the whole. -/
inductive InTurn (part : α → Log → Except ε β → Prop) :
    List α → List Log → Except ε (List β) → Prop where
  | none : InTurn part [] [] (.ok [])
  | failed {item : α} {items : List α} {log : Log} {error : ε} :
      part item log (.error error) → InTurn part (item :: items) [log] (.error error)
  | passed {item : α} {items : List α} {log : Log} {logs : List Log} {value : β} {values : List β} :
      part item log (.ok value) → InTurn part items logs (.ok values) →
        InTurn part (item :: items) (log :: logs) (.ok (value :: values))
  | failedLater {item : α} {items : List α} {log : Log} {logs : List Log} {value : β} {error : ε} :
      part item log (.ok value) → InTurn part items logs (.error error) →
        InTurn part (item :: items) (log :: logs) (.error error)

namespace InTurn

variable {part part' : α → Log → Except ε β → Prop} {items : List α} {logs : List Log}
  {result : Except ε (List β)}

theorem imp (turns : InTurn part items logs result)
    (weaken : ∀ item ∈ items, ∀ log ∈ logs, ∀ result, part item log result →
      part' item log result) :
    InTurn part' items logs result := by
  induction turns with
  | none => exact .none
  | failed head => exact .failed (weaken _ List.mem_cons_self _ List.mem_cons_self _ head)
  | passed head _ ih =>
    exact .passed (weaken _ List.mem_cons_self _ List.mem_cons_self _ head)
      (ih fun item among log member =>
        weaken item (List.mem_cons_of_mem _ among) log (List.mem_cons_of_mem _ member))
  | failedLater head _ ih =>
    exact .failedLater (weaken _ List.mem_cons_self _ List.mem_cons_self _ head)
      (ih fun item among log member =>
        weaken item (List.mem_cons_of_mem _ among) log (List.mem_cons_of_mem _ member))

/-- Another log of the same work. -/
theorem mapLog {Log' : Type} (f : Log → Log') (turns : InTurn part items logs result) :
    InTurn (fun item log result => ∃ inner, part item inner result ∧ log = f inner)
      items (logs.map f) result := by
  induction turns with
  | none => exact .none
  | failed head => exact .failed ⟨_,head,rfl⟩
  | passed head _ ih => exact .passed ⟨_,head,rfl⟩ ih
  | failedLater head _ ih => exact .failedLater ⟨_,head,rfl⟩ ih

theorem map_iff {κ : Type} (f : κ → α) (keys : List κ) :
    InTurn part (keys.map f) logs result ↔
      InTurn (fun key => part (f key)) keys logs result := by
  induction keys generalizing logs result with
  | nil => constructor <;> rintro ⟨⟩ <;> exact .none
  | cons key keys ih =>
    constructor
    · rintro (_ | head | ⟨head,tail⟩ | ⟨head,tail⟩)
      · exact .failed head
      · exact .passed head (ih.mp tail)
      · exact .failedLater head (ih.mp tail)
    · rintro (_ | head | ⟨head,tail⟩ | ⟨head,tail⟩)
      · exact .failed head
      · exact .passed head (ih.mpr tail)
      · exact .failedLater head (ih.mpr tail)

theorem append_error {more : List α} {error : ε} (turns : InTurn part items logs (.error error)) :
    InTurn part (items ++ more) logs (.error error) := by
  induction items generalizing logs with
  | nil => contradiction
  | cons item items ih =>
    rcases turns with _ | head | _ | ⟨head,tail⟩
    · exact .failed head
    · exact .failedLater head (ih tail)

theorem append_ok {more : List α} {moreLogs : List Log} {values : List β}
    {outcome : Except ε (List β)} (turns : InTurn part items logs (.ok values))
    (rest : InTurn part more moreLogs outcome) :
    InTurn part (items ++ more) (logs ++ moreLogs) (outcome.map (values ++ ·)) := by
  induction items generalizing logs values with
  | nil =>
    cases turns
    cases outcome <;> exact rest
  | cons item items ih =>
    rcases turns with _ | _ | ⟨head,tail⟩ | _
    have whole := ih tail
    cases outcome with
    | error error => exact .failedLater head whole
    | ok others => exact .passed head whole

theorem map_values {γ : Type} {f : β → γ} {g : α → γ} {values : List β}
    (turns : InTurn part items logs (.ok values))
    (each : ∀ item log value, part item log (.ok value) → f value = g item) :
    values.map f = items.map g := by
  induction items generalizing logs values with
  | nil =>
    cases turns
    rfl
  | cons item items ih =>
    rcases turns with _ | _ | ⟨head,tail⟩ | _
    rw [List.map_cons,List.map_cons,each _ _ _ head,ih tail]

theorem mapM_eq_ok {δ : Type} {f : α → Except δ β} {values : List β}
    (turns : InTurn part items logs (.ok values))
    (each : ∀ item log value, part item log (.ok value) → f item = .ok value) :
    items.mapM f = .ok values := by
  induction items generalizing logs values with
  | nil =>
    cases turns
    rfl
  | cons item items ih =>
    rcases turns with _ | _ | ⟨head,tail⟩ | _
    rw [List.mapM_cons,each _ _ _ head,ih tail]
    rfl

theorem of_mem_values {values : List β} (turns : InTurn part items logs (.ok values)) {value : β}
    (member : value ∈ values) : ∃ item log, part item log (.ok value) := by
  induction items generalizing logs values with
  | nil =>
    cases turns
    contradiction
  | cons item items ih =>
    rcases turns with _ | _ | ⟨head,tail⟩ | _
    rcases List.mem_cons.mp member with rfl | later
    · exact ⟨_,_,head⟩
    · exact ih tail later

/-- The error of the whole is that of the first item that fails. -/
theorem errorOf?_eq {fault? : α → Option ε} (turns : InTurn part items logs result)
    (each : ∀ item log result, part item log result → errorOf? result = fault? item) :
    errorOf? result = items.findSome? fault? := by
  induction turns with
  | none => rfl
  | failed head => rw [List.findSome?_cons,← each _ _ _ head,errorOf?_error,errorOf?_error]
  | passed head _ ih | failedLater head _ ih =>
    rw [List.findSome?_cons,← each _ _ _ head,errorOf?_ok]
    exact ih

/-- Every log is that of the item in its place, which passed unless it is the last one. An error of
an item is that of the whole. -/
theorem get (turns : InTurn part items logs result) {i : Nat} {log : Log}
    (reached : logs[i]? = some log) :
    ∃ item outcome, items[i]? = some item ∧ part item log outcome ∧
      (i + 1 < logs.length → ∃ value, outcome = .ok value) ∧
      ∀ error, outcome = .error error → errorOf? result = some error := by
  induction turns generalizing i with
  | none => simp at reached
  | failed head =>
    cases i with
    | zero =>
      obtain rfl := Option.some.inj reached
      exact ⟨_,_,rfl,head,by simp,fun error same => congrArg some (Except.error.inj same)⟩
    | succ i => simp at reached
  | passed head _ ih | failedLater head _ ih =>
    cases i with
    | zero =>
      obtain rfl := Option.some.inj reached
      exact ⟨_,_,rfl,head,fun _ => ⟨_,rfl⟩,nofun⟩
    | succ i =>
      obtain ⟨item,outcome,atPlace,spec,earlier,failing⟩ := ih (by simpa using reached)
      exact ⟨item,outcome,by simpa using atPlace,spec,by simpa using earlier,failing⟩

theorem of_mem_logs (turns : InTurn part items logs result) {log : Log} (member : log ∈ logs) :
    ∃ item outcome, part item log outcome := by
  obtain ⟨i,reached⟩ := List.mem_iff_getElem?.mp member
  obtain ⟨item,outcome,-,spec,-⟩ := turns.get reached
  exact ⟨item,outcome,spec⟩

theorem length_le (turns : InTurn part items logs result) : logs.length ≤ items.length := by
  induction turns with
  | none => exact Nat.le_refl 0
  | failed head => exact Nat.succ_le_succ (Nat.zero_le _)
  | passed head _ ih | failedLater head _ ih => exact Nat.succ_le_succ ih

/-- When there is a log for every item, the last log is that of the last item. -/
theorem last_of_length {front : List Log} {last : Log}
    (turns : InTurn part items (front ++ [last]) result)
    (whole : items.length ≤ (front ++ [last]).length) :
    ∃ item outcome, items.getLast? = some item ∧ part item last outcome ∧
      ∀ error, outcome = .error error → errorOf? result = some error := by
  have place : (front ++ [last])[front.length]? = some last := by simp
  obtain ⟨item,outcome,found,spec,-,failing⟩ := turns.get place
  have count : items.length = front.length + 1 := by
    have := turns.length_le
    rw [List.length_append,List.length_singleton] at *
    omega
  refine ⟨item,outcome,?_,spec,failing⟩
  rw [List.getLast?_eq_getElem?,count]
  exact found

private theorem drop_cons {whole : List α} {start : Nat} {item : α}
    (rest : whole.drop start = item :: items) :
    whole[start]? = some item ∧ whole.drop (start + 1) = items := by
  constructor
  · rw [← List.head?_drop,rest]
    rfl
  · rw [← List.tail_drop,rest]
    rfl

/-- The items can be told by their places. -/
theorem indexed (turns : InTurn part items logs result) :
    InTurn (fun i log result => ∃ item, items[i]? = some item ∧ part item log result)
      (List.range items.length) logs result := by
  have shifted (start : Nat) (whole : List α) (rest : whole.drop start = items) :
      InTurn (fun i log result => ∃ item, whole[i]? = some item ∧ part item log result)
        (List.range' start items.length) logs result := by
    induction turns generalizing start with
    | none => exact .none
    | failed head => exact .failed ⟨_,(drop_cons rest).1,head⟩
    | passed head _ ih =>
      exact .passed ⟨_,(drop_cons rest).1,head⟩ (ih (start + 1) (drop_cons rest).2)
    | failedLater head _ ih =>
      exact .failedLater ⟨_,(drop_cons rest).1,head⟩ (ih (start + 1) (drop_cons rest).2)
  simpa [List.range_eq_range'] using shifted 0 items rfl

/-- Items that have nothing to do can be left out. -/
theorem filter {γ : Type} {step : α → List γ → Except ε Unit → Prop} {items : List α}
    {logs : List (List γ)} {result : Except ε (List Unit)} (turns : InTurn step items logs result)
    (needed : α → Bool) (idle : ∀ item log result, needed item = false → step item log result →
      log = [] ∧ result = .ok ()) :
    ∃ parts outcome, InTurn step (items.filter needed) parts outcome ∧
      logs.flatten = parts.flatten ∧ (result.map fun _ => ()) = outcome.map fun _ => () := by
  induction turns with
  | none => exact ⟨[],_,.none,rfl,rfl⟩
  | @failed item items log error head =>
    cases need : needed item with
    | false => exact absurd (idle item log _ need head).2 nofun
    | true => exact ⟨[log],_,by simpa [need] using .failed head,rfl,rfl⟩
  | @passed item items log _ _ _ head _ ih | @failedLater item items log _ _ _ head _ ih =>
    obtain ⟨parts,outcome,turns,flat,same⟩ := ih
    cases need : needed item with
    | false =>
      obtain ⟨rfl,-⟩ := idle item log _ need head
      exact ⟨parts,outcome,by simpa [need] using turns,flat,same⟩
    | true =>
      refine ⟨log :: parts,outcome.map (() :: ·),?_,by simp [flat],?_⟩
      · rw [List.filter_cons_of_pos need]
        cases outcome with
        | error error => exact .failedLater head turns
        | ok values => exact .passed head turns
      · cases outcome <;> exact same

/-- Work on items that each are work on a list in turn. -/
theorem flatMap {κ γ : Type} {inner : α → List κ} {step : κ → List γ → Except ε Unit → Prop}
    {items : List α} {logs : List (List γ)} {result : Except ε (List Unit)}
    (turns : InTurn (fun item log result => ∃ parts outcome,
      InTurn step (inner item) parts outcome ∧ log = parts.flatten ∧
        result = outcome.map fun _ => ()) items logs result) :
    ∃ parts outcome, InTurn step (items.flatMap inner) parts outcome ∧
      logs.flatten = parts.flatten ∧ (result.map fun _ => ()) = outcome.map fun _ => () := by
  induction turns with
  | none => exact ⟨[],_,.none,rfl,rfl⟩
  | failed head =>
    obtain ⟨parts,error | _,turns,rfl,same⟩ := head
    · exact ⟨parts,_,turns.append_error,by simp,same⟩
    · contradiction
  | passed head _ ih | failedLater head _ ih =>
    obtain ⟨parts,_ | values,turns,rfl,same⟩ := head
    · contradiction
    obtain ⟨others,outcome,rest,flat,later⟩ := ih
    refine ⟨parts ++ others,_,turns.append_ok rest,by simp [flat],?_⟩
    cases outcome <;> exact later

/-- What each item preserves holds after all that were reached, and before each of them. -/
theorem carry {σ ι : Type} {Answer : ι → Type} {answer : (i : ι) → σ → Answer i × σ}
    {step step' : Nat → List ((i : ι) × Answer i) → Except ε β → Prop} {invariant : Nat → σ → Prop}
    {start count : Nat} {logs : List (List ((i : ι) × Answer i))} {result : Except ε (List β)}
    {state final : σ} (turns : InTurn step (List.range' start count) logs result)
    (follows : Follows answer logs.flatten state final) (initial : invariant start state)
    (each : ∀ i log result state next, step i log result → invariant i state →
      Follows answer log state next → step' i log result ∧ invariant (i + 1) next) :
    InTurn step' (List.range' start count) logs result ∧ invariant (start + logs.length) final := by
  induction count generalizing start logs result state with
  | zero =>
    cases turns
    cases follows
    exact ⟨.none,initial⟩
  | succ count ih =>
    rw [List.range'_succ] at turns ⊢
    rcases turns with _ | head | ⟨head,tail⟩ | ⟨head,tail⟩
    all_goals
      obtain ⟨middle,follows,later⟩ := (follows_append _ _ _ _ _).mp follows
      obtain ⟨spec,next⟩ := each _ _ _ _ _ head initial follows
    · cases later
      exact ⟨.failed spec,next⟩
    all_goals
      obtain ⟨rest,last⟩ := ih tail later next
      rw [Nat.add_right_comm] at last
    · exact ⟨.passed spec rest,last⟩
    · exact ⟨.failedLater spec rest,last⟩

end InTurn

namespace Attempt

theorem trace_mapM (attempt : α → Attempt ε β) (items : List α) (events : List Event)
    (result : Except ε (List β)) :
    Run.Trace (items.mapM attempt).run events result ↔
      ∃ logs, InTurn (fun item => Run.Trace (attempt item).run) items logs result ∧
        events = logs.flatten := by
  induction items generalizing events result with
  | nil =>
    rw [List.mapM_nil,trace_pure]
    constructor
    · rintro ⟨rfl,rfl⟩
      exact ⟨[],.none,rfl⟩
    · rintro ⟨_,⟨⟩,rfl⟩
      exact ⟨rfl,rfl⟩
  | cons item items ih =>
    simp only [List.mapM_cons,trace_bind,trace_pure,ih]
    constructor
    · rintro (⟨error,head,rfl⟩ | ⟨first,value,_,head,tail,rfl⟩)
      · exact ⟨[events],.failed head,by simp⟩
      · rcases tail with ⟨error,⟨logs,turns,rfl⟩,rfl⟩ | ⟨_,values,_,⟨logs,turns,rfl⟩,⟨rfl,rfl⟩,rfl⟩
        · exact ⟨first :: logs,.failedLater head turns,rfl⟩
        · exact ⟨first :: logs,.passed head turns,by simp⟩
    · rintro ⟨logs,turns,rfl⟩
      cases turns with
      | failed head => exact .inl ⟨_,by simpa using head,rfl⟩
      | @passed _ _ log logs value values head tail =>
        exact .inr ⟨log,value,logs.flatten,head,
          .inr ⟨logs.flatten,values,[],⟨logs,tail,rfl⟩,⟨rfl,rfl⟩,by simp⟩,rfl⟩
      | @failedLater _ _ log logs value error head tail =>
        exact .inr ⟨log,value,logs.flatten,head,.inl ⟨error,⟨logs,tail,rfl⟩,rfl⟩,rfl⟩

/-- A loop without values is one with trivial values that are forgotten. -/
theorem trace_forM (attempt : α → Attempt ε Unit) (items : List α) (events : List Event)
    (result : Except ε Unit) :
    Run.Trace (items.forM attempt).run events result ↔
      ∃ logs outcome, InTurn (fun item => Run.Trace (attempt item).run) items logs outcome ∧
        events = logs.flatten ∧ result = outcome.map fun _ => () := by
  induction items generalizing events result with
  | nil =>
    simp only [List.forM,trace_pure]
    constructor
    · rintro ⟨rfl,rfl⟩
      exact ⟨[],_,.none,rfl,rfl⟩
    · rintro ⟨_,_,⟨⟩,rfl,rfl⟩
      exact ⟨rfl,rfl⟩
  | cons item items ih =>
    simp only [List.forM,trace_bind,ih]
    constructor
    · rintro (⟨error,head,rfl⟩ | ⟨first,value,_,head,⟨logs,outcome,turns,rfl,rfl⟩,rfl⟩)
      · exact ⟨[events],_,.failed head,by simp,rfl⟩
      · cases outcome with
        | error error => exact ⟨first :: logs,_,.failedLater head turns,rfl,rfl⟩
        | ok values => exact ⟨first :: logs,_,.passed head turns,rfl,rfl⟩
    · rintro ⟨logs,outcome,turns,rfl,rfl⟩
      cases turns with
      | failed head => exact .inl ⟨_,by simpa using head,rfl⟩
      | @passed _ _ log logs value values head tail =>
        exact .inr ⟨log,value,logs.flatten,head,⟨logs,_,tail,rfl,rfl⟩,rfl⟩
      | @failedLater _ _ log logs value error head tail =>
        exact .inr ⟨log,value,logs.flatten,head,⟨logs,_,tail,rfl,rfl⟩,rfl⟩

end Attempt

end LedgerRehearsal

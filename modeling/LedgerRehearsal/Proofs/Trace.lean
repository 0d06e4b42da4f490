import LedgerRehearsal.World

/-! Traces of runs. A trace lists the effects of one path through a run with their answers, and
nothing restricts the answers: what holds of every trace holds against every ledger, every clock
and every use of the stop signal. Playing a run gives the one trace that its surroundings answer. -/
namespace LedgerRehearsal

/-- An effect with the answer it got. -/
abbrev Event := (effect : Effect) × effect.Answer

/-- A request with the reply it got. -/
abbrev Exchange := (request : Request) × request.Reply

def Event.exchange? : Event → Option Exchange
  | ⟨.ask request,reply⟩ => some ⟨request,reply⟩
  | _ => none

def exchanges (events : List Event) : List Exchange := events.filterMap Event.exchange?

@[simp] theorem exchanges_nil : exchanges [] = [] := rfl

@[simp] theorem exchanges_append (first rest : List Event) :
    exchanges (first ++ rest) = exchanges first ++ exchanges rest := List.filterMap_append

@[simp] theorem exchanges_flatten (parts : List (List Event)) :
    exchanges parts.flatten = (parts.map exchanges).flatten := by
  induction parts with
  | nil => rfl
  | cons part parts ih => simp [ih]

@[simp] theorem exchanges_ask (request : Request) (reply : request.Reply) (events : List Event) :
    exchanges (⟨.ask request,reply⟩ :: events) = ⟨request,reply⟩ :: exchanges events := rfl

/-- Only requests are exchanged with the ledger. -/
@[simp] theorem exchanges_other (effect : Effect) (answer : effect.Answer) (events : List Event)
    (other : ∀ request, effect ≠ .ask request) :
    exchanges (⟨effect,answer⟩ :: events) = exchanges events := by
  cases effect with
  | ask request => exact absurd rfl (other request)
  | _ => rfl

/-- Nothing but reports. -/
def OnlyNotes (events : List Event) : Prop := ∀ event ∈ events, ∃ notice, event = ⟨.note notice,()⟩

@[simp] theorem onlyNotes_nil : OnlyNotes [] := by simp [OnlyNotes]

@[simp] theorem onlyNotes_note (notice : Notice) (events : List Event) :
    OnlyNotes (⟨.note notice,()⟩ :: events) ↔ OnlyNotes events := by simp [OnlyNotes]

theorem onlyNotes_append {first rest : List Event} :
    OnlyNotes (first ++ rest) ↔ OnlyNotes first ∧ OnlyNotes rest := List.forall_mem_append

theorem OnlyNotes.exchanges_eq {events : List Event} (notes : OnlyNotes events) :
    exchanges events = [] := by
  apply List.filterMap_eq_nil_iff.mpr
  intro event member
  obtain ⟨notice,rfl⟩ := notes event member
  rfl

/-- How often a message is given, with whatever fields. -/
def timesGiven (message : String) (events : List Event) : Nat :=
  events.countP fun event => match event with
    | ⟨.note given,_⟩ => given.message = message
    | _ => false

@[simp] theorem timesGiven_nil (message : String) : timesGiven message [] = 0 := rfl

@[simp] theorem timesGiven_append (message : String) (first rest : List Event) :
    timesGiven message (first ++ rest) = timesGiven message first + timesGiven message rest :=
  List.countP_append

@[simp] theorem timesGiven_note (message : String) (given : Notice) (events : List Event) :
    timesGiven message (⟨.note given,()⟩ :: events) =
      timesGiven message events + if given.message = message then 1 else 0 := by
  simp [timesGiven,List.countP_cons]

@[simp] theorem timesGiven_other (message : String) (effect : Effect) (answer : effect.Answer)
    (events : List Event) (other : ∀ given, effect ≠ .note given) :
    timesGiven message (⟨effect,answer⟩ :: events) = timesGiven message events := by
  cases effect with
  | note given => exact absurd rfl (other given)
  | _ => simp [timesGiven]

namespace Run

variable {α β : Type}

theorem bind_assoc {γ : Type} (run : Run α) (next : α → Run β) (last : β → Run γ) :
    (run.bind next).bind last = run.bind fun value => (next value).bind last := by
  induction run with
  | done value => rfl
  | act effect rest ih => exact congrArg (act effect) (funext ih)

theorem bind_done_right (run : Run α) : run.bind done = run := by
  induction run with
  | done value => rfl
  | act effect rest ih => exact congrArg (act effect) (funext ih)

instance : LawfulMonad Run := LawfulMonad.mk' Run bind_done_right (fun _ _ => rfl) bind_assoc

/-- The paths through a run that end with a value. -/
inductive Trace : Run α → List Event → α → Prop where
  | done {value : α} : Trace (.done value) [] value
  | act {effect : Effect} {next : effect.Answer → Run α} {answer : effect.Answer}
      {events : List Event} {value : α} :
      Trace (next answer) events value → Trace (.act effect next) (⟨effect,answer⟩ :: events) value

@[simp] theorem trace_done (value result : α) (events : List Event) :
    Trace (.done value) events result ↔ events = [] ∧ result = value := by
  constructor
  · rintro ⟨⟩
    exact ⟨rfl,rfl⟩
  · rintro ⟨rfl,rfl⟩
    exact .done

@[simp] theorem trace_pure (value result : α) (events : List Event) :
    Trace (pure value) events result ↔ events = [] ∧ result = value :=
  trace_done value result events

theorem trace_act (effect : Effect) (next : effect.Answer → Run α) (events : List Event)
    (result : α) :
    Trace (.act effect next) events result ↔
      ∃ answer rest, events = ⟨effect,answer⟩ :: rest ∧ Trace (next answer) rest result := by
  constructor
  · rintro ⟨⟩
    exact ⟨_,_,rfl,‹_›⟩
  · rintro ⟨answer,rest,rfl,trace⟩
    exact .act trace

/-- A trace of a sequence is a trace of its first part followed by one of the rest. -/
theorem trace_bind (run : Run α) (next : α → Run β) (events : List Event) (result : β) :
    Trace (run >>= next) events result ↔
      ∃ first value rest, Trace run first value ∧ Trace (next value) rest result ∧
        events = first ++ rest := by
  change Trace (run.bind next) events result ↔ _
  induction run generalizing events with
  | done value =>
    simp only [bind_done,trace_done]
    constructor
    · intro trace
      exact ⟨[],value,events,⟨rfl,rfl⟩,trace,rfl⟩
    · rintro ⟨_,_,rest,⟨rfl,rfl⟩,trace,rfl⟩
      exact trace
  | act effect rest ih =>
    simp only [bind_act,trace_act,ih]
    constructor
    · rintro ⟨answer,_,rfl,first,value,last,head,tail,rfl⟩
      exact ⟨_,value,last,⟨answer,first,rfl,head⟩,tail,rfl⟩
    · rintro ⟨_,value,last,⟨answer,first,rfl,head⟩,tail,rfl⟩
      exact ⟨answer,_,rfl,first,value,last,head,tail,rfl⟩

@[simp] theorem trace_perform (effect : Effect) (events : List Event) (answer : effect.Answer) :
    Trace (perform effect) events answer ↔ events = [⟨effect,answer⟩] := by
  simp only [perform,trace_act,trace_done]
  constructor
  · rintro ⟨_,_,rfl,rfl,rfl⟩
    rfl
  · rintro rfl
    exact ⟨answer,[],rfl,rfl,rfl⟩

theorem trace_perform_bind (effect : Effect) (next : effect.Answer → Run α) (events : List Event)
    (result : α) :
    Trace (perform effect >>= next) events result ↔
      ∃ answer rest, events = ⟨effect,answer⟩ :: rest ∧ Trace (next answer) rest result :=
  trace_act effect next events result

theorem trace_ask_bind (request : Request) (next : request.Reply → Run α) (events : List Event)
    (result : α) :
    Trace (ask request >>= next) events result ↔
      ∃ reply rest, events = ⟨.ask request,reply⟩ :: rest ∧ Trace (next reply) rest result :=
  trace_act (.ask request) next events result

theorem trace_note_bind (severity : Severity) (message : String)
    (fields : List (String × String)) (next : Unit → Run α) (events : List Event) (result : α) :
    Trace (note severity message fields >>= next) events result ↔
      ∃ rest, events = ⟨.note ⟨severity,message,fields⟩,()⟩ :: rest ∧ Trace (next ()) rest result :=
  (trace_act (.note ⟨severity,message,fields⟩) next events result).trans
    ⟨fun ⟨_,rest,same,trace⟩ => ⟨rest,same,trace⟩,fun ⟨rest,same,trace⟩ => ⟨(),rest,same,trace⟩⟩

theorem trace_note {severity : Severity} {message : String} {fields : List (String × String)}
    {events : List Event} {value : Unit}
    (trace : Trace (note severity message fields) events value) : OnlyNotes events := by
  obtain rfl := (trace_perform (.note ⟨severity,message,fields⟩) events value).mp trace
  exact (onlyNotes_note _ _).mpr onlyNotes_nil

/-- A report that depends on a condition. -/
theorem trace_note_if {condition : Bool} {severity : Severity} {message : String}
    {fields : List (String × String)} {next : Unit → Run α} {events : List Event} {result : α}
    (trace : Trace (if condition = true then note severity message fields >>= next else next ())
      events result) :
    ∃ notes rest, events = notes ++ rest ∧ OnlyNotes notes ∧ Trace (next ()) rest result ∧
      timesGiven message notes = if condition then 1 else 0 := by
  split at trace
  · rename_i due
    obtain ⟨rest,rfl,after⟩ := (trace_note_bind _ _ _ _ _ _).mp trace
    exact ⟨[_],rest,rfl,by simp,after,by simp [due]⟩
  · rename_i early
    exact ⟨[],events,rfl,by simp,trace,by simp [early]⟩

end Run

/-- Answers given one after another, each in the state that those before it lead to. -/
def Follows {σ ι : Type} {Answer : ι → Type} (answer : (i : ι) → σ → Answer i × σ) :
    List ((i : ι) × Answer i) → σ → σ → Prop
  | [], state, final => final = state
  | ⟨i,given⟩ :: rest, state, final =>
    given = (answer i state).1 ∧ Follows answer rest (answer i state).2 final

theorem follows_append {σ ι : Type} {Answer : ι → Type} (answer : (i : ι) → σ → Answer i × σ)
    (first rest : List ((i : ι) × Answer i)) (state final : σ) :
    Follows answer (first ++ rest) state final ↔
      ∃ middle, Follows answer first state middle ∧ Follows answer rest middle final := by
  induction first generalizing state with
  | nil => simp [Follows]
  | cons given first ih => simp [Follows,ih,and_assoc]

/-- Playing a run is following the one trace that its surroundings answer. -/
theorem Run.trace_follows_iff {σ α : Type} (answer : (effect : Effect) → σ → effect.Answer × σ)
    (run : Run α) (state : σ) (result : α × σ) :
    (∃ events, run.Trace events result.1 ∧ Follows answer events state result.2) ↔
      run.play answer state = result := by
  induction run generalizing state with
  | done value =>
    constructor
    · rintro ⟨_,⟨⟩,follows⟩
      exact Prod.ext rfl follows.symm
    · rintro rfl
      exact ⟨[],.done,rfl⟩
  | act effect next ih =>
    simp only [play,← ih,trace_act]
    constructor
    · rintro ⟨_,⟨given,rest,rfl,trace⟩,rfl,follows⟩
      exact ⟨rest,trace,follows⟩
    · rintro ⟨rest,trace,follows⟩
      exact ⟨_,⟨_,rest,rfl,trace⟩,rfl,follows⟩

/-- What happens when a run is played. -/
def Run.history {σ α : Type} (answer : (effect : Effect) → σ → effect.Answer × σ) :
    Run α → σ → List Event
  | done _, _ => []
  | act effect next, state =>
    ⟨effect,(answer effect state).1⟩ ::
      history answer (next (answer effect state).1) (answer effect state).2

def Surroundings.history {σ α : Type} (surroundings : Surroundings σ) (run : Run α)
    (world : World σ) : List Event :=
  Run.history surroundings.answer run world

theorem Run.trace_history {σ α : Type} (answer : (effect : Effect) → σ → effect.Answer × σ)
    (run : Run α) (state : σ) :
    run.Trace (run.history answer state) (run.play answer state).1 ∧
      Follows answer (run.history answer state) state (run.play answer state).2 := by
  induction run generalizing state with
  | done value => exact ⟨.done,rfl⟩
  | act effect next ih =>
    obtain ⟨trace,follows⟩ := ih (answer effect state).1 (answer effect state).2
    exact ⟨.act trace,rfl,follows⟩

theorem Surroundings.trace_history {σ α : Type} (surroundings : Surroundings σ) (run : Run α)
    (world : World σ) :
    run.Trace (surroundings.history run world) (surroundings.play run world).1 :=
  (Run.trace_history surroundings.answer run world).1

theorem Surroundings.follows_history {σ α : Type} (surroundings : Surroundings σ) (run : Run α)
    (world : World σ) :
    Follows surroundings.answer (surroundings.history run world) world
      (surroundings.play run world).2 :=
  (Run.trace_history surroundings.answer run world).2

/-- The ledger sees the requests of a run and nothing else of it. -/
theorem follows_exchanges {σ : Type} {surroundings : Surroundings σ} {events : List Event}
    {world final : World σ} (follows : Follows surroundings.answer events world final) :
    Follows surroundings.reply (exchanges events) world.ledger final.ledger := by
  induction events generalizing world with
  | nil => exact congrArg World.ledger follows
  | cons event events ih =>
    obtain ⟨effect,answer⟩ := event
    obtain ⟨given,follows⟩ := follows
    have later := ih follows
    cases effect with
    | ask request => exact ⟨given,later⟩
    | _ => exact later

theorem follows_suffixes {σ : Type} {surroundings : Surroundings σ} {events : List Event}
    {world final : World σ} (follows : Follows surroundings.answer events world final)
    (steady : ∀ event ∈ events, event.1 ≠ .freshSuffix) : final.suffixes = world.suffixes := by
  induction events generalizing world with
  | nil => exact congrArg World.suffixes follows
  | cons event events ih =>
    obtain ⟨effect,answer⟩ := event
    have later := ih follows.2 fun event member => steady event (List.mem_cons_of_mem _ member)
    cases effect with
    | freshSuffix => exact absurd rfl (steady _ List.mem_cons_self)
    | _ => exact later

/-- Reports touch nothing but the list of notices. -/
theorem OnlyNotes.follows {σ : Type} {surroundings : Surroundings σ} {events : List Event}
    {world final : World σ} (notes : OnlyNotes events)
    (follows : Follows surroundings.answer events world final) :
    final.ledger = world.ledger ∧ final.timeline = world.timeline := by
  induction events generalizing world with
  | nil =>
    cases follows
    exact ⟨rfl,rfl⟩
  | cons event events ih =>
    obtain ⟨notice,rfl⟩ := notes event List.mem_cons_self
    have later := ih ((onlyNotes_note notice events).mp notes) follows.2
    exact later

namespace Attempt

variable {ε δ α β : Type}

@[simp] theorem trace_pure (value : α) (events : List Event) (result : Except ε α) :
    Run.Trace (pure value : Attempt ε α).run events result ↔ events = [] ∧ result = .ok value :=
  Run.trace_done _ _ _

@[simp] theorem trace_throw (error : ε) (events : List Event) (result : Except ε α) :
    Run.Trace (throw error : Attempt ε α).run events result ↔
      events = [] ∧ result = .error error :=
  Run.trace_done _ _ _

@[simp] theorem trace_ofExcept (given : Except ε α) (events : List Event) (result : Except ε α) :
    Run.Trace (ofExcept given).run events result ↔ events = [] ∧ result = given :=
  Run.trace_done _ _ _

@[simp] theorem trace_ask (request : Request) (events : List Event) (reply : request.Reply) :
    Run.Trace (Attempt.ask request).run events reply ↔ events = [⟨.ask request,reply⟩] :=
  Run.trace_perform (.ask request) events reply

@[simp] theorem trace_lift (run : Run α) (events : List Event) (result : Except ε α) :
    Run.Trace (ExceptT.lift run : Attempt ε α).run events result ↔
      ∃ value, run.Trace events value ∧ result = .ok value := by
  change Run.Trace (run.bind fun value => .done (.ok value)) events result ↔ _
  refine (Run.trace_bind _ _ _ _).trans ?_
  simp only [Run.trace_done]
  constructor
  · rintro ⟨first,value,_,trace,⟨rfl,rfl⟩,rfl⟩
    exact ⟨value,by simpa using trace,rfl⟩
  · rintro ⟨value,trace,rfl⟩
    exact ⟨events,value,[],trace,⟨rfl,rfl⟩,by simp⟩

theorem trace_note {severity : Severity} {message : String} {fields : List (String × String)}
    {events : List Event} {result : Except ε Unit}
    (trace : Run.Trace (ExceptT.lift (Run.note severity message fields) : Attempt ε Unit).run
      events result) : OnlyNotes events ∧ result = .ok () := by
  obtain ⟨_,noted,rfl⟩ := (trace_lift _ _ _).mp trace
  exact ⟨Run.trace_note noted,rfl⟩

@[simp] theorem trace_mapError (f : ε → δ) (attempt : Attempt ε α) (events : List Event)
    (result : Except δ α) :
    Run.Trace (attempt.mapError f).run events result ↔
      ∃ inner, Run.Trace attempt.run events inner ∧ result = inner.mapError f := by
  refine (Run.trace_bind _ _ _ _).trans ?_
  simp only [Run.trace_done]
  constructor
  · rintro ⟨first,inner,_,trace,⟨rfl,rfl⟩,rfl⟩
    exact ⟨inner,by simpa using trace,rfl⟩
  · rintro ⟨inner,trace,rfl⟩
    exact ⟨events,inner,[],trace,⟨rfl,rfl⟩,by simp⟩

/-- An attempt ends with the failure of its first part or goes on with its value. -/
theorem trace_bind (attempt : Attempt ε α) (next : α → Attempt ε β) (events : List Event)
    (result : Except ε β) :
    Run.Trace (attempt >>= next).run events result ↔
      (∃ error, Run.Trace attempt.run events (.error error) ∧ result = .error error) ∨
      ∃ first value rest, Run.Trace attempt.run first (.ok value) ∧
        Run.Trace (next value).run rest result ∧ events = first ++ rest := by
  rw [ExceptT.run_bind,Run.trace_bind]
  constructor
  · rintro ⟨first,value | value,rest,head,tail,rfl⟩
    · obtain ⟨rfl,rfl⟩ := (Run.trace_pure _ _ _).mp tail
      exact .inl ⟨value,by simpa using head,rfl⟩
    · exact .inr ⟨first,value,rest,head,tail,rfl⟩
  · rintro (⟨error,head,rfl⟩ | ⟨first,value,rest,head,tail,rfl⟩)
    · exact ⟨events,.error error,[],head,(Run.trace_pure _ _ _).mpr ⟨rfl,rfl⟩,by simp⟩
    · exact ⟨first,.ok value,rest,head,tail,rfl⟩

theorem trace_mapError_bind (f : ε → δ) (attempt : Attempt ε α) (next : α → Attempt δ β)
    (events : List Event) (result : Except δ β) :
    Run.Trace (attempt.mapError f >>= next).run events result ↔
      (∃ error, Run.Trace attempt.run events (.error error) ∧ result = .error (f error)) ∨
      ∃ first value rest, Run.Trace attempt.run first (.ok value) ∧
        Run.Trace (next value).run rest result ∧ events = first ++ rest := by
  simp only [trace_bind,trace_mapError]
  constructor
  · rintro (⟨_,⟨error | _,head,same⟩,rfl⟩ | ⟨first,_,rest,⟨_ | _,head,same⟩,tail,rfl⟩)
    · cases same
      exact .inl ⟨error,head,rfl⟩
    · cases same
    · cases same
    · cases same
      exact .inr ⟨first,_,rest,head,tail,rfl⟩
  · rintro (⟨error,head,rfl⟩ | ⟨first,value,rest,head,tail,rfl⟩)
    · exact .inl ⟨f error,⟨.error error,head,rfl⟩,rfl⟩
    · exact .inr ⟨first,value,rest,⟨.ok value,head,rfl⟩,tail,rfl⟩

theorem trace_lift_bind (run : Run α) (next : α → Attempt ε β) (events : List Event)
    (result : Except ε β) :
    Run.Trace (ExceptT.lift run >>= next).run events result ↔
      ∃ first value rest, run.Trace first value ∧ Run.Trace (next value).run rest result ∧
        events = first ++ rest := by
  simp only [trace_bind,trace_lift]
  constructor
  · rintro (⟨_,⟨_,_,impossible⟩,_⟩ | ⟨first,value,rest,⟨_,head,same⟩,tail,rfl⟩)
    · contradiction
    · cases same
      exact ⟨first,value,rest,head,tail,rfl⟩
  · rintro ⟨first,value,rest,head,tail,rfl⟩
    exact .inr ⟨first,value,rest,⟨value,head,rfl⟩,tail,rfl⟩

end Attempt

end LedgerRehearsal

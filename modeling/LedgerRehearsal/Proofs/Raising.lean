import LedgerRehearsal.Proofs.Trace

/-! What can go wrong. A law that the failures of the parts keep is kept by the failures of what is
put together from them, for results as for runs on every path. -/
namespace LedgerRehearsal

variable {ε δ α β : Type}

/-- If there is a failure, it keeps the law. -/
def Raises (law : ε → Prop) (result : Except ε α) : Prop :=
  ∀ error, result = .error error → law error

namespace Raises

variable {law : ε → Prop}

theorem ok (value : α) : Raises law (.ok value) := nofun

theorem error {failure : ε} (lawful : law failure) :
    Raises law (.error failure : Except ε α) := by
  rintro _ ⟨⟩
  exact lawful

theorem bind {first : Except ε α} {next : α → Except ε β} (head : Raises law first)
    (tail : ∀ value, Raises law (next value)) : Raises law (first >>= next) := by
  cases first with
  | error failure => exact error (head failure rfl)
  | ok value => exact tail value

theorem map {first : Except ε α} (f : α → β) (head : Raises law first) :
    Raises law (first.map f) := by
  cases first with
  | error failure => exact error (head failure rfl)
  | ok value => exact ok _

theorem mapError {law : δ → Prop} {f : ε → δ} {first : Except ε α}
    (head : Raises (fun failure => law (f failure)) first) : Raises law (first.mapError f) := by
  cases first with
  | error failure => exact error (head failure rfl)
  | ok value => exact ok _

theorem mapM {f : α → Except ε β} (each : ∀ item, Raises law (f item)) (items : List α) :
    Raises law (items.mapM f) := by
  induction items with
  | nil => exact ok []
  | cons item items ih =>
    rw [List.mapM_cons]
    exact bind (each item) fun _ => bind ih fun _ => ok _

theorem forM {f : α → Except ε Unit} (each : ∀ item, Raises law (f item)) (items : List α) :
    Raises law (items.forM f) := by
  induction items with
  | nil => exact ok ()
  | cons item items ih => exact bind (each item) fun _ => ih

end Raises

namespace Attempt

/-- On every path, a failure at the end keeps the law. -/
def Raises (law : ε → Prop) (attempt : Attempt ε α) : Prop :=
  ∀ events error, Run.Trace attempt.run events (.error error) → law error

namespace Raises

variable {law : ε → Prop}

theorem pure (value : α) : Raises law (Pure.pure value : Attempt ε α) := by
  intro events error trace
  obtain ⟨-,same⟩ := (trace_pure _ _ _).mp trace
  contradiction

theorem throw {failure : ε} (lawful : law failure) :
    Raises law (throw failure : Attempt ε α) := by
  intro events error trace
  obtain ⟨-,same⟩ := (trace_throw _ _ _).mp trace
  exact Except.error.inj same ▸ lawful

theorem lift (run : Run α) : Raises law (ExceptT.lift run : Attempt ε α) := by
  intro events error trace
  obtain ⟨value,-,same⟩ := (trace_lift _ _ _).mp trace
  contradiction

theorem ofExcept {result : Except ε α} (lawful : LedgerRehearsal.Raises law result) :
    Raises law (Attempt.ofExcept result) := by
  intro events error trace
  obtain ⟨-,same⟩ := (trace_ofExcept _ _ _).mp trace
  exact lawful error same.symm

theorem mapError {law : δ → Prop} {f : ε → δ} (lawful : ∀ error, law (f error))
    (attempt : Attempt ε α) : Raises law (attempt.mapError f) := by
  intro events error trace
  obtain ⟨result,-,same⟩ := (trace_mapError _ _ _ _).mp trace
  cases result with
  | error failure => exact Except.error.inj same ▸ lawful failure
  | ok value => contradiction

/-- A change of the failures that takes one law to the other. -/
theorem changed {other : δ → Prop} {f : ε → δ} {attempt : Attempt ε α}
    (head : Raises law attempt) (lawful : ∀ error, law error → other (f error)) :
    Raises other (attempt.mapError f) := by
  intro events error trace
  obtain ⟨result,begun,same⟩ := (trace_mapError _ _ _ _).mp trace
  cases result with
  | error failure => exact Except.error.inj same ▸ lawful failure (head events failure begun)
  | ok value => contradiction

theorem bind {attempt : Attempt ε α} {next : α → Attempt ε β} (head : Raises law attempt)
    (tail : ∀ value, Raises law (next value)) : Raises law (attempt >>= next) := by
  intro events error trace
  rcases (trace_bind _ _ _ _).mp trace with ⟨failure,begun,same⟩ | ⟨first,value,rest,-,going,-⟩
  · exact Except.error.inj same ▸ head events failure begun
  · exact tail value rest error going

theorem mapM {attempt : α → Attempt ε β} (each : ∀ item, Raises law (attempt item))
    (items : List α) : Raises law (items.mapM attempt) := by
  induction items with
  | nil => exact pure []
  | cons item items ih =>
    rw [List.mapM_cons]
    exact bind (each item) fun _ => bind ih fun _ => pure _

theorem forM {attempt : α → Attempt ε Unit} (each : ∀ item, Raises law (attempt item))
    (items : List α) : Raises law (items.forM attempt) := by
  induction items with
  | nil => exact pure ()
  | cons item items ih => exact bind (each item) fun _ => ih

end Raises

end Attempt

end LedgerRehearsal

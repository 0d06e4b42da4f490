import LedgerRehearsal.Duration
import LedgerRehearsal.Json.Canonical
import LedgerRehearsal.Proofs.Json.Literal
import LedgerRehearsal.Proofs.Json.Numeral

/-! Texts on one line. Numbers, times and the compact layout of a value never break a line, the last
because a line break inside a string is written as an escape. -/
namespace LedgerRehearsal

/-- Without a line break. -/
def OneLine (text : String) : Prop := '\n' ∉ text.toList

instance (text : String) : Decidable (OneLine text) := inferInstanceAs (Decidable (_ ∉ _))

@[simp] theorem oneLine_append {front back : String} :
    OneLine (front ++ back) ↔ OneLine front ∧ OneLine back := by
  simp [OneLine,not_or]

/-- One line with its end: a line break at the end and nowhere else. -/
def IsLine (text : String) : Prop :=
  text.toList.getLast? = some '\n' ∧ '\n' ∉ text.toList.dropLast

instance (text : String) : Decidable (IsLine text) := inferInstanceAs (Decidable (_ ∧ _))

theorem isLine_append {text : String} : IsLine (text ++ "\n") ↔ OneLine text := by
  simp [IsLine,OneLine]

theorem oneLine_ofList {cs : List Char} : OneLine (String.ofList cs) ↔ '\n' ∉ cs := by
  rw [OneLine,String.toList_ofList]

@[simp] theorem newline_not_mem_toDigits (n : Nat) : '\n' ∉ Nat.toDigits 10 n := fun member => by
  have digit := Nat.isDigit_of_mem_toDigits (by decide) (by decide) member
  contradiction

theorem oneLine_decimals (places rest : Nat) : OneLine (Duration.decimals places rest) := by
  have padded : '\n' ∉ (Nat.toDigits 10 rest).leftpad places '0' := by
    rw [List.leftpad,List.mem_append,List.mem_replicate]
    rintro (⟨-,same⟩ | member)
    · contradiction
    · exact newline_not_mem_toDigits rest member
  unfold Duration.decimals
  dsimp only
  split
  · decide
  · refine oneLine_append.mpr ⟨by decide,oneLine_ofList.mpr fun member => padded ?_⟩
    exact List.mem_reverse.mp ((List.dropWhile_sublist _).subset (List.mem_reverse.mp member))

@[simp] theorem newline_not_mem_duration (length : Duration) : '\n' ∉ length.text.toList := by
  have decimals (places rest : Nat) : '\n' ∉ (Duration.decimals places rest).toList :=
    oneLine_decimals places rest
  unfold Duration.text Duration.inUnit
  repeat' split
  all_goals simp [decimals]

namespace Json

theorem newline_not_mem_escape (c : Char) : '\n' ∉ escape c := by
  cases c using escape_cases with
  | short c d among _ =>
    intro member
    have letter : d = '\n' := by simpa [eq_comm] using member
    rw [letter] at among
    contradiction
  | code c small =>
    have hex : ∀ n : Fin 16, '\n' ≠ hexDigit n := by decide
    have high := hex ⟨c.toNat / 16,by omega⟩
    have low := hex ⟨c.toNat % 16,by omega⟩
    simp [high,low]
  | plain c _ _ printed =>
    intro member
    obtain rfl := List.mem_singleton.mp member
    exact printed (by decide)

theorem newline_not_mem_escaped (text : List Char) : '\n' ∉ escaped text := by
  intro member
  obtain ⟨c,-,written⟩ := List.mem_flatMap.mp member
  exact newline_not_mem_escape c written

theorem newline_not_mem_quote (text : List Char) : '\n' ∉ quote text := by
  simp [quote,newline_not_mem_escaped]

mutual

theorem newline_not_mem_compact : (value : Value) → '\n' ∉ writeCompact value
  | .null | .bool true | .bool false => by decide
  | .number n => fun member => absurd (allNumeral_text n _ member) (by decide)
  | .string text => newline_not_mem_quote text.toList
  | .list items => by simp [writeCompact,newline_not_mem_items items]
  | .object members => by simp [writeCompact,newline_not_mem_members members]

theorem newline_not_mem_items : (items : List Value) → '\n' ∉ writeItems items
  | [] => nofun
  | [item] => newline_not_mem_compact item
  | item :: next :: rest => by
    simp [writeItems,newline_not_mem_compact item,newline_not_mem_items (next :: rest)]

theorem newline_not_mem_members : (members : List (String × Value)) → '\n' ∉ writeMembers members
  | [] => nofun
  | [(key, value)] => by
    simp [writeMembers,newline_not_mem_quote,newline_not_mem_compact value]
  | (key, value) :: next :: rest => by
    simp [writeMembers,newline_not_mem_quote,newline_not_mem_compact value,
      newline_not_mem_members (next :: rest)]

end

theorem oneLine_canonicalText (value : Value) : OneLine value.canonicalText :=
  oneLine_ofList.mpr (newline_not_mem_compact _)

end Json

end LedgerRehearsal

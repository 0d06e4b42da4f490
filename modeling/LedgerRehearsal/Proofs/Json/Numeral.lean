import LedgerRehearsal.Json.Reader

/-! Integers as text. The digits of an integer that a number can hold are read back as that integer,
whatever follows them, unless it could be taken for more of the numeral. -/
namespace LedgerRehearsal.Json

/-- The integers that a number can hold; a binary number holds what it is. -/
def Number.Fits : Number → Prop
  | .integer n => -(Nat.pow 2 63 : Nat) ≤ n ∧ n < (Nat.pow 2 64 : Nat)
  | .binary _ => True

def Number.IsInteger : Number → Prop
  | .integer _ => True
  | .binary _ => False

/-- Nothing at the front continues a numeral. -/
def EndsNumeral (cs : List Char) : Prop :=
  ∀ c ∈ cs.head?, c.isDigit = false ∧ c ≠ '.' ∧ c ≠ 'e' ∧ c ≠ 'E'

@[simp] theorem endsNumeral_nil : EndsNumeral [] := by simp [EndsNumeral]

@[simp] theorem endsNumeral_cons (c : Char) (cs : List Char) :
    EndsNumeral (c :: cs) ↔ c.isDigit = false ∧ c ≠ '.' ∧ c ≠ 'e' ∧ c ≠ 'E' := by
  simp [EndsNumeral]

theorem digit_facts {n : Nat} (small : n < 10) :
    (Char.ofNat (48 + n)).isDigit = true ∧ (Char.ofNat (48 + n)).toNat = 48 + n := by
  have all : ∀ n : Fin 10, (Char.ofNat (48 + n)).isDigit = true ∧
      (Char.ofNat (48 + n)).toNat = 48 + n := by decide
  exact all ⟨n,small⟩

theorem isDigit_of_mem_digits {n : Nat} : ∀ d ∈ digits n, d.isDigit = true := by
  induction n using digits.induct with
  | case1 n small =>
    intro d member
    rw [digits,if_pos small,List.mem_singleton] at member
    rw [member]
    exact (digit_facts small).1
  | case2 n large ih =>
    intro d member
    rw [digits,if_neg large,List.mem_append,List.mem_singleton] at member
    rcases member with earlier | rfl
    · exact ih d earlier
    · exact (digit_facts (by omega)).1

/-- The characters that numbers are written with. -/
def isNumeral (c : Char) : Bool := c.isDigit || ['.','e','+','-'].contains c

/-- Written with these characters alone. -/
def AllNumeral (cs : List Char) : Prop := ∀ c ∈ cs, isNumeral c = true

@[simp] theorem allNumeral_nil : AllNumeral [] := nofun

@[simp] theorem allNumeral_cons {c : Char} {cs : List Char} :
    AllNumeral (c :: cs) ↔ isNumeral c = true ∧ AllNumeral cs := List.forall_mem_cons

@[simp] theorem allNumeral_append {front back : List Char} :
    AllNumeral (front ++ back) ↔ AllNumeral front ∧ AllNumeral back := List.forall_mem_append

theorem allNumeral_digits (n : Nat) : AllNumeral (digits n) := fun c member => by
  rw [isNumeral,isDigit_of_mem_digits c member,Bool.true_or]

theorem allNumeral_layout {ds : List Char} (numeral : AllNumeral ds) (exponent : Int) :
    AllNumeral (Number.layout ds exponent) := by
  have zeros (n : Nat) : AllNumeral (List.replicate n '0') := fun c member => by
    rw [List.eq_of_mem_replicate member]
    rfl
  have front (n : Nat) : AllNumeral (ds.take n) :=
    fun c member => numeral c (List.mem_of_mem_take member)
  have back (n : Nat) : AllNumeral (ds.drop n) :=
    fun c member => numeral c (List.mem_of_mem_drop member)
  have point : isNumeral '.' = true ∧ isNumeral '0' = true ∧ isNumeral 'e' = true := by decide
  unfold Number.layout
  dsimp only
  split
  · simp [numeral,zeros,point]
  split
  · simp [front,back,point]
  split
  · simp [numeral,zeros,point]
  · have sign : isNumeral (if (exponent + ds.length - 1 : Int) < 0 then '-' else '+') = true := by
      split <;> decide
    simp only [allNumeral_append,allNumeral_cons,allNumeral_digits,sign,point]
    refine ⟨?_,trivial,trivial,trivial⟩
    split <;> simp_all

theorem allNumeral_text (n : Number) : AllNumeral n.text := by
  cases n with
  | integer value =>
    cases value with
    | ofNat n => exact allNumeral_digits n
    | negSucc n => exact allNumeral_cons.mpr ⟨by decide,allNumeral_digits _⟩
  | binary x =>
    have sign : AllNumeral (if x.toBits >>> 63 = 0 then [] else ['-']) := by
      split
      · exact allNumeral_nil
      · exact allNumeral_cons.mpr ⟨by decide,allNumeral_nil⟩
    unfold Number.text Number.binaryText
    dsimp only
    split
    · exact allNumeral_append.mpr ⟨sign,List.all_eq_true.mp (by decide)⟩
    · exact allNumeral_append.mpr ⟨sign,allNumeral_layout (allNumeral_digits _) _⟩

theorem digits_ne_nil (n : Nat) : digits n ≠ [] := by
  unfold digits
  split <;> simp

theorem valueOf_digits (n : Nat) : valueOf (digits n) = n := by
  induction n using digits.induct with
  | case1 n small =>
    rw [digits,if_pos small]
    simp [valueOf,(digit_facts small).2]
  | case2 n large ih =>
    have last := (digit_facts (n := n % 10) (by omega)).2
    have front : (digits (n / 10)).foldl (fun n d => n * 10 + (d.toNat - 48)) 0 = n / 10 := ih
    rw [digits,if_neg large,valueOf,List.foldl_append,front]
    simp only [List.foldl_cons,List.foldl_nil,last]
    omega

/-- Only zero begins with a zero. -/
theorem eq_zero_of_head_digits {n : Nat} (zero : (digits n).head? = some '0') : n = 0 := by
  induction n using digits.induct with
  | case1 n small =>
    rw [digits,if_pos small] at zero
    have same := congrArg Char.toNat (Option.some.inj zero)
    rw [(digit_facts small).2] at same
    have code : '0'.toNat = 48 := rfl
    omega
  | case2 n large ih =>
    rw [digits,if_neg large,List.head?_append] at zero
    cases front : digits (n / 10) with
    | nil => exact absurd front (digits_ne_nil _)
    | cons d ds =>
      rw [front] at zero ih
      have := ih zero
      omega

theorem digits_zero : digits 0 = ['0'] := by simp [digits]

theorem takeWhile_digits {ds rest : List Char} (all : ∀ d ∈ ds, d.isDigit = true)
    (ends : EndsNumeral rest) : spanDigits (ds ++ rest) = (ds,rest) := by
  induction ds with
  | nil =>
    cases rest with
    | nil => rfl
    | cons c rest =>
      have other := ((endsNumeral_cons c rest).mp ends).1
      simp [spanDigits,other]
  | cons d ds ih =>
    have later := ih fun d member => all d (List.mem_cons_of_mem _ member)
    have digit := all d List.mem_cons_self
    simp only [spanDigits,Prod.mk.injEq] at later
    simp [spanDigits,digit,later]

theorem readWhole_digits (n : Nat) {rest : List Char} (ends : EndsNumeral rest) :
    readWhole (digits n ++ rest) = some (digits n,rest) := by
  have read : readDigits (digits n ++ rest) = some (digits n,rest) := by
    rw [readDigits,takeWhile_digits isDigit_of_mem_digits ends]
    cases written : digits n with
    | nil => exact absurd written (digits_ne_nil n)
    | cons d ds => rfl
  rw [readWhole,read]
  split
  · rename_i d ds _ leading
    have written : digits n = '0' :: d :: ds := congrArg Prod.fst (Option.some.inj leading)
    have zero : n = 0 := eq_zero_of_head_digits (by rw [written]; rfl)
    rw [zero,digits_zero] at written
    cases written
  · rfl

theorem le_foldl_digits (ds : List Char) (start : Nat) :
    start ≤ ds.foldl (fun n d => n * 10 + (d.toNat - 48)) start := by
  induction ds generalizing start with
  | nil => exact Nat.le_refl _
  | cons d ds ih =>
    have := ih (start * 10 + (d.toNat - 48))
    simp only [List.foldl_cons]
    omega

/-- Digits whose value fits are all taken. -/
theorem extend_eq (ds : List Char) (start : Nat)
    (fits : ds.foldl (fun n d => n * 10 + (d.toNat - 48)) start < Nat.pow 2 64) :
    Number.extend start ds = (ds.foldl (fun n d => n * 10 + (d.toNat - 48)) start,[]) := by
  induction ds generalizing start with
  | nil => rfl
  | cons d ds ih =>
    simp only [List.foldl_cons] at fits
    have longer := le_foldl_digits ds (start * 10 + (d.toNat - 48))
    have bound : start * 10 + (d.toNat - 48) < Nat.pow 2 64 := Nat.lt_of_le_of_lt longer fits
    simp only [Number.extend,List.foldl_cons,if_pos bound]
    exact ih _ fits

theorem extend_digits {n : Nat} (fits : n < Nat.pow 2 64) :
    Number.extend 0 (digits n) = (n,[]) := by
  have value := valueOf_digits n
  unfold valueOf at value
  have whole := extend_eq (digits n) 0 (by rwa [value])
  rwa [value] at whole

theorem extend_lt {start : Nat} (fits : start < Nat.pow 2 64) (ds : List Char) :
    (Number.extend start ds).1 < Nat.pow 2 64 := by
  induction ds generalizing start with
  | nil => exact fits
  | cons d ds ih =>
    unfold Number.extend
    dsimp only
    split
    · rename_i bound
      exact ih bound
    · exact fits

/-- A number that was read can be held. -/
theorem fits_ofParts {parts : Number.Parts} {number : Number}
    (read : Number.ofParts parts = some number) : number.Fits := by
  have bound : (Number.extend 0 parts.whole).1 < Nat.pow 2 64 := extend_lt (by decide) parts.whole
  unfold Number.ofParts at read
  dsimp only at read
  split at read
  · cases read
    simp only [Number.Fits]
    omega
  · split at read
    · rename_i held
      cases read
      simp only [Bool.and_eq_true,decide_eq_true_eq] at held
      simp only [Number.Fits]
      omega
    · obtain ⟨x,-,rfl⟩ := Option.map_eq_some_iff.mp read
      trivial

theorem readFraction_none {rest : List Char} (ends : EndsNumeral rest) :
    readFraction rest = some (none,rest) := by
  unfold readFraction
  split
  · simp at ends
  · rfl

theorem readExponent_none {rest : List Char} (ends : EndsNumeral rest) :
    readExponent rest = some (none,rest) := by
  unfold readExponent
  split
  · simp at ends
  · simp at ends
  · rfl

theorem readSign_digits (n : Nat) (rest : List Char) :
    readSign (digits n ++ rest) = (false,digits n ++ rest) := by
  have plain := isDigit_of_mem_digits (n := n)
  cases written : digits n with
  | nil => exact absurd written (digits_ne_nil n)
  | cons d ds =>
    rw [written] at plain
    have digit := plain d List.mem_cons_self
    unfold readSign
    split
    · rename_i same
      have sign : d = '-' := (List.cons.inj same).1
      rw [sign] at digit
      contradiction
    · rfl

/-- Digits with nothing behind them are a whole numeral. -/
theorem readNumber_digits {n : Nat} {negative : Bool} {cs rest : List Char}
    (sign : readSign cs = (negative,digits n ++ rest)) (ends : EndsNumeral rest) :
    readNumber cs =
      (Number.ofParts ⟨negative,digits n,none,none⟩).map fun number => (number,rest) := by
  unfold readNumber
  simp only [sign,readWhole_digits n ends,Option.bind_eq_bind,Option.bind_some,
    readFraction_none ends,readExponent_none ends]
  cases Number.ofParts ⟨negative,digits n,none,none⟩ <;> rfl

theorem ofParts_nonneg {n : Nat} (fits : n < Nat.pow 2 64) :
    Number.ofParts ⟨false,digits n,none,none⟩ = some (.integer n) := by
  simp [Number.ofParts,extend_digits fits]

theorem ofParts_neg {n : Nat} (positive : 0 < n) (fits : n ≤ Nat.pow 2 63) :
    Number.ofParts ⟨true,digits n,none,none⟩ = some (.integer (-n)) := by
  have small : n < Nat.pow 2 64 := Nat.lt_of_le_of_lt fits (by decide)
  simp [Number.ofParts,extend_digits small,positive,fits]

/-- What is written for an integer that can be held is read as that integer. -/
theorem readNumber_integerText {n : Int} (fits : (Number.integer n).Fits) {rest : List Char}
    (ends : EndsNumeral rest) :
    readNumber (integerText n ++ rest) = some (.integer n,rest) := by
  obtain ⟨low,high⟩ := fits
  cases n with
  | ofNat n =>
    have small : n < Nat.pow 2 64 := by
      have : (n : Int) < (Nat.pow 2 64 : Nat) := high
      omega
    rw [integerText,readNumber_digits (readSign_digits n rest) ends,ofParts_nonneg small]
    rfl
  | negSucc n =>
    have small : n + 1 ≤ Nat.pow 2 63 := by omega
    have sign : readSign ('-' :: digits (n + 1) ++ rest) = (true,digits (n + 1) ++ rest) := rfl
    rw [integerText,readNumber_digits sign ends,ofParts_neg (Nat.succ_pos n) small]
    rfl

end LedgerRehearsal.Json

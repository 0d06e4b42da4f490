import LedgerRehearsal.Json.Printer
import LedgerRehearsal.Json.Reader

/-! String literals. What is written for a text is read back as the same text, and the reader stops
right behind the closing quote, whatever follows it. -/
namespace LedgerRehearsal.Json

/-- A character is written with a letter behind a backslash, as its code, or as it is. -/
@[elab_as_elim]
theorem escape_cases {motive : Char → List Char → Prop} (c : Char)
    (short : ∀ c d, d ∈ ['"','\\','n','r','t','b','f'] → unescape d = some c → motive c ['\\',d])
    (code : ∀ c : Char, c.toNat < 0x20 → motive c
      ['\\','u','0','0',hexDigit (c.toNat / 16),hexDigit (c.toNat % 16)])
    (plain : ∀ c : Char, c ≠ '"' → c ≠ '\\' → ¬ c.toNat < 0x20 → motive c [c]) :
    motive c (escape c) := by
  unfold escape
  iterate 7
    split
    · rename_i same
      subst same
      exact short _ _ (by decide) rfl
  split
  · exact code c ‹_›
  · exact plain c ‹_› ‹_› ‹_›

theorem hexValue_hexDigit {n : Nat} (small : n < 16) : hexValue (hexDigit n) = some n := by
  have all : ∀ n : Fin 16, hexValue (hexDigit n) = some n.val := by decide
  exact all ⟨n,small⟩

theorem readUnit_byte {n : Nat} (small : n < 256) (rest : List Char) :
    readUnit ('0' :: '0' :: hexDigit (n / 16) :: hexDigit (n % 16) :: rest) = some (n,rest) := by
  have high : hexValue (hexDigit (n / 16)) = some (n / 16) := hexValue_hexDigit (by omega)
  have low : hexValue (hexDigit (n % 16)) = some (n % 16) := hexValue_hexDigit (by omega)
  have zero : hexValue '0' = some 0 := by decide
  have whole : n / 16 * 16 + n % 16 = n := by omega
  simp [readUnit,high,low,zero,whole]

/-- What is written for a character is read as this character. -/
theorem readCharacter_escape (c : Char) (rest : List Char) :
    readCharacter (escape c ++ rest) = some (some c,rest) := by
  cases c using escape_cases with
  | short c d among read =>
    have other : d ≠ 'u' := by
      rintro rfl
      contradiction
    simp [readCharacter,read]
  | code c small =>
    have whole : readUnit ('0' :: '0' :: hexDigit (c.toNat / 16) :: hexDigit (c.toNat % 16) :: rest)
        = some (c.toNat,rest) := readUnit_byte (by omega) rest
    have below : ¬ 55296 ≤ c.toNat := by omega
    have below' : ¬ 56320 ≤ c.toNat := by omega
    simp [readCharacter,readCodePoint,whole,below,below']
  | plain c quote backslash printed =>
    have single : ([c] : List Char) ++ rest = c :: rest := rfl
    rw [single]
    -- every branch but the one for a plain character is for one that is excluded here
    unfold readCharacter
    split <;> simp_all

@[simp] theorem escaped_nil : escaped [] = [] := rfl

@[simp] theorem escaped_cons (c : Char) (text : List Char) :
    escaped (c :: text) = escape c ++ escaped text := rfl

@[simp] theorem escaped_append (front back : List Char) :
    escaped (front ++ back) = escaped front ++ escaped back := List.flatMap_append

theorem escape_ne_nil (c : Char) : escape c ≠ [] := by
  cases c using escape_cases <;> simp

theorem length_le_escaped (text : List Char) : text.length ≤ (escaped text).length := by
  induction text with
  | nil => simp
  | cons c text ih =>
    have := List.length_pos_iff.mpr (escape_ne_nil c)
    simp only [escaped_cons,List.length_cons,List.length_append]
    omega

theorem readCharacters_escaped (text rest : List Char) {fuel : Nat} (enough : text.length < fuel) :
    readCharacters fuel (escaped text ++ '"' :: rest) = some (text,rest) := by
  induction text generalizing fuel with
  | nil =>
    obtain ⟨fuel,rfl⟩ := Nat.exists_eq_add_one.mpr enough
    rfl
  | cons c text ih =>
    obtain ⟨fuel,rfl⟩ := Nat.exists_eq_add_one.mpr (Nat.zero_lt_of_lt enough)
    have later := ih (Nat.lt_of_succ_lt_succ enough)
    simp [readCharacters,readCharacter_escape,later]

/-- Reading stops right behind the closing quote. -/
theorem readText_escaped (text rest : List Char) :
    readText (escaped text ++ '"' :: rest) = some (String.ofList text,rest) := by
  have longer := length_le_escaped text
  rw [readText,readCharacters_escaped text rest (by simp; omega)]
  rfl

/-- Capital letters stand for themselves, and nothing else is written with one. -/
theorem escape_eq_or_small (c : Char) :
    escape c = [c] ∨ c.isUpper = false ∧ ∀ d ∈ escape c, d.isUpper = false := by
  cases c using escape_cases with
  | short c d among read =>
    have small : ['"','\\','n','r','t','b','f'].all (fun d =>
        !d.isUpper && (unescape d).all fun c => !c.isUpper) = true := by decide
    obtain ⟨written,meant⟩ := Bool.and_eq_true_iff.mp (List.all_eq_true.mp small d among)
    rw [read] at meant
    refine .inr ⟨by simpa using meant,?_⟩
    simpa using written
  | code c control =>
    have hexDigits : ∀ n : Fin 16, (hexDigit n).isUpper = false := by decide
    have high := hexDigits ⟨c.toNat / 16,by omega⟩
    have low := hexDigits ⟨c.toNat % 16,by omega⟩
    have controls : ∀ n : Fin 32, (Char.ofNat n).isUpper = false := by decide
    have small := controls ⟨c.toNat,control⟩
    rw [Char.ofNat_toNat] at small
    refine .inr ⟨small,?_⟩
    simp [high,low]
  | plain c _ _ _ => exact .inl rfl

theorem escaped_capital {text : List Char} (capital : ∀ c ∈ text, c.isUpper = true) :
    escaped text = text := by
  induction text with
  | nil => rfl
  | cons c text ih =>
    rw [escaped_cons,ih fun d member => capital d (List.mem_cons_of_mem _ member)]
    rcases escape_eq_or_small c with same | ⟨small,-⟩
    · rw [same]
      rfl
    · rw [capital c List.mem_cons_self] at small
      contradiction

end LedgerRehearsal.Json

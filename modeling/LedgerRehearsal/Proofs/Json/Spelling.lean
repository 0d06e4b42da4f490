import LedgerRehearsal.Proofs.Json.Literal
import LedgerRehearsal.Proofs.Json.Reading

/-! Texts of a value. A value can be spelled in many ways, which differ in the blanks between the
tokens; the two layouts are two of them. Every spelling is read as the canonical form of the value,
so neither layout loses anything of a value that is ordered. -/
namespace LedgerRehearsal.Json

/-- Characters that are free to stand between tokens. -/
def Blank (cs : List Char) : Prop := ∀ c ∈ cs, isSpace c = true

mutual

/-- The texts of a value whose numbers are integers. -/
inductive Spells : Value → List Char → Prop where
  | null : Spells .null ['n','u','l','l']
  | bool (b : Bool) : Spells (.bool b) (writeCompact (.bool b))
  | integer {n : Int} : (Number.integer n).Fits → Spells (.number (.integer n)) (integerText n)
  | string (s : String) : Spells (.string s) (quote s.toList)
  | noItems {blanks : List Char} : Blank blanks → Spells (.list []) ('[' :: (blanks ++ [']']))
  | list {items : List Value} {blanks inner : List Char} :
      Blank blanks → SpellsItems items inner →
      Spells (.list items) ('[' :: (blanks ++ (inner ++ [']'])))
  | noMembers {blanks : List Char} : Blank blanks → Spells (.object []) ('{' :: (blanks ++ ['}']))
  | object {members : List (String × Value)} {blanks inner : List Char} :
      Blank blanks → SpellsMembers members inner →
      Spells (.object members) ('{' :: (blanks ++ (inner ++ ['}'])))

inductive SpellsItems : List Value → List Char → Prop where
  | last {item : Value} {inner after : List Char} :
      Spells item inner → Blank after → SpellsItems [item] (inner ++ after)
  | next {item : Value} {items : List Value} {inner after before more : List Char} :
      Spells item inner → Blank after → Blank before → SpellsItems items more →
      SpellsItems (item :: items) (inner ++ (after ++ ',' :: (before ++ more)))

inductive SpellsMembers : List (String × Value) → List Char → Prop where
  | last (key : String) {value : Value} {gap before inner after : List Char} :
      Blank gap → Blank before → Spells value inner → Blank after →
      SpellsMembers [(key,value)] (quote key.toList ++ (gap ++ ':' :: (before ++ (inner ++ after))))
  | next (key : String) {value : Value} {members : List (String × Value)}
      {gap before inner after front more : List Char} :
      Blank gap → Blank before → Spells value inner → Blank after → Blank front →
      SpellsMembers members more →
      SpellsMembers ((key,value) :: members)
        (quote key.toList ++
          (gap ++ ':' :: (before ++ (inner ++ (after ++ ',' :: (front ++ more))))))

end

theorem blank_nil : Blank [] := nofun

theorem blank_newline (level : Nat) : Blank (newline level) := by
  intro c member
  rcases List.mem_cons.mp member with rfl | space
  · rfl
  · rw [List.eq_of_mem_replicate space]
    rfl

theorem isSpace_cases {c : Char} (space : isSpace c = true) :
    c = ' ' ∨ c = '\t' ∨ c = '\n' ∨ c = '\r' := by
  simpa [isSpace,or_assoc] using space

theorem isSpace_of_isDigit {c : Char} (digit : c.isDigit = true) : isSpace c = false := by
  by_contra space
  rcases isSpace_cases (Bool.not_eq_false _ ▸ space) with rfl | rfl | rfl | rfl <;> contradiction

theorem skipSpace_blank {blanks : List Char} (blank : Blank blanks) (cs : List Char) :
    skipSpace (blanks ++ cs) = skipSpace cs := List.dropWhile_append_of_pos blank

theorem skipSpace_cons {c : Char} (visible : isSpace c = false) (cs : List Char) :
    skipSpace (c :: cs) = c :: cs := by simp [skipSpace,visible]

/-- A numeral ends where blanks or punctuation begin. -/
theorem endsNumeral_blank {blanks : List Char} (blank : Blank blanks) {cs : List Char}
    (ends : EndsNumeral cs) : EndsNumeral (blanks ++ cs) := by
  cases blanks with
  | nil => exact ends
  | cons c blanks =>
    rcases isSpace_cases (blank c List.mem_cons_self) with rfl | rfl | rfl | rfl <;> simp

theorem head_integerText (n : Int) :
    ∃ c cs, integerText n = c :: cs ∧ (c = '-' ∨ c.isDigit = true) := by
  cases n with
  | ofNat n =>
    cases written : digits n with
    | nil => exact absurd written (digits_ne_nil n)
    | cons d ds =>
      have digit := isDigit_of_mem_digits (n := n) d (by rw [written]; exact List.mem_cons_self)
      exact ⟨d,ds,written,.inr digit⟩
  | negSucc n => exact ⟨'-',digits (n + 1),rfl,.inl rfl⟩

/-- A spelling begins with the first character of a token that closes nothing. -/
theorem Spells.head {value : Value} {text : List Char} (spells : Spells value text) :
    ∃ c cs, text = c :: cs ∧ isSpace c = false ∧ c ≠ ']' := by
  cases spells with
  | @integer n fits =>
    obtain ⟨c,cs,written,sign | digit⟩ := head_integerText n
    · exact ⟨c,cs,written,by rw [sign]; rfl,by rw [sign]; decide⟩
    · refine ⟨c,cs,written,isSpace_of_isDigit digit,?_⟩
      rintro rfl
      contradiction
  | bool b => cases b <;> exact ⟨_,_,rfl,rfl,by decide⟩
  | null | string | noItems | list | noMembers | object => exact ⟨_,_,rfl,rfl,by decide⟩

theorem SpellsItems.head {items : List Value} {text : List Char} (spells : SpellsItems items text) :
    ∃ c cs, text = c :: cs ∧ isSpace c = false ∧ c ≠ ']' := by
  cases spells with
  | last first _ | next first _ _ _ =>
    obtain ⟨c,cs,rfl,visible,opens⟩ := first.head
    exact ⟨c,_,rfl,visible,opens⟩

theorem SpellsMembers.head {members : List (String × Value)} {text : List Char}
    (spells : SpellsMembers members text) : ∃ cs, text = '"' :: cs := by
  cases spells <;> exact ⟨_,rfl⟩

/-- Every item takes a character at least. -/
theorem SpellsItems.length_le {items : List Value} {text : List Char}
    (spells : SpellsItems items text) : items.length ≤ text.length := by
  induction items generalizing text with
  | nil => exact Nat.zero_le _
  | cons item items ih =>
    cases spells with
    | last first _ =>
      obtain ⟨c,cs,rfl,-⟩ := first.head
      simp
    | next first _ _ more =>
      have := ih more
      simp only [List.length_cons,List.length_append]
      omega

theorem SpellsMembers.length_le {members : List (String × Value)} {text : List Char}
    (spells : SpellsMembers members text) : members.length ≤ text.length := by
  induction members generalizing text with
  | nil => exact Nat.zero_le _
  | cons member members ih =>
    cases spells with
    | last => simp [quote]
    | next _ _ _ _ _ _ more =>
      have := ih more
      simp only [List.length_cons,List.length_append]
      omega

theorem readValue_blank {blanks : List Char} (blank : Blank blanks) (depth : Nat) (cs : List Char) :
    readValue depth (blanks ++ cs) = readValue depth cs := by
  cases depth <;> simp only [readValue,skipSpace_blank blank]

/-- A text that begins like a numeral is read as one. -/
theorem readValue_numeral {c : Char} (begins : c = '-' ∨ c.isDigit = true) (depth : Nat)
    (cs : List Char) :
    readValue depth (c :: cs) =
      (readNumber (c :: cs)).map fun (number,rest) => (.number number,rest) := by
  have visible : isSpace c = false := by
    rcases begins with rfl | digit
    · rfl
    · exact isSpace_of_isDigit digit
  cases depth
  all_goals
    unfold readValue
    rw [skipSpace_cons visible]
    split
    case h_7 => rfl
    all_goals
      rename_i same
      obtain ⟨rfl,-⟩ := List.cons.inj same
      rcases begins with minus | digit <;> contradiction

theorem readValue_bracket (depth : Nat) {cs inner : List Char} {c : Char}
    (found : skipSpace cs = c :: inner) (opens : c ≠ ']') :
    readValue (depth + 1) ('[' :: cs) =
      (readItems (readValue depth) (c :: inner).length (c :: inner)).map fun (items,rest) =>
        (.list items,rest) := by
  simp only [readValue,skipSpace_cons (c := '[') rfl,found]
  split
  · rename_i closing
    exact absurd (List.cons.inj closing).1 opens
  · rfl

theorem readValue_brace (depth : Nat) {cs inner : List Char} (found : skipSpace cs = '"' :: inner) :
    readValue (depth + 1) ('{' :: cs) =
      (readMembers (readValue depth) ('"' :: inner).length ('"' :: inner)).map
        fun (members,rest) => (.ofMembers members,rest) := by
  simp [readValue,skipSpace_cons (c := '{') rfl,found]

theorem readWord_self (word : List Char) (value : Value) (rest : List Char) :
    readWord word value (word ++ rest) = some (value,rest) := by simp [readWord]

section

variable {item : Reader Value} {value : Value} {fuel : Nat} {cs after rest : List Char}

theorem readItems_last (first : item cs = some (value,after ++ ']' :: rest)) (blank : Blank after) :
    readItems item (fuel + 1) cs = some ([value],rest) := by
  simp [readItems,first,skipSpace_blank blank,skipSpace_cons (c := ']') rfl]

theorem readItems_next (first : item cs = some (value,after ++ ',' :: rest)) (blank : Blank after) :
    readItems item (fuel + 1) cs =
      (readItems item fuel rest).map fun (items,behind) => (value :: items,behind) := by
  simp [readItems,first,skipSpace_blank blank,skipSpace_cons (c := ',') rfl]

theorem readKey_quote {front gap : List Char} (blank : Blank front) (key : String)
    (between : Blank gap) (rest : List Char) :
    readKey (front ++ (quote key.toList ++ (gap ++ ':' :: rest))) = some (key,rest) := by
  have opened : quote key.toList ++ (gap ++ ':' :: rest) =
      '"' :: (escaped key.toList ++ '"' :: (gap ++ ':' :: rest)) := by simp [quote]
  simp [readKey,skipSpace_blank blank,opened,skipSpace_cons (c := '"') rfl,readText_escaped,
    skipSpace_blank between,skipSpace_cons (c := ':') rfl]

variable {key : String} {behind : List Char}

theorem readMembers_last (keyed : readKey cs = some (key,behind))
    (first : item behind = some (value,after ++ '}' :: rest)) (blank : Blank after) :
    readMembers item (fuel + 1) cs = some ([(key,value)],rest) := by
  simp [readMembers,keyed,first,skipSpace_blank blank,skipSpace_cons (c := '}') rfl]

theorem readMembers_next (keyed : readKey cs = some (key,behind))
    (first : item behind = some (value,after ++ ',' :: rest)) (blank : Blank after) :
    readMembers item (fuel + 1) cs =
      (readMembers item fuel rest).map fun (members,more) => ((key,value) :: members,more) := by
  simp [readMembers,keyed,first,skipSpace_blank blank,skipSpace_cons (c := ',') rfl]

end

/-- A spelled list is what its items are read as, with fuel for each of them. -/
theorem readValue_listed {depth : Nat} {blanks inner rest : List Char} {items values : List Value}
    (blank : Blank blanks) (each : SpellsItems items inner)
    (read : ∀ {fuel}, items.length ≤ fuel →
      readItems (readValue depth) fuel (inner ++ ']' :: rest) = some (values,rest)) :
    readValue (depth + 1) ('[' :: (blanks ++ (inner ++ [']'])) ++ rest) =
      some (.list values,rest) := by
  obtain ⟨c,cs,same,visible,opens⟩ := each.head
  have enough : items.length ≤ (inner ++ ']' :: rest).length := by
    have := each.length_le
    rw [List.length_append]
    omega
  have found : skipSpace (blanks ++ (inner ++ [']']) ++ rest) = c :: (cs ++ ']' :: rest) := by
    rw [List.append_assoc,skipSpace_blank blank,same]
    simp [skipSpace_cons visible]
  have read := read enough
  rw [same,List.cons_append] at read
  rw [List.cons_append,readValue_bracket depth found opens,read]
  rfl

theorem readValue_fielded {depth : Nat} {blanks inner rest : List Char}
    {members values : List (String × Value)} (blank : Blank blanks)
    (each : SpellsMembers members inner)
    (read : ∀ {fuel}, members.length ≤ fuel →
      readMembers (readValue depth) fuel (inner ++ '}' :: rest) = some (values,rest)) :
    readValue (depth + 1) ('{' :: (blanks ++ (inner ++ ['}'])) ++ rest) =
      some (.ofMembers values,rest) := by
  obtain ⟨cs,same⟩ := each.head
  have enough : members.length ≤ (inner ++ '}' :: rest).length := by
    have := each.length_le
    rw [List.length_append]
    omega
  have found : skipSpace (blanks ++ (inner ++ ['}']) ++ rest) = '"' :: (cs ++ '}' :: rest) := by
    rw [List.append_assoc,skipSpace_blank blank,same]
    simp [skipSpace_cons (c := '"') rfl]
  have read := read enough
  rw [same,List.cons_append] at read
  rw [List.cons_append,readValue_brace depth found,read]
  rfl

mutual

/-- Every spelling of a value that is not nested too deep is read as its canonical form. -/
theorem readValue_spells : (value : Value) → {depth : Nat} → {text rest : List Char} →
    Spells value text → nesting value ≤ depth → EndsNumeral rest →
    readValue depth (text ++ rest) = some (canonical value,rest)
  | .null, depth, _, rest, .null, _, _ => by
    cases depth <;> exact readWord_self ['u','l','l'] .null rest
  | .bool true, depth, _, rest, .bool _, _, _ => by
    cases depth <;> exact readWord_self ['r','u','e'] (.bool true) rest
  | .bool false, depth, _, rest, .bool _, _, _ => by
    cases depth <;> exact readWord_self ['a','l','s','e'] (.bool false) rest
  | .number (.integer n), depth, _, rest, .integer fits, _, ends => by
    have read := readNumber_integerText fits ends
    obtain ⟨c,cs,written,begins⟩ := head_integerText n
    rw [written] at read ⊢
    rw [List.cons_append] at read ⊢
    rw [readValue_numeral begins,read]
    rfl
  | .string s, depth, _, rest, .string _, _, _ => by
    have opened : quote s.toList ++ rest = '"' :: (escaped s.toList ++ '"' :: rest) := by
      simp [quote]
    have read := readText_escaped s.toList rest
    rw [opened]
    cases depth <;> simp [readValue,skipSpace_cons (c := '"') rfl,read,canonical]
  | .list items, depth, _, rest, spells, shallow, ends => by
    obtain ⟨depth,rfl⟩ := Nat.exists_eq_add_one.mpr (Nat.lt_of_lt_of_le (Nat.succ_pos _) shallow)
    have inside : itemsNesting items ≤ depth := Nat.le_of_succ_le_succ shallow
    cases spells with
    | noItems blank =>
      simp [readValue,skipSpace_cons (c := '[') rfl,skipSpace_blank blank,
        skipSpace_cons (c := ']') rfl,canonical,canonicalItems]
    | list blank each =>
      exact readValue_listed blank each fun enough =>
        readItems_spells items rest each inside enough blank_nil
  | .object members, depth, _, rest, spells, shallow, ends => by
    obtain ⟨depth,rfl⟩ := Nat.exists_eq_add_one.mpr (Nat.lt_of_lt_of_le (Nat.succ_pos _) shallow)
    have inside : membersNesting members ≤ depth := Nat.le_of_succ_le_succ shallow
    cases spells with
    | noMembers blank =>
      simp [readValue,skipSpace_cons (c := '{') rfl,skipSpace_blank blank,
        skipSpace_cons (c := '}') rfl,canonical,canonicalMembers,Members.ofList]
    | object blank each =>
      exact readValue_fielded blank each fun enough =>
        readMembers_spells members rest each inside enough blank_nil

theorem readItems_spells : (items : List Value) → {depth fuel : Nat} →
    {before text : List Char} → (rest : List Char) → SpellsItems items text →
    itemsNesting items ≤ depth → items.length ≤ fuel → Blank before →
    readItems (readValue depth) fuel (before ++ (text ++ ']' :: rest)) =
      some (canonicalItems items,rest)
  | [], _, _, _, _, _, spells, _, _, _ => by cases spells
  -- `before` is the blank text that a comma leaves in front of the item
  | item :: items, depth, fuel, before, _, rest, spells, shallow, enough, blank => by
    obtain ⟨fuel,rfl⟩ := Nat.exists_eq_add_one.mpr (Nat.lt_of_lt_of_le (Nat.succ_pos _) enough)
    obtain ⟨first,others⟩ := Nat.max_le.mp shallow
    cases spells with
    | @last _ inner after spelled space =>
      have ends : EndsNumeral (after ++ ']' :: rest) :=
        endsNumeral_blank space (by simp)
      have read := readValue_spells item spelled first ends
      rw [List.append_assoc,readItems_last (by rw [readValue_blank blank,read]) space]
      rfl
    | @next _ _ inner after front more spelled space space' each =>
      have ends : EndsNumeral (after ++ ',' :: (front ++ (more ++ ']' :: rest))) :=
        endsNumeral_blank space (by simp)
      have read := readValue_spells item spelled first ends
      have later := readItems_spells items rest each others (Nat.le_of_succ_le_succ enough) space'
      have whole : inner ++ (after ++ ',' :: (front ++ more)) ++ ']' :: rest =
          inner ++ (after ++ ',' :: (front ++ (more ++ ']' :: rest))) := by simp
      rw [whole,readItems_next (by rw [readValue_blank blank,read]) space,later]
      rfl

theorem readMembers_spells : (members : List (String × Value)) → {depth fuel : Nat} →
    {front text : List Char} → (rest : List Char) → SpellsMembers members text →
    membersNesting members ≤ depth → members.length ≤ fuel → Blank front →
    readMembers (readValue depth) fuel (front ++ (text ++ '}' :: rest)) =
      some (canonicalMembers members,rest)
  | [], _, _, _, _, _, spells, _, _, _ => by cases spells
  | (key, value) :: members, depth, fuel, front, _, rest, spells, shallow, enough, blank => by
    obtain ⟨fuel,rfl⟩ := Nat.exists_eq_add_one.mpr (Nat.lt_of_lt_of_le (Nat.succ_pos _) enough)
    obtain ⟨first,others⟩ := Nat.max_le.mp shallow
    cases spells with
    | @last _ _ gap before inner after space space' spelled space'' =>
      have ends : EndsNumeral (after ++ '}' :: rest) :=
        endsNumeral_blank space'' (by simp)
      have read := readValue_spells value spelled first ends
      have keyed := readKey_quote blank key space (before ++ (inner ++ (after ++ '}' :: rest)))
      have whole : quote key.toList ++ (gap ++ ':' :: (before ++ (inner ++ after))) ++ '}' :: rest =
          quote key.toList ++ (gap ++ ':' :: (before ++ (inner ++ (after ++ '}' :: rest)))) := by
        simp
      rw [whole,readMembers_last keyed (by rw [readValue_blank space',read]) space'']
      rfl
    | @next _ _ _ gap before inner after front' more space space' spelled space'' space3 each =>
      have ends : EndsNumeral (after ++ ',' :: (front' ++ (more ++ '}' :: rest))) :=
        endsNumeral_blank space'' (by simp)
      have read := readValue_spells value spelled first ends
      have later :=
        readMembers_spells members rest each others (Nat.le_of_succ_le_succ enough) space3
      have keyed := readKey_quote blank key space
        (before ++ (inner ++ (after ++ ',' :: (front' ++ (more ++ '}' :: rest)))))
      have whole : quote key.toList ++ (gap ++ ':' ::
            (before ++ (inner ++ (after ++ ',' :: (front' ++ more))))) ++ '}' :: rest =
          quote key.toList ++ (gap ++ ':' ::
            (before ++ (inner ++ (after ++ ',' :: (front' ++ (more ++ '}' :: rest)))))) := by simp
      rw [whole,readMembers_next keyed (by rw [readValue_blank space',read]) space'',later]
      rfl

end

mutual

/-- The compact layout spells a value. -/
theorem spells_writeCompact : (value : Value) →
    (∀ n ∈ numbers value, n.IsInteger ∧ n.Fits) → Spells value (writeCompact value)
  | .null, _ => .null
  | .bool b, _ => .bool b
  | .number n, exact => by
    obtain ⟨integer,fits⟩ := exact n List.mem_cons_self
    cases n with
    | integer n => exact .integer fits
    | binary x => exact integer.elim
  | .string s, _ => .string s
  | .list [], _ => .noItems blank_nil
  | .list (item :: items), exact =>
    .list blank_nil (spells_writeItems (item :: items) (List.cons_ne_nil _ _) exact)
  | .object [], _ => .noMembers blank_nil
  | .object (member :: members), exact =>
    .object blank_nil (spells_writeMembers (member :: members) (List.cons_ne_nil _ _) exact)

theorem spells_writeItems : (items : List Value) → items ≠ [] →
    (∀ n ∈ itemNumbers items, n.IsInteger ∧ n.Fits) → SpellsItems items (writeItems items)
  | [], filled, _ => absurd rfl filled
  | [item], _, exact => by
    have first := spells_writeCompact item (List.forall_mem_append.mp exact).1
    simpa [writeItems] using SpellsItems.last first blank_nil
  | item :: next :: items, _, exact => by
    have first := spells_writeCompact item (List.forall_mem_append.mp exact).1
    have more := spells_writeItems (next :: items) (List.cons_ne_nil _ _)
      (List.forall_mem_append.mp exact).2
    exact .next first blank_nil blank_nil more

theorem spells_writeMembers : (members : List (String × Value)) → members ≠ [] →
    (∀ n ∈ memberNumbers members, n.IsInteger ∧ n.Fits) →
    SpellsMembers members (writeMembers members)
  | [], filled, _ => absurd rfl filled
  | [(key, value)], _, exact => by
    have first := spells_writeCompact value (List.forall_mem_append.mp exact).1
    simpa [writeMembers] using
      SpellsMembers.last key blank_nil blank_nil first blank_nil
  | (key, value) :: next :: members, _, exact => by
    have first := spells_writeCompact value (List.forall_mem_append.mp exact).1
    have more := spells_writeMembers (next :: members) (List.cons_ne_nil _ _)
      (List.forall_mem_append.mp exact).2
    simpa [writeMembers] using
      SpellsMembers.next key blank_nil blank_nil first blank_nil blank_nil more

end

mutual

/-- The spread layout spells a value, at any level. -/
theorem spells_writeSpread : (value : Value) → (level : Nat) →
    (∀ n ∈ numbers value, n.IsInteger ∧ n.Fits) → Spells value (writeSpread level value)
  | .null, _, exact => spells_writeCompact .null exact
  | .bool b, _, exact => spells_writeCompact (.bool b) exact
  | .number n, _, exact => spells_writeCompact (.number n) exact
  | .string s, _, exact => spells_writeCompact (.string s) exact
  | .list [], _, _ => .noItems blank_nil
  | .list (item :: items), level, exact => by
    obtain ⟨inner,same,spelled⟩ := spells_writeLines (item :: items) (List.cons_ne_nil _ _)
      (level + 1) exact (newline level) (blank_newline level)
    simpa [writeSpread,same] using Spells.list (blank_newline (level + 1)) spelled
  | .object [], _, _ => .noMembers blank_nil
  | .object (member :: members), level, exact => by
    obtain ⟨inner,same,spelled⟩ := spells_writeFields (member :: members) (List.cons_ne_nil _ _)
      (level + 1) exact (newline level) (blank_newline level)
    simpa [writeSpread,same] using Spells.object (blank_newline (level + 1)) spelled

/-- The lines begin with the blanks before the first item; what stands behind the last one is
free. -/
theorem spells_writeLines : (items : List Value) → items ≠ [] → (level : Nat) →
    (∀ n ∈ itemNumbers items, n.IsInteger ∧ n.Fits) → (after : List Char) → Blank after →
    ∃ inner, writeLines level items = newline level ++ inner ∧ SpellsItems items (inner ++ after)
  | [], filled, _, _, _, _ => absurd rfl filled
  | [item], _, level, exact, after, blank => by
    have first := spells_writeSpread item level (List.forall_mem_append.mp exact).1
    exact ⟨writeSpread level item,rfl,.last first blank⟩
  | item :: next :: items, _, level, exact, after, blank => by
    have first := spells_writeSpread item level (List.forall_mem_append.mp exact).1
    obtain ⟨inner,same,more⟩ := spells_writeLines (next :: items) (List.cons_ne_nil _ _) level
      (List.forall_mem_append.mp exact).2 after blank
    refine ⟨writeSpread level item ++ ',' :: (newline level ++ inner),?_,?_⟩
    · rw [writeLines,same,List.append_assoc]
    · simpa using SpellsItems.next first blank_nil (blank_newline level) more

theorem spells_writeFields : (members : List (String × Value)) → members ≠ [] → (level : Nat) →
    (∀ n ∈ memberNumbers members, n.IsInteger ∧ n.Fits) → (after : List Char) → Blank after →
    ∃ inner, writeFields level members = newline level ++ inner ∧
      SpellsMembers members (inner ++ after)
  | [], filled, _, _, _, _ => absurd rfl filled
  | [(key, value)], _, level, exact, after, blank => by
    have first := spells_writeSpread value level (List.forall_mem_append.mp exact).1
    have space : Blank [' '] := List.forall_mem_singleton.mpr rfl
    refine ⟨quote key.toList ++ ':' :: ' ' :: writeSpread level value,by simp [writeFields],?_⟩
    simpa using SpellsMembers.last key blank_nil space first blank
  | (key, value) :: next :: members, _, level, exact, after, blank => by
    have first := spells_writeSpread value level (List.forall_mem_append.mp exact).1
    have space : Blank [' '] := List.forall_mem_singleton.mpr rfl
    obtain ⟨inner,same,more⟩ := spells_writeFields (next :: members) (List.cons_ne_nil _ _) level
      (List.forall_mem_append.mp exact).2 after blank
    refine ⟨quote key.toList ++ ':' :: ' ' :: writeSpread level value ++
      ',' :: (newline level ++ inner),?_,?_⟩
    · simp [writeFields,same]
    · simpa using SpellsMembers.next key blank_nil space first blank_nil
        (blank_newline level) more

end

/-- A spelling with blanks behind it is a text of the value. -/
theorem parse_spelling {value : Value} {text after : List Char} (spells : Spells value text)
    (shallow : nesting value ≤ maxDepth) (blank : Blank after) :
    parse (String.ofList (text ++ after)) = some (canonical value) := by
  have ends : EndsNumeral after := by
    have := endsNumeral_blank blank endsNumeral_nil
    rwa [List.append_nil] at this
  have read := readValue_spells value spells shallow ends
  have free : after.all isSpace = true := List.all_eq_true.mpr blank
  simp only [parse,String.toList_ofList,read,free,if_true]

section

variable {value : Value} (readable : Readable (fun n => n.IsInteger ∧ n.Fits) 127 value)

include readable

theorem parse_compact {after : List Char} (blank : Blank after) :
    parse (value.canonicalText ++ String.ofList after) = some value := by
  have same := canonical_of_ordered value readable.ordered
  have spells := spells_writeCompact value readable.numbers
  have read := parse_spelling spells readable.shallow blank
  rw [same] at read
  rw [Value.canonicalText,Value.compact,← String.ofList_append,same,read]

theorem parse_pretty {after : List Char} (blank : Blank after) :
    parse (value.canonicalPretty ++ String.ofList after) = some value := by
  have same := canonical_of_ordered value readable.ordered
  have spells := spells_writeSpread value 0 readable.numbers
  have read := parse_spelling spells readable.shallow blank
  rw [same] at read
  rw [Value.canonicalPretty,Value.pretty,← String.ofList_append,same,read]

/-- Nothing of a value of integers is lost in either layout, and the compact text tells values
apart. -/
theorem parse_canonical :
    parse value.canonicalText = some value ∧ parse value.canonicalPretty = some value ∧
      ∀ other, Readable (fun n => n.IsInteger ∧ n.Fits) 127 other →
        (value.canonicalText = other.canonicalText ↔ value = other) := by
  have compact := parse_compact readable blank_nil
  have pretty := parse_pretty readable blank_nil
  rw [String.ofList_nil,String.append_empty] at compact pretty
  refine ⟨compact,pretty,fun other readable' => ⟨fun same => ?_,fun same => by rw [same]⟩⟩
  have compact' := parse_compact readable' blank_nil
  rw [String.ofList_nil,String.append_empty,← same,compact] at compact'
  exact Option.some.inj compact'

end

theorem parse_canonical_escapes :
    let value : Value := .object [
      ("",.list [.list [],.object [],.null,.bool true,.bool false]),
      ("\x01\n\"",.list [.number (.integer (-9223372036854775808)),
        .number (.integer 18446744073709551615)]),
      ("a\\\x7f",.string "\t\x08\x0cé💧")]
    parse value.canonicalText = some value ∧ parse value.canonicalPretty = some value ∧
      ∀ other, Readable (fun n => n.IsInteger ∧ n.Fits) 127 other →
        (value.canonicalText = other.canonicalText ↔ value = other) := by
  refine parse_canonical ⟨?_,?_,?_⟩
  · simp only [Ordered,OrderedItems,OrderedMembers,Members.Ascending,Members.keys]
    decide
  · simp [nesting,itemsNesting,membersNesting]
  · simp [numbers,itemNumbers,memberNumbers,Number.IsInteger,Number.Fits]

end LedgerRehearsal.Json

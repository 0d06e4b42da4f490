import LedgerRehearsal.Proofs.Json.Literal
import LedgerRehearsal.Proofs.Template.Interpolation
import LedgerRehearsal.Text.Blank

/-! Reading compiled code back. A reader that knows string literals and blanks, and nothing of
templates, finds the fragments and the expressions again, each in its place, as long as an
expression cannot be taken for a literal or for several tokens. -/
namespace LedgerRehearsal.Template

open Json

/-- A part of the code: a literal with the text it denotes, or a token that is kept as it is. -/
inductive Piece where
  | literal (text : String)
  | raw (token : String)
deriving DecidableEq, Repr

namespace Piece

/-- What stands in the code for a piece. -/
def code : Piece → List Char
  | literal text => quote text.toList
  | raw token => token.toList

def value (bind : String → String) : Piece → String
  | literal text => text
  | raw token => bind token

/-- The pieces of a template: the fragments with a parameter after each but the last. -/
def alternate : List String → List String → List Piece
  | fragment :: fragments, param :: params =>
    literal fragment :: raw param :: alternate fragments params
  | fragments, _ => fragments.map literal

/-- Concatenates the pieces when tokens are bound to texts. -/
def evaluate (bind : String → String) (pieces : List Piece) : String :=
  String.join (pieces.map (value bind))

theorem alternate_map {f : Piece → String} (fragments params : List String) :
    (alternate fragments params).map f =
      weave (fragments.map fun text => f (literal text))
        (params.map fun token => f (raw token)) := by
  induction fragments generalizing params with
  | nil => rfl
  | cons fragment fragments ih =>
    cases params with
    | nil => simp [alternate,weave]
    | cons param params => simp [alternate,weave,ih]

/-- The tokens are the parameters, if each has its place between two fragments. -/
theorem mem_of_raw_mem {token : String} {fragments params : List String}
    (member : raw token ∈ alternate fragments params) : token ∈ params := by
  induction fragments generalizing params with
  | nil => simp [alternate] at member
  | cons fragment fragments ih =>
    cases params with
    | nil => simp [alternate] at member
    | cons param params =>
      simp only [alternate,List.mem_cons,reduceCtorEq,raw.injEq,false_or] at member
      exact List.mem_cons.mpr (member.imp id ih)

end Piece

/-- Reads pieces up to the end of the code. Blanks before a piece are skipped; a quote begins a
literal, anything else a token that ends at the next blank. Each step takes at least one of `fuel`
characters. -/
def readPieces : (fuel : Nat) → List Char → Option (List Piece)
  | 0, _ => none
  | fuel + 1, cs =>
    match cs.dropWhile Text.isBlank with
    | [] => some []
    | '"' :: cs => do
      let (text,cs) ← readText cs
      let pieces ← readPieces fuel cs
      some (.literal text :: pieces)
    | cs => do
      let pieces ← readPieces fuel (cs.dropWhile fun c => !Text.isBlank c)
      some (.raw (String.ofList (cs.takeWhile fun c => !Text.isBlank c)) :: pieces)

/-- Reads the code of a concatenation. -/
def readCode (code : String) : Option (List Piece) :=
  match code.toList with
  | '(' :: 's' :: 't' :: 'r' :: cs =>
    if cs.getLast? = some ')' then readPieces cs.length cs.dropLast else none
  | _ => none

/-- A text that is read as one token. -/
structure IsToken (text : String) : Prop where
  nonempty : text.toList ≠ []
  solid : ∀ c ∈ text.toList, Text.isBlank c = false
  bare : text.toList.head? ≠ some '"'

theorem isToken_iff {text : String} :
    IsToken text ↔ text.toList ≠ [] ∧ (text.toList.all fun c => !Text.isBlank c) = true ∧
      text.toList.head? ≠ some '"' := by
  constructor
  · rintro ⟨nonempty,solid,bare⟩
    exact ⟨nonempty,by simpa using solid,bare⟩
  · rintro ⟨nonempty,solid,bare⟩
    exact ⟨nonempty,by simpa using solid,bare⟩

instance (text : String) : Decidable (IsToken text) := decidable_of_iff _ isToken_iff.symm

/-- The code of pieces, with a blank before each. -/
def spaced (pieces : List Piece) : List Char := pieces.flatMap fun piece => ' ' :: piece.code

theorem spaced_cons (piece : Piece) (pieces : List Piece) :
    spaced (piece :: pieces) = ' ' :: (piece.code ++ spaced pieces) := rfl

theorem readPieces_literal (text : String) (pieces : List Piece) (fuel : Nat) :
    readPieces (fuel + 1) (spaced (.literal text :: pieces)) =
      (readPieces fuel (spaced pieces)).map (.literal text :: ·) := by
  have code : spaced (.literal text :: pieces) =
      ' ' :: '"' :: (escaped text.toList ++ '"' :: spaced pieces) := by
    simp [spaced_cons,Piece.code,quote]
  rw [readPieces,code,List.dropWhile_cons_of_pos (by decide),
    List.dropWhile_cons_of_neg (by decide)]
  simp only [readText_escaped,String.ofList_toList,Option.bind_eq_bind,Option.bind_some]
  cases readPieces fuel (spaced pieces) <;> rfl

/-- A token ends where the next piece begins, or with the code. -/
theorem span_token {token : List Char} (solid : ∀ c ∈ token, Text.isBlank c = false)
    (pieces : List Piece) :
    (token ++ spaced pieces).takeWhile (fun c => !Text.isBlank c) = token ∧
      (token ++ spaced pieces).dropWhile (fun c => !Text.isBlank c) = spaced pieces := by
  have all : ∀ c ∈ token, (!Text.isBlank c) = true := fun c member => by simp [solid c member]
  have ends : (spaced pieces).takeWhile (fun c => !Text.isBlank c) = [] ∧
      (spaced pieces).dropWhile (fun c => !Text.isBlank c) = spaced pieces := by
    cases pieces with
    | nil => exact ⟨rfl,rfl⟩
    | cons piece pieces => exact ⟨rfl,rfl⟩
  rw [List.takeWhile_append_of_pos all,List.dropWhile_append_of_pos all,ends.1,ends.2,
    List.append_nil]
  exact ⟨rfl,rfl⟩

theorem readPieces_raw {token : String} (isToken : IsToken token) (pieces : List Piece)
    (fuel : Nat) :
    readPieces (fuel + 1) (spaced (.raw token :: pieces)) =
      (readPieces fuel (spaced pieces)).map (.raw token :: ·) := by
  obtain ⟨c,cs,whole⟩ := List.exists_cons_of_ne_nil isToken.nonempty
  have solid := isToken.solid
  have bare := isToken.bare
  rw [whole] at bare solid
  have start : Text.isBlank c = false := solid c List.mem_cons_self
  have other : c ≠ '"' := by simpa using bare
  obtain ⟨taken,left⟩ := span_token solid pieces
  rw [readPieces,spaced_cons,Piece.code,whole,List.dropWhile_cons_of_pos (by decide),
    List.cons_append,List.dropWhile_cons_of_neg (by simp [start])]
  rw [List.cons_append] at taken left
  -- the token begins neither like a literal nor with a blank, so it is read by the last branch
  split
  · contradiction
  · rename_i same
    exact absurd (List.cons.inj same).1 other
  · rw [taken,left,← whole,String.ofList_toList]
    cases readPieces fuel (spaced pieces) <;> rfl

/-- Pieces are read back one by one. -/
theorem readPieces_spaced {pieces : List Piece}
    (tokens : ∀ token, .raw token ∈ pieces → IsToken token) {fuel : Nat}
    (enough : pieces.length < fuel) : readPieces fuel (spaced pieces) = some pieces := by
  induction pieces generalizing fuel with
  | nil =>
    obtain ⟨fuel,rfl⟩ := Nat.exists_eq_add_one.mpr enough
    rfl
  | cons piece pieces ih =>
    obtain ⟨fuel,rfl⟩ := Nat.exists_eq_add_one.mpr (Nat.zero_lt_of_lt enough)
    have later := ih (fun token member => tokens token (List.mem_cons_of_mem _ member))
      (Nat.lt_of_succ_lt_succ enough)
    cases piece with
    | literal text => rw [readPieces_literal,later,Option.map_some]
    | raw token =>
      rw [readPieces_raw (tokens token List.mem_cons_self),later,Option.map_some]

theorem length_le_spaced (pieces : List Piece) : pieces.length ≤ (spaced pieces).length := by
  induction pieces with
  | nil => simp [spaced]
  | cons piece pieces ih =>
    rw [spaced_cons,List.length_cons,List.length_cons,List.length_append]
    omega

theorem intercalate_blank {texts : List String} (nonempty : texts ≠ []) :
    ' ' :: (" ".intercalate texts).toList = texts.flatMap fun text => ' ' :: text.toList := by
  induction texts with
  | nil => contradiction
  | cons text texts ih =>
    cases texts with
    | nil => simp
    | cons next texts =>
      rw [List.flatMap_cons,← ih nofun,String.intercalate_cons_cons]
      simp

theorem alternate_ne_nil {fragments : List String} (nonempty : fragments ≠ [])
    (params : List String) : Piece.alternate fragments params ≠ [] := by
  obtain ⟨fragment,fragments,rfl⟩ := List.exists_cons_of_ne_nil nonempty
  cases params <;> nofun

/-- The code is an opening, the pieces, each behind a blank, and a closing parenthesis. -/
theorem toCode_toList {template : Template} (nonempty : template.fragments ≠ []) :
    template.toCode.toList =
      '(' :: 's' :: 't' :: 'r' ::
        (spaced (Piece.alternate template.fragments template.params) ++ [')']) := by
  have woven : weave (template.fragments.map literal) template.params =
      (Piece.alternate template.fragments template.params).map fun piece =>
        String.ofList piece.code := by
    rw [Piece.alternate_map]
    simp only [Piece.code,String.ofList_toList,List.map_id']
    rfl
  have code : spaced (Piece.alternate template.fragments template.params) =
      ' ' :: (" ".intercalate (weave (template.fragments.map literal) template.params)).toList := by
    rw [woven,intercalate_blank (by simpa using alternate_ne_nil nonempty template.params)]
    simp [spaced,List.flatMap_map]
  rw [code,toCode,String.toList_append,String.toList_append]
  rfl

theorem evaluate_alternate (bind : String → String) (fragments params : List String) :
    Piece.evaluate bind (Piece.alternate fragments params) =
      String.join (weave fragments (params.map bind)) := by
  rw [Piece.evaluate,Piece.alternate_map]
  simp [Piece.value]

theorem readCode_pieces {template : Template} (nonempty : template.fragments ≠ [])
    (tokens : ∀ param ∈ template.params, IsToken param) :
    readCode template.toCode =
      some (Piece.alternate template.fragments template.params) := by
  have enough := length_le_spaced (Piece.alternate template.fragments template.params)
  rw [readCode,toCode_toList nonempty]
  simp only
  rw [if_pos List.getLast?_concat,List.dropLast_concat]
  refine readPieces_spaced (fun token member => tokens token (Piece.mem_of_raw_mem member)) ?_
  rw [List.length_append,List.length_singleton]
  omega

/-- A query with slots side by side, behind a quote and before a backslash. -/
def sideBySide : Value := .ofMembers [("where",.list [.string "\"PARAMPARAM\\"])]

example : readCode "(str \"[\\\"\" (?id) \"\" 7 \"\\\\]\")" =
    some [.literal "[\"",.raw "(?id)",.literal "",.raw "7",.literal "\\]"] := by decide +kernel

end LedgerRehearsal.Template

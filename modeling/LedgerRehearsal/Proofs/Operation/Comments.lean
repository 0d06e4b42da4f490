import LedgerRehearsal.Proofs.Operation

/-! Comments, and what is written of an operation that was read. A comment is taken out of an entry,
or of each entry of a list, and nothing else moves; reading sees no difference; and an operation is
written as what it was read from, without the comment. -/
namespace LedgerRehearsal

open Json

/-- A value, and what is left of it when the comment is taken out, if it is an object with one. -/
inductive CommentTaken : Value → Value → Prop where
  | uncommented {value : Value} : value.member? commentKey = none → CommentTaken value value
  | commented {before after : Members} {comment : Value} :
      commentKey ∉ Members.keys (before ++ after) →
      CommentTaken (.object (before ++ (commentKey,comment) :: after)) (.object (before ++ after))

/-- A value, and what is left of it when the comment of each entry is taken out. The items of a list
are its entries; any other value is one itself. -/
inductive CommentsTaken : Value → Value → Prop where
  | entry {value rest : Value} :
      (∀ items, value ≠ .list items) → CommentTaken value rest → CommentsTaken value rest
  | entries {items rests : List Value} :
      List.Forall₂ CommentTaken items rests → CommentsTaken (.list items) (.list rests)

variable {value : Value}

theorem commentTaken_stripEntry (ordered : Ordered value) :
    CommentTaken value (stripEntry value) := by
  cases value with
  | object members =>
    rw [stripEntry]
    cases found : Members.get? commentKey members with
    | none =>
      rw [Members.erase_of_absent found]
      exact .uncommented found
    | some comment =>
      obtain ⟨before,after,rfl⟩ := List.append_of_mem (Members.mem_of_get? found)
      have absent := Members.absent_of_ascending ordered.1
      rw [Members.erase_between absent]
      exact .commented absent
  | null | bool | number | string | list => exact .uncommented rfl

theorem commentsTaken_stripComments (ordered : Ordered value) :
    CommentsTaken value (stripComments value) := by
  cases value with
  | list items =>
    refine .entries (List.forall₂_map_right_iff.mpr (List.forall₂_same.mpr fun item member => ?_))
    exact commentTaken_stripEntry (orderedItems_iff.mp ordered item member)
  | null | bool | number | string | object =>
    exact .entry nofun (commentTaken_stripEntry ordered)

theorem stripEntry_stripEntry (value : Value) : stripEntry (stripEntry value) = stripEntry value := by
  cases value with
  | object members => exact congrArg Value.object Members.erase_erase
  | null | bool | number | string | list => rfl

theorem stripComments_stripComments (value : Value) :
    stripComments (stripComments value) = stripComments value := by
  cases value with
  | list items =>
    refine congrArg Value.list ?_
    rw [List.map_map]
    exact List.map_congr_left fun item _ => stripEntry_stripEntry item
  | object members => exact stripEntry_stripEntry (.object members)
  | null | bool | number | string => rfl

theorem Code.ofMembers?_erase (members : Members) :
    ofMembers? (Members.erase commentKey members) = ofMembers? members := by
  have kept (key : String) (different : key ≠ commentKey) :
      Members.get? key (Members.erase commentKey members) = Members.get? key members := by
    rw [Members.get?_erase,if_neg different]
  unfold ofMembers?
  rw [kept codeKey (by decide),kept fileKey (by decide),kept queryKey (by decide),
    templateParams_congr (kept paramsKey (by decide))]

namespace Operation

variable {operation : Operation}

/-- A comment makes no difference, not even for an entry that is no operation. -/
theorem ofValue_stripEntry (value : Value) : ofValue (stripEntry value) = ofValue value := by
  cases value with
  | object members =>
    rw [stripEntry,ofValue,ofValue,Code.ofMembers?_erase,plainFields,Members.erase_erase,plainFields]
  | null | bool | number | string | list => rfl

theorem ofValue_stripComments (value : Value) : ofValue (stripComments value) = ofValue value := by
  cases value with
  | object members => exact ofValue_stripEntry (.object members)
  | null | bool | number | string | list => rfl

theorem stripComments_of_ofValue (read : ofValue value = .ok operation) :
    stripComments value = stripEntry value := by
  obtain ⟨members,rfl,-,-⟩ := ofValue_eq_ok.mp read
  rfl

end Operation

namespace Transaction

theorem ofValue_stripComments (value : Value) : ofValue (stripComments value) = ofValue value := by
  cases value with
  | list entries =>
    rw [stripComments,ofValue,ofValue,List.mapM_map]
    exact congrArg (entries.mapM ·) (funext Operation.ofValue_stripEntry)
  | null | bool | number | string | object => rfl

/-- What was read is written as the value without its comments, and what was written is read as
itself, for a transaction as for a single operation. With or without its comments a value is read
alike, or refused for the same reason. Taking the comments out a second time changes nothing, and the
first time nothing but the comments of the entries. -/
theorem written_back (ordered : Ordered value) :
    (∀ transaction, ofValue value = .ok transaction →
        toValue transaction = stripComments value ∧
          ofValue (toValue transaction) = .ok transaction) ∧
      ofValue (stripComments value) = ofValue value ∧
      (∀ operation, Operation.decode value = .ok operation →
        operation.toValue = stripComments value ∧
          Operation.decode operation.toValue = .ok operation) ∧
      Operation.decode (stripComments value) = Operation.decode value ∧
      stripComments (stripComments value) = stripComments value ∧
      CommentsTaken value (stripComments value) := by
  refine ⟨fun transaction read => ?_,ofValue_stripComments value,fun operation decoded => ?_,?_,
    stripComments_stripComments value,commentsTaken_stripComments ordered⟩
  · exact ⟨toValue_ofValue ordered read,ofValue_toValue (wellFormed_ofValue read)⟩
  · have read := Except.mapError_eq_ok.mp decoded
    have again := Operation.ofValue_toValue (Operation.wellFormed_ofValue read)
    refine ⟨?_,Except.mapError_eq_ok.mpr again⟩
    rw [Operation.toValue_ofValue ordered read,Operation.stripComments_of_ofValue read]
  · rw [Operation.decode,Operation.ofValue_stripComments,Operation.decode]

/-- Two entries with a comment, one of them with another that belongs to its query. -/
def remarks : Value :=
  .list [
    .object [("COMMENT",.null),("code_expand",.string "f.clj"),("params",.list [.null])],
    .object [("COMMENT",.string "b"),("_id",.string "x"),
      ("code_from_query",.object [("COMMENT",.bool true)])]]

theorem remarks_written_back :
    Ordered remarks ∧
      ofValue remarks = .ok [
        ⟨[("params",.list [.null])],some (.ofFile "f.clj" [.null])⟩,
        ⟨[("_id",.string "x")],some (.ofQuery (.object [("COMMENT",.bool true)]) [])⟩] ∧
      ∃ transaction, ofValue remarks = .ok transaction ∧
        toValue transaction = .list [
          .object [("code_expand",.string "f.clj"),("params",.list [.null])],
          .object [("_id",.string "x"),("code_from_query",.object [("COMMENT",.bool true)])]] ∧
        ofValue (toValue transaction) = .ok transaction ∧
        ofValue (stripComments remarks) = .ok transaction := by
  have ordered : Ordered remarks := by
    simp only [remarks,Ordered,OrderedItems,OrderedMembers,Members.Ascending,Members.keys]
    decide
  have read : ofValue remarks = .ok [
      ⟨[("params",.list [.null])],some (.ofFile "f.clj" [.null])⟩,
      ⟨[("_id",.string "x")],some (.ofQuery (.object [("COMMENT",.bool true)]) [])⟩] := by decide
  obtain ⟨whole,same,-⟩ := written_back ordered
  obtain ⟨written,again⟩ := whole _ read
  exact ⟨ordered,read,_,read,written.trans (by decide),again,same.trans read⟩

end Transaction

end LedgerRehearsal

/-!
JSON values. The members of an object are kept in increasing order of their keys, by UTF-8 bytes,
which is the order of `String`; a key has one member. `insert` is the only way in which readers and
programs build members, so the text of a value never depends on the order of insertion.
-/

namespace LedgerRehearsal.Json

/-- An integer between `-2 ^ 63` and `2 ^ 64 - 1`, or a finite binary number of 64 bits. -/
inductive Number where
  | integer (value : Int)
  | binary (value : Float)
deriving DecidableEq

inductive Value where
  | null
  | bool (value : Bool)
  | number (value : Number)
  | string (text : String)
  | list (items : List Value)
  | object (members : List (String × Value))

abbrev Members := List (String × Value)

namespace Members

def get? (key : String) : Members → Option Value
  | [] => none
  | (k, value) :: rest => if k = key then some value else get? key rest

/-- Puts a member at its place; a member of the same key is replaced. -/
def insert (key : String) (value : Value) : Members → Members
  | [] => [(key, value)]
  | (k, v) :: rest =>
    if key = k then (key, value) :: rest
    else if key < k then (key, value) :: (k, v) :: rest
    else (k, v) :: insert key value rest

def erase (key : String) (members : Members) : Members := members.filter fun member => member.1 ≠ key

/-- Inserts the members of a list one by one, so the last of equal keys stays. -/
def ofList (pairs : List (String × Value)) : Members :=
  pairs.foldl (fun members pair => members.insert pair.1 pair.2) []

def keys (members : Members) : List String := members.map (·.1)

end Members

namespace Value

def ofNat (n : Nat) : Value := .number (.integer n)

def ofStrings (texts : List String) : Value := .list (texts.map .string)

/-- An object of the given members. -/
def ofMembers (pairs : List (String × Value)) : Value := .object (Members.ofList pairs)

/-- The member of an object, if the value is one and has it. -/
def member? (key : String) : Value → Option Value
  | .object members => Members.get? key members
  | _ => none

mutual

def decEq : (a b : Value) → Decidable (a = b)
  | .null, .null => isTrue rfl
  | .bool a, .bool b => decidable_of_iff (a = b) (by simp)
  | .number a, .number b => decidable_of_iff (a = b) (by simp)
  | .string a, .string b => decidable_of_iff (a = b) (by simp)
  | .list a, .list b =>
    match decEqItems a b with
    | isTrue h => isTrue (by rw [h])
    | isFalse h => isFalse (by simp [h])
  | .object a, .object b =>
    match decEqMembers a b with
    | isTrue h => isTrue (by rw [h])
    | isFalse h => isFalse (by simp [h])
  | .null, .bool _ | .null, .number _ | .null, .string _ | .null, .list _ | .null, .object _
  | .bool _, .null | .bool _, .number _ | .bool _, .string _ | .bool _, .list _ | .bool _, .object _
  | .number _, .null | .number _, .bool _ | .number _, .string _ | .number _, .list _
  | .number _, .object _
  | .string _, .null | .string _, .bool _ | .string _, .number _ | .string _, .list _
  | .string _, .object _
  | .list _, .null | .list _, .bool _ | .list _, .number _ | .list _, .string _ | .list _, .object _
  | .object _, .null | .object _, .bool _ | .object _, .number _ | .object _, .string _
  | .object _, .list _ => isFalse (by simp)

def decEqItems : (a b : List Value) → Decidable (a = b)
  | [], [] => isTrue rfl
  | [], _ :: _ | _ :: _, [] => isFalse (by simp)
  | a :: as, b :: bs =>
    match decEq a b, decEqItems as bs with
    | isTrue h, isTrue hs => isTrue (by rw [h, hs])
    | isFalse h, _ => isFalse (by simp [h])
    | _, isFalse hs => isFalse (by simp [hs])

def decEqMembers : (a b : List (String × Value)) → Decidable (a = b)
  | [], [] => isTrue rfl
  | [], _ :: _ | _ :: _, [] => isFalse (by simp)
  | (k, a) :: as, (l, b) :: bs =>
    if hk : k = l then
      match decEq a b, decEqMembers as bs with
      | isTrue h, isTrue hs => isTrue (by rw [hk, h, hs])
      | isFalse h, _ => isFalse (by simp [h])
      | _, isFalse hs => isFalse (by simp [hs])
    else isFalse (by simp [hk])

end

instance : DecidableEq Value := decEq

instance : Inhabited Value := ⟨.null⟩

end Value

end LedgerRehearsal.Json

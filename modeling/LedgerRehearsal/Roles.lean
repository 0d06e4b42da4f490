import LedgerRehearsal.Manifest
import LedgerRehearsal.Operation

/-!
Role tables. The `user.json` of a scenario lists keys and says, for each of the four phases that
act with keys of their own, which of them act: by one index or by a list of indices into the keys.
Resolving a table replaces the indices by the keys, in order and with repetitions.
-/

namespace LedgerRehearsal

open Json

variable [Diagnostics]

def roleFile : String := "user.json"

/-- A table as it is written: the keys, and the indices of each role set. -/
structure RoleTable where
  keys : List Key
  yes : List Nat
  no : List Nat
  tyes : List Nat
  tno : List Nat
deriving DecidableEq, Repr

/-- The keys that act in each phase. -/
structure RoleSets where
  yes : List Key
  no : List Key
  tyes : List Key
  tno : List Key
deriving DecidableEq, Repr

namespace Key

def whole : String := "struct KeyDescriptor"

/-- The fields of a key object, visited in the order of their names. -/
def visit (seen : Option String × Option String) (member : String × Value) :
    Except String (Option String × Option String) :=
  if member.1 = "private" then (Shape.string member.2).map fun secret => (some secret, seen.2)
  else if member.1 = "account-id" then (Shape.string member.2).map fun account => (seen.1, some account)
  else .error s!"unknown field `{member.1}`, expected `private` or `account-id`"

/-- A key is an object of exactly two texts, or a list of the two. -/
def ofValue : Value → Except String Key
  | .object members => do
    match ← members.foldlM visit (none, none) with
    | (some secret, some account) => .ok ⟨secret, account⟩
    | (none, _) => .error "missing field `private`"
    | (_, none) => .error "missing field `account-id`"
  | .list items => do
    match items with
    | [] => .error (wrongLength 0 s!"{whole} with 2 elements")
    | [secret] =>
      let _ ← Shape.string secret
      .error (wrongLength 1 s!"{whole} with 2 elements")
    | secret :: account :: rest =>
      let secret ← Shape.string secret
      let account ← Shape.string account
      if rest.isEmpty then .ok ⟨secret, account⟩
      else .error (wrongLength items.length "fewer elements in array")
  | other => .error (wrongType other whole)

def toValue (key : Key) : Value :=
  .ofMembers [("private", .string key.secret), ("account-id", .string key.account)]

end Key

namespace RoleTable

def badIndices : String := "data did not match any variant of untagged enum RoleIndices"

def index : Value → Except String Nat
  | .number (.integer (.ofNat n)) => .ok n
  | _ => .error badIndices

/-- One index, a list of indices, or nothing. -/
def indices : Value → Except String (List Nat)
  | .null => .ok []
  | .list items => items.mapM index
  | other => (index other).map fun n => [n]

def whole : String := "struct RoleTableFile"

/-- A field of a table object. The fields are visited in the order of their names, and unknown ones
are passed over. -/
def visit (seen : Option (List Key) × RoleTable) (member : String × Value) :
    Except String (Option (List Key) × RoleTable) :=
  let (keys, table) := seen
  if member.1 = "keys" then (Shape.list Key.ofValue member.2).map fun keys => (some keys, table)
  else if member.1 = "yes" then (indices member.2).map fun yes => (keys, { table with yes })
  else if member.1 = "no" then (indices member.2).map fun no => (keys, { table with no })
  else if member.1 = "tyes" then (indices member.2).map fun tyes => (keys, { table with tyes })
  else if member.1 = "tno" then (indices member.2).map fun tno => (keys, { table with tno })
  else .ok seen

/-- The item of a list form, which reads as nothing when the list ends before it. -/
def itemIndices (items : List Value) (position : Nat) : Except String (List Nat) :=
  indices (items[position]?.getD .null)

/-- A table is an object, or a list of its fields of which the sets may be left out. -/
def ofValue : Value → Except String RoleTable
  | .object members => do
    match ← members.foldlM visit (none, ⟨[], [], [], [], []⟩) with
    | (some keys, table) => .ok { table with keys }
    | (none, _) => .error "missing field `keys`"
  | .list items => do
    match items with
    | [] => .error (wrongLength 0 s!"{whole} with 5 elements")
    | keys :: _ =>
      let keys ← Shape.list Key.ofValue keys
      let yes ← itemIndices items 1
      let no ← itemIndices items 2
      let tyes ← itemIndices items 3
      let tno ← itemIndices items 4
      if items.length ≤ 5 then .ok ⟨keys, yes, no, tyes, tno⟩
      else .error (wrongLength items.length "fewer elements in array")
  | other => .error (wrongType other whole)

/-- Drops the comment of a table object and those of its keys. -/
def stripComments : Value → Value
  | .object members =>
    .object ((Members.erase commentKey members).map fun (field, value) =>
      if field = "keys" then (field, LedgerRehearsal.stripComments value) else (field, value))
  | other => other

end RoleTable

namespace RoleSets

/-- The keys at the given indices. -/
def pick (scenario : String) (keys : List Key) (set : String) (indices : List Nat) :
    Except ScenarioError (List Key) :=
  indices.mapM fun index =>
    match keys[index]? with
    | some key => .ok key
    | none => .error (.roleIndexOutOfRange scenario set index keys.length)

def resolve (scenario : String) (table : RoleTable) : Except ScenarioError RoleSets := do
  let yes ← pick scenario table.keys "yes" table.yes
  let no ← pick scenario table.keys "no" table.no
  let tyes ← pick scenario table.keys "tyes" table.tyes
  let tno ← pick scenario table.keys "tno" table.tno
  .ok ⟨yes, no, tyes, tno⟩

def ofValue (scenario : String) (path : Path) (value : Value) : Except Failure RoleSets :=
  match RoleTable.ofValue (RoleTable.stripComments value) with
  | .error reason => .error (.settings (.malformed path reason))
  | .ok table => (resolve scenario table).mapError .scenario

/-- The table in a text that comes from no file. -/
def ofText (scenario text : String) : Except Failure RoleSets :=
  match parse text with
  | none => .error (.settings (.malformed ⟨roleFile⟩ (Diagnostics.json text)))
  | some value => ofValue scenario ⟨roleFile⟩ value

/-- The table of a scenario, which is named by its directory. -/
def load (files : Files) (dir : Path) : Except Failure RoleSets := do
  let path := dir.join roleFile
  let value ← (readJson files path).mapError .settings
  ofValue (dir.fileName?.getD dir.text) path value

/-- The keys that act in a phase; the phases of the root key have none. -/
def forPhase (roles : RoleSets) : Phase → List Key
  | .yesQuery => roles.yes
  | .noQuery => roles.no
  | .yesTransaction => roles.tyes
  | .noTransaction => roles.tno
  | .prepare | .cleanup => []

end RoleSets

end LedgerRehearsal

import LedgerRehearsal.Proofs.Result
import LedgerRehearsal.Roles

/-! Secrets in role tables. Reading a table in which the secrets are blank gives what reading the
table gives, with the secrets left out: no error quotes one, and nothing else depends on it. -/
namespace LedgerRehearsal

open Json

namespace Except

variable {ε α β γ δ σ : Type}

/-- A change that goes through both parts of a sequence goes through the sequence. -/
theorem bind_map {first : Except ε α} {next : α → Except ε β} {other : γ → Except ε δ}
    {before : α → γ} {after : β → δ} (each : ∀ a, other (before a) = (next a).map after) :
    (first.map before >>= other) = (first >>= next).map after := by
  cases first with
  | error error => rfl
  | ok a => exact each a

theorem bind_unchanged {first : Except ε α} {next : α → Except ε β} {other : α → Except ε δ}
    {after : β → δ} (each : ∀ a, other a = (next a).map after) :
    (first >>= other) = (first >>= next).map after := by
  cases first with
  | error error => rfl
  | ok a => exact each a

/-- A fold over changed items from a changed state is the fold with its result changed. -/
theorem foldlM_map {f : σ → α → Except ε σ} {state : σ → σ} {item : α → α}
    (step : ∀ s a, f (state s) (item a) = (f s a).map state) (items : List α) (s : σ) :
    (items.map item).foldlM f (state s) = (items.foldlM f s).map state := by
  induction items generalizing s with
  | nil => rfl
  | cons a items ih =>
    rw [List.map_cons,List.foldlM_cons,List.foldlM_cons,step]
    exact bind_map ih

theorem mapM_unchanged {f : α → Except ε β} {g : α → Except ε γ} {after : β → γ}
    (each : ∀ a, g a = (f a).map after) (items : List α) :
    items.mapM g = (items.mapM f).map (List.map after) := by
  induction items with
  | nil => rfl
  | cons a items ih =>
    rw [List.mapM_cons,List.mapM_cons,each,ih]
    exact bind_map fun _ => bind_map fun _ => rfl

end Except

def Key.hidden (key : Key) : Key := { key with secret := "" }

def RoleTable.hidden (table : RoleTable) : RoleTable :=
  { table with keys := table.keys.map Key.hidden }

def RoleSets.hidden (roles : RoleSets) : RoleSets :=
  ⟨roles.yes.map Key.hidden,roles.no.map Key.hidden,roles.tyes.map Key.hidden,
    roles.tno.map Key.hidden⟩

/-- A string without its text; any other value stays as it is. -/
def blank : Value → Value
  | .string _ => .string ""
  | other => other

def blankMember (member : String × Value) : String × Value :=
  if member.1 = "private" then (member.1,blank member.2) else member

/-- The entry of a key with its secret left blank. -/
def blankKey : Value → Value
  | .object members => .object (members.map blankMember)
  | .list (secret :: rest) => .list (blank secret :: rest)
  | other => other

def blankKeys : Value → Value
  | .list entries => .list (entries.map blankKey)
  | other => other

def blankField (member : String × Value) : String × Value :=
  if member.1 = "keys" then (member.1,blankKeys member.2) else member

/-- A role table with the secrets of its keys left blank. -/
def blankTable : Value → Value
  | .object members => .object (members.map blankField)
  | .list (keys :: rest) => .list (blankKeys keys :: rest)
  | other => other

theorem string_blank (value : Value) :
    Shape.string (blank value) = (Shape.string value).map fun _ => "" := by
  cases value <;> rfl

namespace Key

/-- What was seen of a key, without the secret. -/
def seenHidden (seen : Option String × Option String) : Option String × Option String :=
  (seen.1.map fun _ => "",seen.2)

theorem visit_hidden (seen : Option String × Option String) (member : String × Value) :
    visit (seenHidden seen) (blankMember member) = (visit seen member).map seenHidden := by
  by_cases secret : member.1 = "private"
  · simp only [visit,blankMember,if_pos secret,string_blank]
    cases Shape.string member.2 <;> rfl
  · simp only [visit,blankMember,if_neg secret]
    split
    · cases Shape.string member.2 <;> rfl
    · rfl

theorem ofValue_hidden (value : Value) : ofValue (blankKey value) = (ofValue value).map hidden := by
  cases value with
  | object members =>
    have folded := Except.foldlM_map visit_hidden members (none,none)
    rw [blankKey,ofValue,ofValue]
    change ((members.map blankMember).foldlM visit (seenHidden (none,none)) >>= _) = _
    rw [folded]
    refine Except.bind_map fun seen => ?_
    obtain ⟨_ | secret,_ | account⟩ := seen <;> rfl
  | list items =>
    obtain _ | ⟨secret,_ | ⟨account,rest⟩⟩ := items
    · rfl
    · rw [blankKey,ofValue,ofValue,string_blank]
      exact Except.bind_map fun _ => rfl
    · rw [blankKey,ofValue,ofValue,string_blank]
      refine Except.bind_map fun _ => ?_
      cases Shape.string account with
      | error error => rfl
      | ok account => cases rest <;> rfl
  | null | bool | number | string => rfl

end Key

theorem keys_hidden (value : Value) : Shape.list Key.ofValue (blankKeys value) =
    (Shape.list Key.ofValue value).map (List.map Key.hidden) := by
  cases value with
  | list entries =>
    rw [blankKeys,Shape.list,Shape.list,List.mapM_map]
    exact Except.mapM_unchanged Key.ofValue_hidden entries
  | null | bool | number | string | object => rfl

namespace RoleTable

/-- What was seen of a table, without the secrets. The keys are kept apart until the end. -/
def seenHidden (seen : Option (List Key) × RoleTable) : Option (List Key) × RoleTable :=
  (seen.1.map (List.map Key.hidden),seen.2)

theorem visit_hidden (seen : Option (List Key) × RoleTable) (member : String × Value) :
    visit (seenHidden seen) (blankField member) = (visit seen member).map seenHidden := by
  unfold visit blankField
  by_cases keys : member.1 = "keys"
  · simp only [if_pos keys,keys_hidden]
    cases Shape.list Key.ofValue member.2 <;> rfl
  · simp only [if_neg keys]
    repeat' split
    all_goals first
      | rfl
      | cases indices member.2 <;> rfl

theorem ofValue_hidden (value : Value) :
    ofValue (blankTable value) = (ofValue value).map hidden := by
  cases value with
  | object members =>
    have folded := Except.foldlM_map visit_hidden members (none,⟨[],[],[],[],[]⟩)
    rw [blankTable,ofValue,ofValue]
    change ((members.map blankField).foldlM visit (seenHidden (none,⟨[],[],[],[],[]⟩)) >>= _) = _
    rw [folded]
    refine Except.bind_map fun seen => ?_
    obtain ⟨_ | keys,table⟩ := seen <;> rfl
  | list items =>
    cases items with
    | nil => rfl
    | cons keys rest =>
      rw [blankTable,ofValue,ofValue]
      simp only [keys_hidden]
      -- the items behind the keys are the same in both lists
      refine Except.bind_map fun keys => Except.bind_unchanged fun yes =>
        Except.bind_unchanged fun no => Except.bind_unchanged fun tyes =>
        Except.bind_unchanged fun tno => ?_
      simp only [List.length_cons]
      split <;> rfl
  | null | bool | number | string => rfl

theorem erase_map {change : String × Value → String × Value}
    (keeps : ∀ member, (change member).1 = member.1) (key : String) (members : Members) :
    Members.erase key (members.map change) = (Members.erase key members).map change := by
  simp only [Members.erase,List.filter_map,Function.comp_def,keeps]

theorem stripEntry_blank (entry : Value) :
    stripEntry (blankKey entry) = blankKey (stripEntry entry) := by
  cases entry with
  | object members =>
    refine congrArg Value.object (erase_map (fun member => ?_) commentKey members)
    unfold blankMember
    split <;> rfl
  | list items => cases items <;> rfl
  | null | bool | number | string => rfl

theorem stripComments_blankKeys (value : Value) :
    LedgerRehearsal.stripComments (blankKeys value) =
      blankKeys (LedgerRehearsal.stripComments value) := by
  cases value with
  | list entries =>
    simp [blankKeys,LedgerRehearsal.stripComments,Function.comp_def,stripEntry_blank]
  | null | bool | number | string | object => rfl

theorem stripComments_blank (value : Value) :
    stripComments (blankTable value) = blankTable (stripComments value) := by
  cases value with
  | object members =>
    have keeps (member : String × Value) : (blankField member).1 = member.1 := by
      unfold blankField
      split <;> rfl
    rw [blankTable,stripComments,stripComments,blankTable,erase_map keeps,List.map_map,
      List.map_map]
    refine congrArg Value.object (List.map_congr_left fun member _ => ?_)
    by_cases keys : member.1 = "keys"
    · simp [blankField,keys,stripComments_blankKeys]
    · simp [blankField,keys]
  | list items => cases items <;> rfl
  | null | bool | number | string => rfl

end RoleTable

namespace RoleSets

theorem pick_hidden (scenario : String) (keys : List Key) (set : String) (indices : List Nat) :
    pick scenario (keys.map Key.hidden) set indices =
      (pick scenario keys set indices).map (List.map Key.hidden) := by
  refine Except.mapM_unchanged (fun index => ?_) indices
  rw [List.getElem?_map,List.length_map]
  cases keys[index]? <;> rfl

theorem resolve_hidden (scenario : String) (table : RoleTable) :
    resolve scenario table.hidden = (resolve scenario table).map hidden := by
  simp only [resolve,RoleTable.hidden,pick_hidden]
  exact Except.bind_map fun _ => Except.bind_map fun _ => Except.bind_map fun _ =>
    Except.bind_map fun _ => rfl

/-- Reading a role table commutes with leaving out its secrets. -/
theorem ofValue_hidden (scenario : String) (path : Path) (value : Value) :
    ofValue scenario path (blankTable value) = (ofValue scenario path value).map hidden := by
  unfold ofValue
  rw [RoleTable.stripComments_blank,RoleTable.ofValue_hidden]
  cases RoleTable.ofValue (RoleTable.stripComments value) with
  | error reason => rfl
  | ok table =>
    simp only [Except.map,resolve_hidden]
    cases resolve scenario table <;> rfl

end RoleSets

end LedgerRehearsal

import HttpExchange.Headers.Operation
import Mathlib.Data.List.DropRight
import Mathlib.Data.List.Induction

/-! Header fields after any run of operations. What a field holds, how its name is spelled and
where it stands among the others follow from the changes of the run alone. -/

namespace HttpExchange

/-! ## Names -/

theorem sameLetters_iff {left right : String} :
    Text.sameLetters left.toList right.toList = true ↔ foldName left = foldName right := by
  rw [Text.sameLetters, beq_iff_eq, foldName, foldName, String.ofList_inj]

theorem sameLetters_eq_false_iff {left right : String} :
    Text.sameLetters left.toList right.toList = false ↔ foldName left ≠ foldName right := by
  rw [← Bool.not_eq_true, sameLetters_iff]

@[simp] theorem foldName_foldName (name : String) : foldName (foldName name) = foldName name := by
  rw [foldName, foldName, String.toList_ofList, Text.lower_lower]

namespace Headers

theorem foldName_of_mem_keys {headers : Headers} {key : String} (member : key ∈ headers.keys) :
    foldName key = key := by
  rcases List.mem_map.mp member with ⟨header, _, rfl⟩
  exact foldName_foldName header.name

/-! ## Changes -/

/-- What an operation does to header fields. An operation that only reads changes nothing, and
collecting fields comes to removing all there are and adding the new ones one by one. -/
inductive Change
  | replace (header : Header)
  | add (name value : String)
  | remove (name : String)
  | clear
deriving DecidableEq

namespace Change

/-- Whether the change gives values to the field of this name, in any letter case. -/
def writes (name : String) : Change → Bool
  | .replace header => Text.sameLetters header.name.toList name.toList
  | .add spelled _ => Text.sameLetters spelled.toList name.toList
  | .remove _ => false
  | .clear => false

/-- Whether the change takes away the field of this name, in any letter case. -/
def drops (name : String) : Change → Bool
  | .replace _ => false
  | .add _ _ => false
  | .remove spelled => Text.sameLetters spelled.toList name.toList
  | .clear => true

theorem writes_congr {name other : String} (same : foldName name = foldName other)
    (change : Change) : change.writes name = change.writes other := by
  cases change with
  | replace header => rw [writes, writes, Bool.eq_iff_iff, sameLetters_iff, sameLetters_iff, same]
  | add spelled value => rw [writes, writes, Bool.eq_iff_iff, sameLetters_iff, sameLetters_iff, same]
  | remove spelled => rfl
  | clear => rfl

theorem drops_congr {name other : String} (same : foldName name = foldName other)
    (change : Change) : change.drops name = change.drops other := by
  cases change with
  | replace header => rfl
  | add spelled value => rfl
  | remove spelled => rw [drops, drops, Bool.eq_iff_iff, sameLetters_iff, sameLetters_iff, same]
  | clear => rfl

def additions (pairs : List (String × String)) : List Change :=
  pairs.map fun (name, value) => .add name value

theorem additions_append_singleton (pairs : List (String × String)) (name value : String) :
    additions (pairs ++ [(name, value)]) = additions pairs ++ [.add name value] := by
  simp [additions]

theorem additions_ne_append_replace (pairs : List (String × String)) (front back : List Change)
    (header : Header) : additions pairs ≠ front ++ .replace header :: back := by
  intro same
  have member : .replace header ∈ additions pairs := by simp [same]
  simp [additions] at member

theorem additions_injective {left right : List (String × String)}
    (same : additions left = additions right) : left = right := by
  apply (List.map_inj_right _).mp same
  rintro ⟨name, value⟩ ⟨other, otherValue⟩ equal
  cases equal
  rfl

end Change

def Operation.changes : Operation → List Change
  | .set name content =>
      [.replace { name, values := [content], values_ne_nil := List.cons_ne_nil content [] }]
  | .add name content => [.add name content]
  | .insert _ [] => []
  | .insert name (first :: others) =>
      [.replace
        { name, values := first :: others, values_ne_nil := List.cons_ne_nil first others }]
  | .remove name => [.remove name]
  | .clear => [.clear]
  | .collect pairs => .clear :: Change.additions pairs
  | _ => []

def apply (headers : Headers) : Change → Headers
  | .replace header => headers.put header
  | .add name value => headers.add name value
  | .remove name => headers.remove name
  | .clear => KeyedList.empty

/-- The fields that changes leave, made in order from no fields at all. -/
def ofChanges (changes : List Change) : Headers :=
  changes.foldl apply KeyedList.empty

theorem ofChanges_append_singleton (changes : List Change) (change : Change) :
    ofChanges (changes ++ [change]) = (ofChanges changes).apply change := by
  rw [ofChanges, List.foldl_append]
  rfl

theorem perform_eq_foldl_apply (headers : Headers) (operation : Operation) :
    (headers.perform operation).1 = operation.changes.foldl apply headers := by
  cases operation with
  | insert name values => cases values <;> rfl
  | collect pairs =>
      simp only [perform, Operation.changes, Change.additions, List.foldl_cons, List.foldl_map]
      rfl
  | _ => rfl

theorem performAll_eq_foldl_apply (headers : Headers) (operations : List Operation) :
    headers.performAll operations =
      (operations.flatMap Operation.changes).foldl apply headers := by
  induction operations generalizing headers with
  | nil => rfl
  | cons operation operations induction =>
      rw [List.flatMap_cons, List.foldl_append, ← perform_eq_foldl_apply]
      exact induction _

/-! ## Single changes -/

section SingleChanges

variable (headers : Headers)

theorem add_of_has {name : String} (present : headers.has name = true) (value : String) :
    headers.add name value =
      headers.update (foldName name) (·.append value) (Header.key_append · value) :=
  if_pos present

theorem add_of_not_has {name : String} (absent : ¬headers.has name = true) (value : String) :
    headers.add name value = headers.put (.single name value) :=
  if_neg absent

theorem find?_add (name value key : String) :
    (headers.add name value).find? key =
      if foldName name = key then
        some (((headers.find? key).map (·.append value)).getD (.single name value))
      else headers.find? key := by
  by_cases present : headers.has name = true
  · rw [add_of_has headers present, KeyedList.find?_update]
    by_cases same : foldName name = key
    · rw [has, KeyedList.contains_eq_isSome_find?, same, Option.isSome_iff_exists] at present
      rcases present with ⟨header, found⟩
      simp [same, found]
    · rw [if_neg same, if_neg same]
  · rw [add_of_not_has headers present, KeyedList.find?_put]
    by_cases same : foldName name = key
    · rw [has, KeyedList.contains_eq_isSome_find?, same, Option.not_isSome_iff_eq_none] at present
      simp [Header.key, Header.single, same, present]
    · simp [Header.key, Header.single, same]

theorem keys_add (name value : String) :
    (headers.add name value).keys =
      if foldName name ∈ headers.keys then headers.keys
      else headers.keys ++ [foldName name] := by
  by_cases present : headers.has name = true
  · rw [add_of_has headers present, KeyedList.keys_update,
      if_pos ((KeyedList.contains_iff _ _).mp present)]
  · rw [add_of_not_has headers present]
    exact KeyedList.keys_put headers (.single name value)

/-- A write leaves all fields where they are, and puts a new field behind them. -/
theorem keys_apply_of_writes {change : Change} {name : String}
    (writes : change.writes name = true) :
    (headers.apply change).keys =
      if foldName name ∈ headers.keys then headers.keys else headers.keys ++ [foldName name] := by
  cases change with
  | replace header =>
      rw [← sameLetters_iff.mp writes]
      exact KeyedList.keys_put headers header
  | add spelled value =>
      rw [← sameLetters_iff.mp writes]
      exact headers.keys_add spelled value
  | remove name => cases writes
  | clear => cases writes

theorem keys_apply_of_present (change : Change) {name : String}
    (present : foldName name ∈ headers.keys) (writes : change.writes name = true) :
    (headers.apply change).keys = headers.keys := by
  rw [keys_apply_of_writes headers writes, if_pos present]

theorem keys_remove (name : String) :
    (headers.remove name).keys =
      headers.keys.filter fun key => !Text.sameLetters name.toList key.toList := by
  rw [remove, KeyedList.keys_erase]
  apply List.filter_congr
  intro key member
  rw [Bool.eq_iff_iff, decide_eq_true_iff, Bool.not_eq_true', sameLetters_eq_false_iff,
    foldName_of_mem_keys member]
  exact ne_comm

/-- A change that writes nothing takes fields away and keeps the others in their order. -/
theorem keys_apply_of_not_writes {change : Change}
    (writesNothing : ∀ name, change.writes name = false) :
    (headers.apply change).keys = headers.keys.filter fun key => !change.drops key := by
  cases change with
  | replace header => exact absurd rfl (sameLetters_eq_false_iff.mp (writesNothing header.name))
  | add name value => exact absurd rfl (sameLetters_eq_false_iff.mp (writesNothing name))
  | remove name => exact headers.keys_remove name
  | clear => simp [apply, Change.drops]

end SingleChanges

theorem Change.drops_eq_false_of_writes {change : Change} {name : String}
    (writes : change.writes name = true) (other : String) : change.drops other = false := by
  cases change with
  | replace header => rfl
  | add name value => rfl
  | remove name => cases writes
  | clear => cases writes

/-! ## The writes that last -/

/-- The writes to the field of this name since it was last taken away. -/
def lastingWrites (name : String) (changes : List Change) : List Change :=
  (changes.rtakeWhile fun change => !change.drops name).filter fun change => change.writes name

theorem lastingWrites_append_singleton (name : String) (changes : List Change) (change : Change) :
    lastingWrites name (changes ++ [change]) =
      if change.drops name then []
      else lastingWrites name changes ++ [change].filter (·.writes name) := by
  rw [lastingWrites, List.rtakeWhile_concat]
  cases change.drops name <;> simp [lastingWrites]

theorem lastingWrites_append_of_drops {name : String} {change : Change}
    (drops : change.drops name = true) (changes : List Change) :
    lastingWrites name (changes ++ [change]) = [] := by
  rw [lastingWrites_append_singleton, if_pos drops]

theorem lastingWrites_append_of_writes {name : String} {change : Change}
    (writes : change.writes name = true) (changes : List Change) :
    lastingWrites name (changes ++ [change]) = lastingWrites name changes ++ [change] := by
  rw [lastingWrites_append_singleton, Change.drops_eq_false_of_writes writes]
  simp [writes]

theorem lastingWrites_append_of_untouched {name : String} {change : Change}
    (kept : change.drops name = false) (unwritten : change.writes name = false)
    (changes : List Change) :
    lastingWrites name (changes ++ [change]) = lastingWrites name changes := by
  rw [lastingWrites_append_singleton, kept]
  simp [unwritten]

theorem lastingWrites_congr {name other : String} (same : foldName name = foldName other)
    (changes : List Change) : lastingWrites name changes = lastingWrites other changes := by
  simp only [lastingWrites, Change.writes_congr same, Change.drops_congr same]

theorem lastingWrites_append {name : String} {later : List Change}
    (kept : ∀ change ∈ later, change.drops name = false) (changes : List Change) :
    lastingWrites name (changes ++ later) =
      lastingWrites name changes ++ later.filter (·.writes name) := by
  induction later using List.reverseRecOn with
  | nil => simp
  | append_singleton later change induction =>
      have keptBefore : ∀ change ∈ later, change.drops name = false := fun change member =>
        kept change (List.mem_append_left _ member)
      have keptLast : change.drops name = false := kept change (by simp)
      rw [← List.append_assoc, lastingWrites_append_singleton, keptLast, induction keptBefore]
      simp

/-! ## Fields -/

/-- What the lasting writes to a field leave of it. There is none without a write. Otherwise the
spelling and the first values come from the last replacement, or from the first write if there is
no replacement, and behind them stand all values added since. -/
inductive Leaves : (writes : List Change) → (field : Option Header) → Prop
  | nothing : Leaves [] none
  | created {header : Header} (name value : String) (added : List (String × String))
      (spelled : header.name = name) (filled : header.values = value :: added.map Prod.snd) :
      Leaves (Change.additions ((name, value) :: added)) (some header)
  | replaced {header : Header} (earlier : List Change) (replacement : Header)
      (added : List (String × String)) (spelled : header.name = replacement.name)
      (filled : header.values = replacement.values ++ added.map Prod.snd) :
      Leaves (earlier ++ .replace replacement :: Change.additions added) (some header)

namespace Leaves

theorem added {writes : List Change} {header : Header} (leaves : Leaves writes (some header))
    (name value : String) :
    Leaves (writes ++ [.add name value]) (some (header.append value)) := by
  cases leaves with
  | created first firstValue added spelled filled =>
      rw [← Change.additions_append_singleton]
      apply created
      · exact spelled
      · simp [Header.append, filled]
  | replaced earlier replacement added spelled filled =>
      rw [List.append_assoc, List.cons_append, ← Change.additions_append_singleton]
      apply replaced
      · exact spelled
      · simp [Header.append, filled]

theorem last_replacement_unique {earlier other : List Change} {replacement otherwise : Header}
    {added since : List (String × String)}
    (same : earlier ++ .replace replacement :: Change.additions added =
      other ++ .replace otherwise :: Change.additions since) :
    replacement = otherwise ∧ added = since := by
  rcases List.append_eq_append_iff.mp same with ⟨between, rfl, rest⟩ | ⟨between, rfl, rest⟩
  all_goals
    cases between with
    | nil =>
        rw [List.nil_append, List.cons.injEq, Change.replace.injEq] at rest
        rcases rest with ⟨rfl, additions⟩
        cases Change.additions_injective additions
        exact ⟨rfl, rfl⟩
    | cons head between =>
        rw [List.cons_append, List.cons.injEq] at rest
        exact absurd rest.2 (Change.additions_ne_append_replace _ _ _ _)

theorem unique {writes : List Change} {field other : Option Header}
    (leaves : Leaves writes field) (others : Leaves writes other) : field = other := by
  cases leaves with
  | nothing =>
      generalize shape : ([] : List Change) = writes at others
      cases others with
      | nothing => rfl
      | created => cases shape
      | replaced => simp at shape
  | created name value added spelled filled =>
      generalize shape : Change.additions ((name, value) :: added) = writes at others
      cases others with
      | nothing => cases shape
      | created otherName otherValue since otherSpelled otherFilled =>
          cases Change.additions_injective shape
          exact congrArg some (Header.ext (spelled.trans otherSpelled.symm)
            (filled.trans otherFilled.symm))
      | replaced => exact absurd shape (Change.additions_ne_append_replace _ _ _ _)
  | replaced earlier replacement added spelled filled =>
      generalize shape : earlier ++ .replace replacement :: Change.additions added = writes
        at others
      cases others with
      | nothing => simp at shape
      | created => exact absurd shape.symm (Change.additions_ne_append_replace _ _ _ _)
      | replaced other otherwise since otherSpelled otherFilled =>
          rcases last_replacement_unique shape with ⟨rfl, rfl⟩
          exact congrArg some (Header.ext (spelled.trans otherSpelled.symm)
            (filled.trans otherFilled.symm))

end Leaves

/-- Every change keeps the agreement between a field and its lasting writes. -/
theorem leaves_find? (changes : List Change) (name : String) :
    Leaves (lastingWrites name changes) ((ofChanges changes).find? (foldName name)) := by
  induction changes using List.reverseRecOn with
  | nil => exact .nothing
  | append_singleton changes change induction =>
      rw [ofChanges_append_singleton]
      cases change with
      | replace header =>
          rw [apply, KeyedList.find?_put]
          by_cases same : header.key = foldName name
          · have writes : (Change.replace header).writes name = true := sameLetters_iff.mpr same
            rw [if_pos same, lastingWrites_append_of_writes writes]
            exact .replaced _ header [] rfl (List.append_nil _).symm
          · have unwritten : (Change.replace header).writes name = false :=
              sameLetters_eq_false_iff.mpr same
            rw [if_neg same, lastingWrites_append_of_untouched rfl unwritten]
            exact induction
      | add spelled value =>
          rw [apply, find?_add]
          by_cases same : foldName spelled = foldName name
          · have writes : (Change.add spelled value).writes name = true := sameLetters_iff.mpr same
            rw [if_pos same, lastingWrites_append_of_writes writes]
            generalize lastingWrites name changes = writes at induction ⊢
            generalize (ofChanges changes).find? (foldName name) = field at induction ⊢
            cases field with
            | none =>
                cases induction
                exact .created spelled value [] rfl rfl
            | some header => exact induction.added spelled value
          · have unwritten : (Change.add spelled value).writes name = false :=
              sameLetters_eq_false_iff.mpr same
            rw [if_neg same, lastingWrites_append_of_untouched rfl unwritten]
            exact induction
      | remove spelled =>
          rw [apply, remove, KeyedList.find?_erase]
          by_cases same : foldName spelled = foldName name
          · have drops : (Change.remove spelled).drops name = true := sameLetters_iff.mpr same
            rw [if_pos same, lastingWrites_append_of_drops drops]
            exact .nothing
          · have kept : (Change.remove spelled).drops name = false :=
              sameLetters_eq_false_iff.mpr same
            rw [if_neg same, lastingWrites_append_of_untouched kept rfl]
            exact induction
      | clear =>
          have drops : Change.clear.drops name = true := rfl
          rw [lastingWrites_append_of_drops drops]
          exact .nothing

theorem Leaves.eq_nil_iff {writes : List Change} {field : Option Header}
    (leaves : Leaves writes field) : writes = [] ↔ field = none := by
  cases leaves with
  | nothing => simp
  | created => simp [Change.additions]
  | replaced => simp

theorem mem_keys_ofChanges_iff (changes : List Change) (name : String) :
    foldName name ∈ (ofChanges changes).keys ↔ lastingWrites name changes ≠ [] := by
  rw [KeyedList.mem_keys_iff, ← Option.ne_none_iff_exists', Ne,
    ← (leaves_find? changes name).eq_nil_iff]

/-! ## Order -/

/-- The field of this name that is there after the changes came in with the one at this place: it
writes the field, there was none before, and nothing takes the field away from then on. -/
def CameIn (name : String) (changes : List Change) (place : Nat) : Prop :=
  ∃ earlier change later, changes = earlier ++ change :: later ∧ earlier.length = place ∧
    lastingWrites name earlier = [] ∧ change.writes name = true ∧
    ∀ next ∈ later, next.drops name = false

namespace CameIn

theorem append_singleton {name : String} {changes : List Change} {place : Nat}
    (cameIn : CameIn name changes place) {change : Change} (kept : change.drops name = false) :
    CameIn name (changes ++ [change]) place := by
  rcases cameIn with ⟨earlier, first, later, rfl, length, absent, writes, keptSince⟩
  refine ⟨earlier, first, later ++ [change], by simp, length, absent, writes, ?_⟩
  intro next member
  rcases List.mem_append.mp member with member | member
  · exact keptSince next member
  · rw [List.mem_singleton.mp member]
    exact kept

theorem lt_length {name : String} {changes : List Change} {place : Nat}
    (cameIn : CameIn name changes place) : place < changes.length := by
  rcases cameIn with ⟨earlier, first, later, rfl, rfl, _⟩
  simp

/-- A field that has come in and was kept cannot come in again. -/
theorem not_lt {name : String} {changes : List Change} {place other : Nat}
    (cameIn : CameIn name changes place) (again : CameIn name changes other) : ¬place < other := by
  intro before
  rcases cameIn with ⟨earlier, first, later, rfl, rfl, _, writes, kept⟩
  rcases again with ⟨front, second, back, same, rfl, absent, _⟩
  rcases List.append_eq_append_iff.mp same with ⟨between, rfl, rest⟩ | ⟨between, rfl, rest⟩
  · cases between with
    | nil => simp at before
    | cons head between =>
        rw [List.cons_append, List.cons.injEq] at rest
        rcases rest with ⟨rfl, rfl⟩
        -- The first write came before the second and was kept, so it lasts when the second comes.
        have keptBetween : ∀ change ∈ first :: between, change.drops name = false := by
          intro change member
          rcases List.mem_cons.mp member with rfl | member
          · exact Change.drops_eq_false_of_writes writes name
          · exact kept change (List.mem_append_left _ member)
        rw [lastingWrites_append keptBetween] at absent
        simp [writes] at absent
  · rw [List.length_append] at before
    omega

theorem unique {name : String} {changes : List Change} {place other : Nat}
    (cameIn : CameIn name changes place) (again : CameIn name changes other) : place = other :=
  Nat.le_antisymm (Nat.le_of_not_lt (again.not_lt cameIn)) (Nat.le_of_not_lt (cameIn.not_lt again))

end CameIn

def CameInBefore (changes : List Change) (first second : String) : Prop :=
  ∃ earlier later, CameIn first changes earlier ∧ CameIn second changes later ∧ earlier < later

theorem CameInBefore.append_singleton {changes : List Change} {first second : String}
    (before : CameInBefore changes first second) {change : Change}
    (firstKept : change.drops first = false) (secondKept : change.drops second = false) :
    CameInBefore (changes ++ [change]) first second := by
  rcases before with ⟨earlier, later, firstCameIn, secondCameIn, order⟩
  exact ⟨earlier, later, firstCameIn.append_singleton firstKept,
    secondCameIn.append_singleton secondKept, order⟩

/-- Keys of fields that are there, in the order in which these came in. -/
structure InOrder (changes : List Change) (keys : List String) : Prop where
  cameIn : ∀ key ∈ keys, ∃ place, CameIn key changes place
  pairwise : keys.Pairwise (CameInBefore changes)

namespace InOrder

variable {changes : List Change} {keys : List String}

theorem filter (inOrder : InOrder changes keys) (kept : String → Bool) :
    InOrder changes (keys.filter kept) where
  cameIn key member := inOrder.cameIn key (List.mem_filter.mp member).1
  pairwise := inOrder.pairwise.filter kept

theorem append_singleton (inOrder : InOrder changes keys) {change : Change}
    (kept : ∀ key ∈ keys, change.drops key = false) : InOrder (changes ++ [change]) keys where
  cameIn := by
    intro key member
    rcases inOrder.cameIn key member with ⟨place, came⟩
    exact ⟨place, came.append_singleton (kept key member)⟩
  pairwise := by
    apply inOrder.pairwise.imp_of_mem
    intro first second firstMember secondMember before
    exact before.append_singleton (kept first firstMember) (kept second secondMember)

/-- A field that comes in stands behind those that are there. -/
theorem comes_in (inOrder : InOrder changes keys) {change : Change} {name : String}
    (writes : change.writes name = true) (absent : lastingWrites name changes = []) :
    InOrder (changes ++ [change]) (keys ++ [foldName name]) := by
  have kept := Change.drops_eq_false_of_writes writes
  have still := inOrder.append_singleton fun key _ => kept key
  have comesIn : CameIn (foldName name) (changes ++ [change]) changes.length := by
    refine ⟨changes, change, [], rfl, rfl, ?_, ?_, by simp⟩
    · rw [lastingWrites_congr (foldName_foldName name), absent]
    · rw [Change.writes_congr (foldName_foldName name), writes]
  constructor
  · intro other member
    rcases List.mem_append.mp member with member | member
    · exact still.cameIn other member
    · rw [List.mem_singleton.mp member]
      exact ⟨_, comesIn⟩
  · rw [List.pairwise_append]
    refine ⟨still.pairwise, List.pairwise_singleton _ _, ?_⟩
    intro other member last isKey
    rw [List.mem_singleton.mp isKey]
    rcases inOrder.cameIn other member with ⟨place, came⟩
    exact ⟨place, changes.length, came.append_singleton (kept other), comesIn, came.lt_length⟩

end InOrder

/-- Every change keeps fields in the order in which they came in. -/
theorem inOrder_keys_ofChanges (changes : List Change) :
    InOrder changes (ofChanges changes).keys := by
  induction changes using List.reverseRecOn with
  | nil => exact ⟨by simp [ofChanges], by simp [ofChanges]⟩
  | append_singleton changes change induction =>
      rw [ofChanges_append_singleton]
      by_cases writing : ∃ name, change.writes name = true
      · rcases writing with ⟨name, writes⟩
        rw [keys_apply_of_writes _ writes]
        by_cases present : foldName name ∈ (ofChanges changes).keys
        · rw [if_pos present]
          exact induction.append_singleton fun key _ => Change.drops_eq_false_of_writes writes key
        · have absent : lastingWrites name changes = [] := by
            rw [mem_keys_ofChanges_iff, not_not] at present
            exact present
          rw [if_neg present]
          exact induction.comes_in writes absent
      · have writesNothing : ∀ name, change.writes name = false := by
          intro name
          rw [← Bool.not_eq_true]
          exact fun writes => writing ⟨name, writes⟩
        rw [keys_apply_of_not_writes _ writesNothing]
        apply (induction.filter _).append_singleton
        intro key member
        simpa using (List.mem_filter.mp member).2

/-! ## Runs -/

/-- Header fields that are told by changes made in order from no fields at all. -/
structure FollowsChanges (headers : Headers) (changes : List Change) : Prop where
  /-- Every field stands under its name in lower case. -/
  keys : headers.keys =
    headers.entries.map fun header => String.ofList (header.name.toList.map Char.toLower)
  distinct : headers.keys.Nodup
  /-- Every field is found by its name and has a first value. -/
  entries : ∀ header ∈ headers.entries,
    headers.field? header.name = some header ∧ header.values.head? = some header.value
  /-- There is a field of a name if it was written since it was last taken away. -/
  has : ∀ name, headers.has name = true ↔ lastingWrites name changes ≠ []
  field : ∀ name field, headers.field? name = field ↔ Leaves (lastingWrites name changes) field
  cameIn : ∀ key ∈ headers.keys, ∃! place, CameIn key changes place
  inOrder : headers.keys.Pairwise (CameInBefore changes)
  /-- A field that is there stays where it is when it is written. -/
  written : ∀ name, headers.has name = true →
    (∀ value, (headers.set name value).keys = headers.keys) ∧
    (∀ value, (headers.add name value).keys = headers.keys) ∧
    ∀ header : Header, header.name = name → (headers.put header).keys = headers.keys
  /-- The fields that are left keep their order when one is removed. -/
  removed : ∀ name, (headers.remove name).keys =
    headers.keys.filter fun key => !Text.sameLetters name.toList key.toList

theorem followsChanges_ofChanges (changes : List Change) :
    (ofChanges changes).FollowsChanges changes where
  keys := rfl
  distinct := (ofChanges changes).distinct
  entries := by
    intro header member
    refine ⟨(KeyedList.find?_eq_some_iff _ _ _).mpr ⟨member, rfl⟩, ?_⟩
    exact List.head?_eq_some_head header.values_ne_nil
  has := by
    intro name
    rw [Headers.has, KeyedList.contains_iff, mem_keys_ofChanges_iff]
  field := by
    intro name field
    have leaves := leaves_find? changes name
    constructor
    · intro found
      exact found ▸ leaves
    · exact leaves.unique
  cameIn := by
    intro key member
    rcases (inOrder_keys_ofChanges changes).cameIn key member with ⟨place, came⟩
    exact ⟨place, came, fun _ again => again.unique came⟩
  inOrder := (inOrder_keys_ofChanges changes).pairwise
  written := by
    intro name has
    have present := (KeyedList.contains_iff _ _).mp has
    refine ⟨fun value => ?_, fun value => ?_, fun header spelled => ?_⟩
    · exact keys_apply_of_present _ (.replace (.single name value)) present
        (sameLetters_iff.mpr rfl)
    · exact keys_apply_of_present _ (.add name value) present (sameLetters_iff.mpr rfl)
    · cases spelled
      exact keys_apply_of_present _ (.replace header) present (sameLetters_iff.mpr rfl)
  removed := (ofChanges changes).keys_remove

/-- A run of operations is an ordered map from names in any letter case to values. -/
theorem performAll_followsChanges (operations : List Operation) :
    (performAll KeyedList.empty operations).FollowsChanges
      (operations.flatMap Operation.changes) := by
  rw [performAll_eq_foldl_apply]
  exact followsChanges_ofChanges _

example :
    (performAll KeyedList.empty
      [.add "Via" "one", .set "Host" "a", .add "VIA" "two", .set "HOST" "b",
        .remove "via", .add "via" "three", .insert "Vary" []]).lines =
      ["HOST: b", "via: three"] := by
  decide +kernel

end Headers

end HttpExchange

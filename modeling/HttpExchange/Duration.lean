import HttpExchange.Error
import HttpExchange.Text.Decimal
import HttpExchange.Text.Search
import HttpExchange.Text.Trim
/-!
Lifetimes as people write them, such as `3h`, `10mi` or `1d12h`: one or more groups of a count
and a unit, whose seconds add up. A text is checked as a whole and then searched for its groups.
Every count, product and partial sum is held in 64 bits, and a text that asks for more is refused.
-/

namespace HttpExchange.Duration

/-- The names of units, in the order in which they are tried. -/
def unitNames : List (List Char) :=
  [['d'], ['h'], ['m', 'i', 'n'], ['m', 'i'], ['m', 'n'], ['s']]

def unitSeconds : List Char → Nat
  | ['d'] => 86400
  | ['h'] => 3600
  | ['m', 'i', 'n'] | ['m', 'i'] | ['m', 'n'] => 60
  | _ => 1

/-- A count and the name of its unit, as they are written. -/
structure Group where
  digits : List Char
  name : List Char
deriving DecidableEq, Repr

/-! ## Groups within a text -/

/-- The runs of digits that a text begins with, each with the text behind it, the longest first. -/
def digitRuns : List Char → List (List Char × List Char)
  | [] => []
  | digit :: rest =>
      if digit.isDigit then
        (digitRuns rest).map (fun (digits, behind) => (digit :: digits, behind)) ++
          [([digit], rest)]
      else []

/-- The names of units that a text begins with, each with the text behind it. -/
def namesAt (text : List Char) : List (List Char × List Char) :=
  unitNames.filterMap fun name => (Text.after? name text).map fun rest => (name, rest)

/-- The groups that a text begins with, each with the text behind it, in the order in which they
are tried. -/
def groupsAt (text : List Char) : List (Group × List Char) :=
  (digitRuns text).flatMap fun (digits, behind) =>
    (namesAt behind).map fun (name, rest) => ({ digits, name }, rest)

theorem of_mem_digitRuns {text digits behind : List Char}
    (member : (digits, behind) ∈ digitRuns text) :
    digits ≠ [] ∧ (∀ digit ∈ digits, digit.isDigit = true) ∧ text = digits ++ behind := by
  induction text generalizing digits with
  | nil => cases member
  | cons head tail induction =>
      rw [digitRuns] at member
      split at member
      · rename_i isDigit
        rcases List.mem_append.mp member with longer | shortest
        · rcases List.mem_map.mp longer with ⟨⟨rest, _⟩, inner, same⟩
          cases same
          rcases induction inner with ⟨_, decimal, rfl⟩
          exact ⟨List.cons_ne_nil _ _, List.forall_mem_cons.mpr ⟨isDigit, decimal⟩, rfl⟩
        · cases List.mem_singleton.mp shortest
          exact ⟨List.cons_ne_nil _ _, List.forall_mem_singleton.mpr isDigit, rfl⟩
      · cases member

theorem of_mem_namesAt {text name rest : List Char} (member : (name, rest) ∈ namesAt text) :
    name ∈ unitNames ∧ text = name ++ rest := by
  rcases List.mem_filterMap.mp member with ⟨tried, triedMember, found⟩
  rcases Option.map_eq_some_iff.mp found with ⟨behind, after, same⟩
  cases same
  exact ⟨triedMember, Text.after?_eq_some_iff.mp after⟩

theorem of_mem_groupsAt {text rest : List Char} {group : Group}
    (member : (group, rest) ∈ groupsAt text) :
    group.digits ≠ [] ∧ (∀ digit ∈ group.digits, digit.isDigit = true) ∧
      group.name ∈ unitNames ∧ text = group.digits ++ (group.name ++ rest) := by
  rcases List.mem_flatMap.mp member with ⟨⟨digits, behind⟩, run, named⟩
  rcases List.mem_map.mp named with ⟨⟨name, _⟩, nameMember, same⟩
  cases same
  rcases of_mem_digitRuns run with ⟨filled, decimal, rfl⟩
  rcases of_mem_namesAt nameMember with ⟨known, rfl⟩
  exact ⟨filled, decimal, known, rfl⟩

theorem length_lt_of_mem_groupsAt {text rest : List Char} {group : Group}
    (member : (group, rest) ∈ groupsAt text) : rest.length < text.length := by
  rcases of_mem_groupsAt member with ⟨filled, _, _, rfl⟩
  have present := List.length_pos_iff.mpr filled
  simp only [List.length_append]
  omega

/-- Whether a text consists of groups. -/
def isWhole (text : List Char) : Bool :=
  (groupsAt text).attach.any fun ⟨(_, rest), _member⟩ => rest.isEmpty || isWhole rest
termination_by text.length
decreasing_by exact length_lt_of_mem_groupsAt _member

/-- The groups that a search from left to right finds: the first one that is tried where any
begins, then those behind it. -/
def search : List Char → List Group
  | [] => []
  | head :: tail =>
      match _found : groupsAt (head :: tail) with
      | [] => search tail
      | (group, rest) :: _ => group :: search rest
termination_by text => text.length
decreasing_by
  · exact Nat.lt_succ_self _
  · exact length_lt_of_mem_groupsAt (_found ▸ List.mem_cons_self)

/-! ## Seconds -/

def fit? (number : Nat) : Option UInt64 :=
  if number < UInt64.size then some (UInt64.ofNat number) else none

def Group.seconds? (group : Group) : Option UInt64 := do
  let count ← fit? (Text.decimalValue group.digits)
  fit? (count.toNat * unitSeconds group.name)

/-- The seconds of the groups, added one after the other to those before. -/
def addGroups? (total : UInt64) : List Group → Option UInt64
  | [] => some total
  | group :: groups => do
      let seconds ← group.seconds?
      let next ← fit? (total.toNat + seconds.toNat)
      addGroups? next groups

/-- The lifetime when none is given: thirty days. -/
def standard : UInt64 := 2592000

/-- The seconds of all groups of a text that consists of them. -/
def seconds? (text : List Char) : Option UInt64 :=
  if isWhole text then addGroups? 0 (search text) else none

/-- The seconds that a text stands for, white space around it aside. -/
def parse (text : String) : Except Error UInt64 :=
  match seconds? (Text.trim text.toList) with
  | some seconds => .ok seconds
  | none => .error (.malformedDuration text)

def parseOrStandard : Option String → Except Error UInt64
  | none => .ok standard
  | some text => parse text

end HttpExchange.Duration

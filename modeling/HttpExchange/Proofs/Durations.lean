import HttpExchange.Duration
import Mathlib.Data.List.Basic

/-! Lifetimes as they are written: digits and the name of a unit, group after group. The check of a
whole text and the search for its groups agree: texts that are made of groups are made of them in
one way, they are the ones that the check accepts, and the search finds just these groups. Their
seconds add up without any loss. -/

namespace HttpExchange.Duration

/-! ## Groups as they are written -/

/-- The names that people give to units. Minutes have three of them. -/
inductive UnitName
  | d
  | h
  | min
  | mi
  | mn
  | s
deriving DecidableEq, Repr

namespace UnitName

def letters : UnitName → List Char
  | d => ['d']
  | h => ['h']
  | min => ['m', 'i', 'n']
  | mi => ['m', 'i']
  | mn => ['m', 'n']
  | s => ['s']

def seconds : UnitName → Nat
  | d => 86400
  | h => 3600
  | min | mi | mn => 60
  | s => 1

theorem mem_unitNames_iff {name : List Char} :
    name ∈ unitNames ↔ ∃ unit : UnitName, name = unit.letters := by
  constructor
  · intro named
    simp only [unitNames, List.mem_cons, List.not_mem_nil, or_false] at named
    rcases named with rfl | rfl | rfl | rfl | rfl | rfl
    exacts [⟨d, rfl⟩, ⟨h, rfl⟩, ⟨min, rfl⟩, ⟨mi, rfl⟩, ⟨mn, rfl⟩, ⟨s, rfl⟩]
  · intro named
    rcases named with ⟨unit, rfl⟩
    cases unit <;> decide

theorem unitSeconds_letters (unit : UnitName) : unitSeconds unit.letters = unit.seconds := by
  cases unit <;> rfl

theorem letters_injective : Function.Injective letters := by
  intro left right same
  cases left <;> cases right <;> first | rfl | cases same

theorem seconds_pos (unit : UnitName) : 0 < unit.seconds := by
  cases unit <;> decide

theorem exists_letter (unit : UnitName) :
    ∃ letter letters, unit.letters = letter :: letters ∧ letter.isDigit = false := by
  cases unit <;> exact ⟨_, _, rfl, rfl⟩

end UnitName

/-- One or more digits and the name of a unit behind them. -/
structure WrittenGroup where
  digits : List Char
  unit : UnitName
  digits_ne_nil : digits ≠ []
  isDigit_of_mem : ∀ digit ∈ digits, digit.isDigit = true

namespace WrittenGroup

def toGroup (written : WrittenGroup) : Group where
  digits := written.digits
  name := written.unit.letters

def text (written : WrittenGroup) : List Char :=
  written.digits ++ written.unit.letters

def seconds (written : WrittenGroup) : Nat :=
  Nat.ofDigitChars 10 written.digits 0 * written.unit.seconds

theorem toGroup_injective : Function.Injective toGroup := by
  intro left right same
  have sameDigits : left.digits = right.digits := congrArg Group.digits same
  have sameUnit := UnitName.letters_injective (congrArg Group.name same)
  cases left
  cases right
  cases sameDigits
  cases sameUnit
  rfl

end WrittenGroup

/-- A text that consists of these groups and of nothing else. -/
def IsMadeOf (text : List Char) (groups : List WrittenGroup) : Prop :=
  groups ≠ [] ∧ text = groups.flatMap WrittenGroup.text

/-- The seconds of all groups together, however many these are. -/
def totalSeconds : List WrittenGroup → Nat
  | [] => 0
  | written :: groups => written.seconds + totalSeconds groups

/-! ## Groups at the start of a text -/

/-- What groups begin with makes no name before them a longer one. -/
theorem head?_texts_ne_n (groups : List WrittenGroup) :
    (groups.flatMap WrittenGroup.text).head? ≠ some 'n' := by
  cases groups with
  | nil => simp
  | cons written groups =>
      rcases List.exists_cons_of_ne_nil written.digits_ne_nil with ⟨digit, digits, shape⟩
      have isDigit := written.isDigit_of_mem digit (shape ▸ List.mem_cons_self)
      intro starts
      simp only [List.flatMap_cons, WrittenGroup.text, shape, List.cons_append, List.head?_cons,
        Option.some.injEq] at starts
      rw [starts] at isDigit
      cases isDigit

theorem exists_written_of_mem_groupsAt {text rest : List Char} {group : Group}
    (member : (group, rest) ∈ groupsAt text) :
    ∃ written : WrittenGroup, written.toGroup = group ∧ text = written.text ++ rest := by
  rcases of_mem_groupsAt member with ⟨filled, decimal, named, shape⟩
  rcases UnitName.mem_unitNames_iff.mp named with ⟨unit, name⟩
  refine ⟨⟨group.digits, unit, filled, decimal⟩, ?_, ?_⟩
  · rw [WrittenGroup.toGroup, ← name]
  · rw [shape, name, WrittenGroup.text, List.append_assoc]

theorem digitRuns_append {digits rest : List Char} (nonempty : digits ≠ [])
    (decimal : ∀ digit ∈ digits, digit.isDigit = true)
    (ended : ∀ head, rest.head? = some head → head.isDigit = false) :
    ∃ shorter, digitRuns (digits ++ rest) = (digits, rest) :: shorter := by
  induction digits with
  | nil => exact absurd rfl nonempty
  | cons digit digits induction =>
      have isDigit := decimal digit List.mem_cons_self
      rw [List.cons_append, digitRuns, if_pos isDigit]
      cases digits with
      | nil =>
          have none : digitRuns rest = [] := by
            cases rest with
            | nil => rfl
            | cons head tail => rw [digitRuns, if_neg (by simp [ended head rfl])]
          rw [List.nil_append, none]
          exact ⟨[], rfl⟩
      | cons next digits =>
          rcases induction (List.cons_ne_nil _ _)
            fun digit member => decimal digit (List.mem_cons_of_mem _ member) with ⟨shorter, runs⟩
          rw [runs]
          exact ⟨_, rfl⟩

theorem namesAt_append (unit : UnitName) {rest : List Char} (ended : rest.head? ≠ some 'n') :
    ∃ others, namesAt (unit.letters ++ rest) = (unit.letters, rest) :: others := by
  cases unit
  case mi =>
    -- Only here could what follows make the name a longer one, which is tried before it.
    cases rest with
    | nil => exact ⟨_, rfl⟩
    | cons head tail =>
        have other : 'n' ≠ head := fun same => ended (same ▸ rfl)
        exact ⟨[], by simp [UnitName.letters, namesAt, unitNames, Text.after?, other]⟩
  all_goals exact ⟨_, rfl⟩

/-- The first group that is tried is the one that is written. -/
theorem groupsAt_text_append (written : WrittenGroup) {rest : List Char}
    (ended : rest.head? ≠ some 'n') :
    ∃ others, groupsAt (written.text ++ rest) = (written.toGroup, rest) :: others := by
  have notDigit : ∀ head, (written.unit.letters ++ rest).head? = some head →
      head.isDigit = false := by
    rcases written.unit.exists_letter with ⟨letter, letters, name, notDigit⟩
    intro head starts
    rw [name] at starts
    cases starts
    exact notDigit
  rcases digitRuns_append written.digits_ne_nil written.isDigit_of_mem notDigit
    with ⟨shorter, runs⟩
  rcases namesAt_append written.unit ended with ⟨others, names⟩
  rw [groupsAt, WrittenGroup.text, List.append_assoc, runs, List.flatMap_cons]
  dsimp only
  rw [names]
  exact ⟨_, rfl⟩

/-! ## The check and the search -/

theorem isWhole_iff_exists_group {text : List Char} :
    isWhole text = true ↔
      ∃ group rest, (group, rest) ∈ groupsAt text ∧ (rest = [] ∨ isWhole rest = true) := by
  rw [isWhole]
  simp

theorem exists_isMadeOf_of_isWhole {text : List Char} (whole : isWhole text = true) :
    ∃ groups, IsMadeOf text groups := by
  rcases isWhole_iff_exists_group.mp whole with ⟨group, rest, member, ended⟩
  have shorter := length_lt_of_mem_groupsAt member
  rcases exists_written_of_mem_groupsAt member with ⟨written, _, shape⟩
  rcases ended with rfl | more
  · exact ⟨[written], List.cons_ne_nil _ _, by simpa using shape⟩
  · rcases exists_isMadeOf_of_isWhole more with ⟨groups, _, restShape⟩
    exact ⟨written :: groups, List.cons_ne_nil _ _, by rw [shape, restShape, List.flatMap_cons]⟩
termination_by text.length

theorem isWhole_texts {groups : List WrittenGroup} (present : groups ≠ []) :
    isWhole (groups.flatMap WrittenGroup.text) = true := by
  induction groups with
  | nil => exact absurd rfl present
  | cons written groups induction =>
      rcases groupsAt_text_append written (head?_texts_ne_n groups) with ⟨others, tried⟩
      rw [isWhole_iff_exists_group, List.flatMap_cons, tried]
      refine ⟨_, _, List.mem_cons_self, ?_⟩
      cases groups with
      | nil => exact .inl rfl
      | cons next groups => exact .inr (induction (List.cons_ne_nil next groups))

/-- The check accepts exactly the texts that are made of groups. -/
theorem isWhole_iff {text : List Char} : isWhole text = true ↔ ∃ groups, IsMadeOf text groups := by
  constructor
  · exact exists_isMadeOf_of_isWhole
  · intro made
    rcases made with ⟨groups, present, rfl⟩
    exact isWhole_texts present

theorem search_of_groupsAt {text rest : List Char} {group : Group}
    {others : List (Group × List Char)} (tried : groupsAt text = (group, rest) :: others) :
    search text = group :: search rest := by
  cases text with
  | nil => cases tried
  | cons head tail =>
      rw [search]
      split
      · rename_i untried
        cases untried.symm.trans tried
      · rename_i found
        cases found.symm.trans tried
        rfl

/-- In a text that is made of groups a search finds just these, and nothing of it is skipped. -/
theorem search_texts (groups : List WrittenGroup) :
    search (groups.flatMap WrittenGroup.text) = groups.map WrittenGroup.toGroup := by
  induction groups with
  | nil =>
      rw [List.flatMap_nil, search]
      rfl
  | cons written groups induction =>
      rcases groupsAt_text_append written (head?_texts_ne_n groups) with ⟨others, tried⟩
      rw [List.flatMap_cons, search_of_groupsAt tried, induction, List.map_cons]

theorem isMadeOf_unique {text : List Char} {groups others : List WrittenGroup}
    (made : IsMadeOf text groups) (madeOtherwise : IsMadeOf text others) : others = groups := by
  apply WrittenGroup.toGroup_injective.list_map
  rw [← search_texts, ← search_texts, ← made.2, ← madeOtherwise.2]

/-! ## Adding up -/

theorem fit?_eq_some_iff {number : Nat} {fitting : UInt64} :
    fit? number = some fitting ↔ number = fitting.toNat := by
  unfold fit?
  constructor
  · intro found
    by_cases small : number < UInt64.size
    · rw [if_pos small, Option.some.injEq] at found
      rw [← found, UInt64.toNat_ofNat_of_lt' small]
    · rw [if_neg small] at found
      cases found
  · intro same
    rw [same, if_pos fitting.toNat_lt, UInt64.ofNat_toNat]

theorem exists_toNat_eq {number : Nat} {bound : UInt64} (small : number ≤ bound.toNat) :
    ∃ fitting : UInt64, number = fitting.toNat :=
  ⟨.ofNat number, (UInt64.toNat_ofNat_of_lt' (Nat.lt_of_le_of_lt small bound.toNat_lt)).symm⟩

/-- A product is no smaller than its count, so it fits only if the count does. -/
theorem WrittenGroup.seconds?_eq_some_iff {written : WrittenGroup} {seconds : UInt64} :
    written.toGroup.seconds? = some seconds ↔ written.seconds = seconds.toNat := by
  simp only [Group.seconds?, toGroup, UnitName.unitSeconds_letters, Option.bind_eq_bind,
    Option.bind_eq_some_iff, fit?_eq_some_iff]
  constructor
  · intro fits
    rcases fits with ⟨count, counted, product⟩
    rw [← product, ← counted]
    rfl
  · intro product
    have small : Text.decimalValue written.digits ≤ written.seconds :=
      Nat.le_mul_of_pos_right _ written.unit.seconds_pos
    rcases exists_toNat_eq (product ▸ small) with ⟨count, counted⟩
    refine ⟨count, counted, ?_⟩
    rw [← counted, ← product]
    rfl

/-- No partial sum is larger than the last one, so all of them fit if the last one does. -/
theorem addGroups?_eq_some_iff {groups : List WrittenGroup} {before total : UInt64} :
    addGroups? before (groups.map WrittenGroup.toGroup) = some total ↔
      before.toNat + totalSeconds groups = total.toNat := by
  induction groups generalizing before with
  | nil => simp [addGroups?, totalSeconds, UInt64.toNat_inj]
  | cons written groups induction =>
      simp only [List.map_cons, addGroups?, totalSeconds, Option.bind_eq_bind, Option.bind_eq_some_iff,
        WrittenGroup.seconds?_eq_some_iff, fit?_eq_some_iff, induction]
      constructor
      · intro sums
        rcases sums with ⟨seconds, own, next, soFar, rest⟩
        omega
      · intro sum
        have ownSmall : written.seconds ≤ total.toNat := by omega
        rcases exists_toNat_eq ownSmall with ⟨seconds, own⟩
        have nextSmall : before.toNat + seconds.toNat ≤ total.toNat := by omega
        rcases exists_toNat_eq nextSmall with ⟨next, soFar⟩
        exact ⟨seconds, own, next, soFar, by omega⟩

/-! ## Lifetimes -/

theorem seconds?_eq_some_iff {text : List Char} {seconds : UInt64} :
    seconds? text = some seconds ↔
      ∃ groups, IsMadeOf text groups ∧ totalSeconds groups = seconds.toNat := by
  rw [seconds?]
  constructor
  · intro found
    split at found
    · rename_i whole
      rcases isWhole_iff.mp whole with ⟨groups, made⟩
      rw [made.2, search_texts, addGroups?_eq_some_iff] at found
      exact ⟨groups, made, by simpa using found⟩
    · cases found
  · intro sum
    rcases sum with ⟨groups, made, sum⟩
    rw [if_pos (isWhole_iff.mpr ⟨groups, made⟩), made.2, search_texts, addGroups?_eq_some_iff]
    simpa using sum

theorem parse_eq_ok_iff (text : String) (seconds : UInt64) :
    parse text = .ok seconds ↔
      ∃ groups, IsMadeOf (Text.trim text.toList) groups ∧
        totalSeconds groups = seconds.toNat := by
  rw [← seconds?_eq_some_iff, parse]
  cases seconds? (Text.trim text.toList) <;> simp

theorem eq_of_parse_eq_error {text : String} {error : Error} (failed : parse text = .error error) :
    error = .malformedDuration text := by
  unfold parse at failed
  split at failed <;> cases failed
  rfl

/-- A text is a lifetime exactly if it is made of groups, white space around it aside, and their
seconds fit into 64 bits; then it stands for their exact sum, and any other text is refused as it
came. No text is made of groups in two ways, and where the check accepts a text, which is where it
is made of groups, the search finds just these. -/
theorem parse_accepts_exactly_groups (text : String) :
    (∀ seconds : UInt64, parseOrStandard (some text) = .ok seconds ↔
      ∃ groups, IsMadeOf (Text.trim text.toList) groups ∧
        totalSeconds groups = seconds.toNat ∧ totalSeconds groups ≤ Nat.pow 2 64 - 1) ∧
    (∀ error, parseOrStandard (some text) = .error error ↔
      error = .malformedDuration text ∧
        ¬∃ groups, IsMadeOf (Text.trim text.toList) groups ∧
          totalSeconds groups ≤ Nat.pow 2 64 - 1) ∧
    (isWhole (Text.trim text.toList) = true ↔
      ∃ groups, IsMadeOf (Text.trim text.toList) groups) ∧
    ∀ groups, IsMadeOf (Text.trim text.toList) groups →
      (∀ others, IsMadeOf (Text.trim text.toList) others → others = groups) ∧
      search (Text.trim text.toList) = groups.map WrittenGroup.toGroup := by
  have fits : ∀ {groups} {seconds : UInt64}, totalSeconds groups = seconds.toNat →
      totalSeconds groups ≤ Nat.pow 2 64 - 1 :=
    fun sum => sum ▸ Nat.le_of_lt_succ (UInt64.toNat_lt _)
  refine ⟨fun seconds => ?_, fun error => ?_, isWhole_iff,
    fun groups made => ⟨fun others => isMadeOf_unique made, ?_⟩⟩
  · rw [parseOrStandard, parse_eq_ok_iff]
    constructor
    · intro holds
      rcases holds with ⟨groups, made, sum⟩
      exact ⟨groups, made, sum, fits sum⟩
    · intro holds
      rcases holds with ⟨groups, made, sum, _⟩
      exact ⟨groups, made, sum⟩
  · rw [parseOrStandard]
    constructor
    · intro failed
      refine ⟨eq_of_parse_eq_error failed, fun holds => ?_⟩
      rcases holds with ⟨groups, made, small⟩
      have bounded : totalSeconds groups ≤ (UInt64.ofNat (Nat.pow 2 64 - 1)).toNat := small
      rcases exists_toNat_eq bounded with ⟨seconds, sum⟩
      cases failed.symm.trans ((parse_eq_ok_iff text seconds).mpr ⟨groups, made, sum⟩)
    · intro refused
      rcases refused with ⟨rfl, unsaid⟩
      cases parsed : parse text with
      | error error => rw [eq_of_parse_eq_error parsed]
      | ok seconds =>
          rcases (parse_eq_ok_iff text seconds).mp parsed with ⟨groups, made, sum⟩
          exact absurd ⟨groups, made, fits sum⟩ unsaid
  · rw [made.2]
    exact search_texts groups

/-- A group of every unit. The first one has zeros in front, and the minutes whose name is the start
of a longer one come before a digit. -/
def everyUnit : List WrittenGroup :=
  [⟨['0', '0', '0', '2'], .d, by decide, by simp⟩, ⟨['3'], .h, by decide, by simp⟩,
    ⟨['1'], .min, by decide, by simp⟩, ⟨['2'], .mi, by decide, by simp⟩,
    ⟨['4'], .mn, by decide, by simp⟩, ⟨['5'], .s, by decide, by simp⟩]

theorem parse_accepts_exactly_groups_everyUnit :
    parseOrStandard (some " 0002d3h1min2mi4mn5s\t") =
      .ok (2 * 86400 + 3 * 3600 + 1 * 60 + 2 * 60 + 4 * 60 + 5 * 1) ∧
    search "0002d3h1min2mi4mn5s".toList =
      [⟨"0002".toList, "d".toList⟩, ⟨"3".toList, "h".toList⟩, ⟨"1".toList, "min".toList⟩,
        ⟨"2".toList, "mi".toList⟩, ⟨"4".toList, "mn".toList⟩, ⟨"5".toList, "s".toList⟩] := by
  have trimmed : Text.trim " 0002d3h1min2mi4mn5s\t".toList = "0002d3h1min2mi4mn5s".toList := by
    decide
  have made : IsMadeOf (Text.trim " 0002d3h1min2mi4mn5s\t".toList) everyUnit := by
    rw [trimmed]
    exact ⟨by decide, by decide⟩
  rcases parse_accepts_exactly_groups " 0002d3h1min2mi4mn5s\t" with ⟨accepts, _, _, parts⟩
  refine ⟨(accepts _).mpr ⟨everyUnit, made, by decide, by decide⟩, ?_⟩
  rw [← trimmed]
  exact (parts everyUnit made).2

end HttpExchange.Duration

import HttpExchange.Language
import HttpExchange.Proofs.QualityWeights
import HttpExchange.Proofs.Trimming
import Mathlib.Data.List.FinRange
import Mathlib.Data.List.Sort

/-! The languages that a client accepts are the tags of its entries, none lost and none twice, by
falling weight and otherwise as they were sent. -/

namespace HttpExchange.Language

/-! ## Rankings -/

/-- The tag of an entry as it is written: the text before the first semicolon. -/
def writtenTag (entry : List Char) : List Char :=
  Text.trim (entry.takeWhile (· != ';'))

/-- An order of the places of entries that have a tag. Of any two of them the one that was sent
earlier comes first exactly if it weighs no less. -/
structure Ranking (entries : List (List Char)) where
  order : List (Fin entries.length)
  nodup : order.Nodup
  mem_order_iff : ∀ place, place ∈ order ↔ writtenTag entries[place] ≠ []
  precedes_iff : ∀ earlier later, earlier < later → earlier ∈ order → later ∈ order →
    ([earlier, later].Sublist order ↔
      Quality.ofEntry entries[later] ≤ Quality.ofEntry entries[earlier])

namespace Ranking

variable {entries : List (List Char)}

/-- The tags in this order. -/
def tags (ranking : Ranking entries) : List String :=
  ranking.order.map fun place => String.ofList (writtenTag entries[place])

theorem not_sublist_swap {α : Type} {values : List α} {first second : α} (nodup : values.Nodup)
    (inOrder : [first, second].Sublist values) : ¬ [second, first].Sublist values := by
  intro swapped
  induction values with
  | nil => cases inOrder
  | cons head tail induction =>
      rw [List.nodup_cons] at nodup
      cases inOrder with
      | cons _ later =>
          cases swapped with
          | cons _ laterSwapped => exact induction nodup.2 later laterSwapped
          | cons_cons _ _ => exact nodup.1 (later.subset (by simp))
      | cons_cons _ _ =>
          cases swapped with
          | cons _ laterSwapped => exact nodup.1 (laterSwapped.subset (by simp))
          | cons_cons _ member => exact nodup.1 (member.subset (by simp))

/-- Of two places of a ranking the one that comes first, by what was sent alone. -/
def ComesFirst (entries : List (List Char)) (first second : Fin entries.length) : Prop :=
  first < second ∧ Quality.ofEntry entries[second] ≤ Quality.ofEntry entries[first] ∨
  second < first ∧ ¬ Quality.ofEntry entries[first] ≤ Quality.ofEntry entries[second]

theorem pairwise_comesFirst (ranking : Ranking entries) :
    ranking.order.Pairwise (ComesFirst entries) := by
  rw [List.pairwise_iff_forall_sublist]
  intro first second inOrder
  have firstMember : first ∈ ranking.order := inOrder.subset (by simp)
  have secondMember : second ∈ ranking.order := inOrder.subset (by simp)
  have different : first ≠ second := by
    have nodup := ranking.nodup.sublist inOrder
    simpa using nodup
  rcases Fin.lt_or_lt_of_ne different with before | after
  · exact .inl ⟨before, (ranking.precedes_iff _ _ before firstMember secondMember).mp inOrder⟩
  · refine .inr ⟨after, fun noLess => ?_⟩
    have swapped := (ranking.precedes_iff _ _ after secondMember firstMember).mpr noLess
    exact not_sublist_swap ranking.nodup inOrder swapped

/-- Weights and places leave one order only. -/
theorem order_unique (ranking other : Ranking entries) : ranking.order = other.order := by
  have sameMembers : ranking.order.Perm other.order := by
    rw [List.perm_ext_iff_of_nodup ranking.nodup other.nodup]
    intro place
    rw [ranking.mem_order_iff, other.mem_order_iff]
  refine sameMembers.eq_of_pairwise ?_ ranking.pairwise_comesFirst other.pairwise_comesFirst
  intro first second _ _ firstOverSecond secondOverFirst
  rcases firstOverSecond with ⟨before, noLess⟩ | ⟨after, less⟩ <;>
    rcases secondOverFirst with ⟨before', noLess'⟩ | ⟨after', less'⟩
  · exact absurd before (Fin.lt_asymm before')
  · exact absurd noLess less'
  · exact absurd noLess' less
  · exact absurd after (Fin.lt_asymm after')

end Ranking

/-! ## Sorting the places -/

theorem tag_eq_writtenTag (entry : List Char) : tag entry = writtenTag entry := by
  rw [tag, Text.trim_before_trim (by decide), Text.before, writtenTag]

/-- Any two weights compare, so the preference never falls back on taking entries as equals. -/
theorem compare?_ofEntry (first second : List Char) :
    (Quality.ofEntry second).compare? (Quality.ofEntry first) = some (preference first second) := by
  rcases Binary64.Value.exists_number (Quality.ofEntry_ne_nan first) with ⟨heavy, firstIs⟩
  rcases Binary64.Value.exists_number (Quality.ofEntry_ne_nan second) with ⟨light, secondIs⟩
  rw [preference, firstIs, secondIs]
  rfl

theorem preference_isLE_iff {first second : List Char} :
    (preference first second).isLE = true ↔ Quality.ofEntry second ≤ Quality.ofEntry first := by
  show _ ↔ ((Quality.ofEntry second).compare? (Quality.ofEntry first)).any Ordering.isLE = true
  rw [compare?_ofEntry, Option.any_some]

theorem preference_trans (first second third : List Char)
    (firstNoLess : (preference first second).isLE = true)
    (secondNoLess : (preference second third).isLE = true) :
    (preference first third).isLE = true := by
  rcases Binary64.Value.exists_number (Quality.ofEntry_ne_nan first) with ⟨heavy, firstIs⟩
  rcases Binary64.Value.exists_number (Quality.ofEntry_ne_nan second) with ⟨medium, secondIs⟩
  rcases Binary64.Value.exists_number (Quality.ofEntry_ne_nan third) with ⟨light, thirdIs⟩
  rw [preference_isLE_iff, firstIs, secondIs, Binary64.Value.number_le_number_iff] at firstNoLess
  rw [preference_isLE_iff, secondIs, thirdIs, Binary64.Value.number_le_number_iff] at secondNoLess
  rw [preference_isLE_iff, firstIs, thirdIs, Binary64.Value.number_le_number_iff]
  exact Int.le_trans secondNoLess firstNoLess

theorem preference_total (first second : List Char) :
    ((preference first second).isLE || (preference second first).isLE) = true := by
  rcases Binary64.Value.exists_number (Quality.ofEntry_ne_nan first) with ⟨heavy, firstIs⟩
  rcases Binary64.Value.exists_number (Quality.ofEntry_ne_nan second) with ⟨light, secondIs⟩
  rw [Bool.or_eq_true, preference_isLE_iff, preference_isLE_iff, firstIs, secondIs,
    Binary64.Value.number_le_number_iff, Binary64.Value.number_le_number_iff]
  exact Int.le_total light heavy

/-- The places of all entries, those of the heaviest entries first. -/
def sortedPlaces (entries : List (List Char)) : List (Fin entries.length) :=
  (List.finRange entries.length).mergeSort fun first second =>
    (preference entries[first] entries[second]).isLE

theorem mergeSort_eq_map_sortedPlaces (entries : List (List Char)) :
    (entries.mergeSort fun first second => (preference first second).isLE) =
      (sortedPlaces entries).map fun place => entries[place] := by
  have places : (List.finRange entries.length).map (fun place => entries[place]) = entries :=
    List.map_getElem_finRange entries
  calc
    (entries.mergeSort fun first second => (preference first second).isLE)
      = ((List.finRange entries.length).map fun place => entries[place]).mergeSort
        fun first second => (preference first second).isLE := by rw [places]
    _ = (sortedPlaces entries).map fun place => entries[place] := by
      rw [sortedPlaces]
      exact (List.map_mergeSort (f := fun place : Fin entries.length => entries[place])
        fun _ _ _ _ => rfl).symm

variable {entries : List (List Char)}

theorem mem_sortedPlaces (place : Fin entries.length) : place ∈ sortedPlaces entries :=
  List.mem_mergeSort.mpr (List.mem_finRange place)

theorem nodup_sortedPlaces : (sortedPlaces entries).Nodup :=
  (List.mergeSort_perm _ _).nodup_iff.mpr (List.nodup_finRange _)

/-- Sorting keeps two places in their order exactly if the later one does not weigh more. -/
theorem precedes_sortedPlaces_iff {earlier later : Fin entries.length} (before : earlier < later) :
    [earlier, later].Sublist (sortedPlaces entries) ↔
      Quality.ofEntry entries[later] ≤ Quality.ofEntry entries[earlier] := by
  have trans := fun first second third : Fin entries.length =>
    preference_trans entries[first] entries[second] entries[third]
  have total := fun first second : Fin entries.length =>
    preference_total entries[first] entries[second]
  rw [← preference_isLE_iff]
  constructor
  · intro inOrder
    have sorted := List.pairwise_mergeSort trans total (List.finRange entries.length)
    have pair := sorted.sublist inOrder
    rw [List.pairwise_pair] at pair
    exact pair
  · intro noLess
    have sent : [earlier, later].Sublist (List.finRange entries.length) := by
      refine List.sublist_of_subperm_of_pairwise (r := (· < ·)) ?_ ?_ ?_
      · exact List.subperm_of_subset (by simp [before.ne]) (by simp)
      · exact List.pairwise_pair.mpr before
      · exact (List.sortedLT_finRange _).pairwise
    exact List.pair_sublist_mergeSort trans total noLess sent

/-- Whether the entry at a place has a tag. -/
def hasTag (place : Fin entries.length) : Bool :=
  !(writtenTag entries[place]).isEmpty

theorem hasTag_iff {place : Fin entries.length} :
    hasTag place = true ↔ writtenTag entries[place] ≠ [] := by
  rw [hasTag, Bool.not_eq_true', List.isEmpty_eq_false_iff]

/-- The sorted places without those of entries that have no tag. -/
def sortedRanking (entries : List (List Char)) : Ranking entries where
  order := (sortedPlaces entries).filter hasTag
  nodup := nodup_sortedPlaces.filter _
  mem_order_iff := by
    intro place
    rw [List.mem_filter, hasTag_iff]
    exact and_iff_right (mem_sortedPlaces place)
  precedes_iff := by
    intro earlier later before earlierMember laterMember
    rw [← precedes_sortedPlaces_iff before]
    constructor
    · exact fun inOrder => inOrder.trans List.filter_sublist
    · intro inOrder
      have earlierHasTag := (List.mem_filter.mp earlierMember).2
      have laterHasTag := (List.mem_filter.mp laterMember).2
      have kept := inOrder.filter hasTag
      rwa [List.filter_cons_of_pos earlierHasTag, List.filter_cons_of_pos laterHasTag,
        List.filter_nil] at kept

theorem filterMap_tags (places : List (Fin entries.length)) :
    ((places.map fun place => entries[place]).filterMap fun entry =>
      match tag entry with
      | [] => none
      | name => some (String.ofList name)) =
    (places.filter hasTag).map fun place => String.ofList (writtenTag entries[place]) := by
  induction places with
  | nil => rfl
  | cons place places induction =>
      rw [List.map_cons, List.filterMap_cons, induction, tag_eq_writtenTag]
      cases written : writtenTag entries[place] with
      | nil =>
          have tagless : ¬ hasTag place = true := fun shown => hasTag_iff.mp shown written
          rw [List.filter_cons_of_neg tagless]
      | cons first rest =>
          have filled : writtenTag entries[place] ≠ [] := written ▸ List.cons_ne_nil first rest
          have tagged : hasTag place = true := hasTag_iff.mpr filled
          rw [List.filter_cons_of_pos tagged, List.map_cons, written]

theorem accepted_eq_tags (value : String) :
    accepted (some value) = (sortedRanking (value.toList.splitOn ',')).tags := by
  rw [accepted, ranked, mergeSort_eq_map_sortedPlaces]
  exact filterMap_tags _

/-- The languages of a value are the tags of its entries, each as often as entries give it. Of two
entries the one that was sent earlier comes first exactly if it weighs no less, which leaves no
other order. Every entry weighs one amount: one if no `q=` in it has a digit or a point behind it,
and otherwise the decimal number that the first such numeral is, or nothing if it is none. The
weight is the number nearest to this amount, so weights are ordered as the amounts are, short ones
strictly so, and any two of them compare. -/
theorem accepted_ranks_entries_by_weight (value : String) :
    (∀ languages : List String, accepted (some value) = languages ↔
      ∃ ranking : Ranking (value.toList.splitOn ','), languages = ranking.tags) ∧
    (∀ entry ∈ value.toList.splitOn ',',
      Quality.ofEntry entry ≠ .nan ∧
      ∃ amount, Quality.Weighs entry amount ∧ (Quality.ofEntry entry).IsNearestTo amount ∧
        ∀ other, Quality.Weighs entry other → other = amount) ∧
    (∀ first ∈ value.toList.splitOn ',', ∀ second ∈ value.toList.splitOn ',',
      (Quality.ofEntry second).compare? (Quality.ofEntry first) =
        some (preference first second) ∧
      ∀ firstAmount secondAmount,
        Quality.Weighs first firstAmount → Quality.Weighs second secondAmount →
        (firstAmount ≤ secondAmount → Quality.ofEntry first ≤ Quality.ofEntry second) ∧
        (Quality.IsShort first → Quality.IsShort second →
          (Quality.ofEntry first ≤ Quality.ofEntry second ↔ firstAmount ≤ secondAmount))) := by
  refine ⟨fun languages => ?_, fun entry _ => ⟨Quality.ofEntry_ne_nan entry, ?_⟩,
    fun first _ second _ => ⟨compare?_ofEntry first second, ?_⟩⟩
  · constructor
    · rintro rfl
      exact ⟨_, accepted_eq_tags value⟩
    · rintro ⟨ranking, rfl⟩
      rw [accepted_eq_tags, Ranking.tags, Ranking.tags, Ranking.order_unique ranking]
  · rcases Quality.exists_weighs entry with ⟨amount, weighs⟩
    exact ⟨amount, weighs, weighs.isNearestTo, fun other weighsOther => weighs.unique weighsOther⟩
  · intro firstAmount secondAmount firstWeighs secondWeighs
    exact ⟨Quality.ofEntry_le_ofEntry firstWeighs secondWeighs,
      Quality.ofEntry_le_ofEntry_iff firstWeighs secondWeighs⟩

/-- English of any kind, British above all, and German where nothing else is left. -/
def englishReader : String := "de ;q=., en-us;q=0.8 ,;q=1,en-gb,en;q=0.90"

def englishEntries : List (List Char) :=
  ["de ;q=.", " en-us;q=0.8 ", ";q=1", "en-gb", "en;q=0.90"].map String.toList

/-- British English first, then English, then American English, and German last. -/
def englishRanking : Ranking englishEntries where
  order := [⟨3, by decide⟩, ⟨4, by decide⟩, ⟨1, by decide⟩, ⟨0, by decide⟩]
  nodup := by decide
  mem_order_iff := by decide +kernel
  precedes_iff := by decide +kernel

theorem weighs_german : Quality.Weighs "de ;q=.".toList 0 := by
  refine .unreadable (Quality.numeral?_eq_some_iff.mp rfl) fun amount is => ?_
  rcases is.exists_fraction with ⟨digits, places, _, read, _⟩
  cases read

theorem accepted_ranks_entries_by_weight_englishReader :
    accepted (some englishReader) = ["en-gb", "en", "en-us", "de"] ∧
    ¬ Quality.ofEntry "en-gb".toList ≤ Quality.ofEntry "de ;q=.".toList := by
  have entries : englishReader.toList.splitOn ',' = englishEntries := by decide +kernel
  rcases accepted_ranks_entries_by_weight englishReader with ⟨languages, _, weights⟩
  rw [entries] at languages weights
  have weighsBritish : Quality.Weighs "en-gb".toList 1 :=
    .unnamed (Quality.numeral?_eq_none_iff.mp rfl)
  refine ⟨(languages _).mpr ⟨englishRanking, by decide +kernel⟩, fun noMore => ?_⟩
  rcases weights "en-gb".toList (by decide) "de ;q=.".toList (by decide) with ⟨_, ordered⟩
  have amounts := ((ordered 1 0 weighsBritish weighs_german).2 (by decide) (by decide)).mp noMore
  exact absurd amounts (by norm_num)

end HttpExchange.Language

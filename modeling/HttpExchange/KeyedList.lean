/-!
Ordered collections in which every entry has its own key. The key is read off the entry, so an
entry can never be filed under another one's key. Entries keep the order in which their keys
came in: putting an entry under a key that is present takes the place of the old one, and
removing an entry closes the gap.
-/

namespace HttpExchange

/-- Entries in order, no two of which have the same key. -/
structure KeyedList {Key Entry : Type} (key : Entry → Key) where
  entries : List Entry
  distinct : (entries.map key).Nodup

namespace KeyedList

variable {Key Entry : Type} {key : Entry → Key}

theorem ext {left right : KeyedList key} (same : left.entries = right.entries) :
    left = right := by
  cases left
  cases right
  cases same
  rfl

def empty : KeyedList key where
  entries := []
  distinct := .nil

instance : Inhabited (KeyedList key) := ⟨empty⟩

instance [DecidableEq Entry] : DecidableEq (KeyedList key) := fun left right =>
  decidable_of_iff (left.entries = right.entries) ⟨ext, fun same => same ▸ rfl⟩

@[simp] theorem entries_empty : (empty : KeyedList key).entries = [] := rfl

def keys (list : KeyedList key) : List Key :=
  list.entries.map key

@[simp] theorem keys_empty : (empty : KeyedList key).keys = [] := rfl

def size (list : KeyedList key) : Nat :=
  list.entries.length

variable [DecidableEq Key]

def find? (list : KeyedList key) (wanted : Key) : Option Entry :=
  list.entries.find? fun entry => key entry = wanted

def contains (list : KeyedList key) (wanted : Key) : Bool :=
  wanted ∈ list.keys

/-- Changes the entry under one key, if there is one. The change must leave the key alone. -/
def update (list : KeyedList key) (wanted : Key) (change : Entry → Entry)
    (kept : ∀ entry, key (change entry) = key entry) : KeyedList key where
  entries := list.entries.map fun entry => if key entry = wanted then change entry else entry
  distinct := by
    have same : (list.entries.map fun entry =>
        if key entry = wanted then change entry else entry).map key = list.entries.map key := by
      rw [List.map_map]
      apply List.map_congr_left
      intro entry _
      simp only [Function.comp_apply]
      split <;> simp [kept]
    rw [same]
    exact list.distinct

/-- The entries with one more: in the place of the entry that has its key, or at the end. -/
def place (key : Entry → Key) (entry : Entry) : List Entry → List Entry
  | [] => [entry]
  | head :: tail => if key head = key entry then entry :: tail else head :: place key entry tail

theorem map_place (entry : Entry) (entries : List Entry) :
    (place key entry entries).map key =
      if key entry ∈ entries.map key then entries.map key
      else entries.map key ++ [key entry] := by
  induction entries with
  | nil => simp [place]
  | cons head tail induction =>
      by_cases same : key head = key entry
      · simp [place, same]
      · rw [place, if_neg same, List.map_cons, induction]
        by_cases present : key entry ∈ tail.map key
        · simp [present]
        · simp only [present, if_false, List.map_cons, List.mem_cons, Ne.symm same, false_or,
            List.cons_append]

/-- Puts an entry under its key: in the place of the entry that is there, or at the end. -/
def put (list : KeyedList key) (entry : Entry) : KeyedList key where
  entries := place key entry list.entries
  distinct := by
    rw [map_place]
    by_cases present : key entry ∈ list.entries.map key
    · simpa [present] using list.distinct
    · rw [if_neg present, List.nodup_append]
      refine ⟨list.distinct, by simp, ?_⟩
      intro old oldMember new newMember equal
      rw [List.mem_singleton] at newMember
      exact present (newMember ▸ equal ▸ oldMember)

/-- Removes the entry under one key and keeps the order of the others. -/
def erase (list : KeyedList key) (wanted : Key) : KeyedList key where
  entries := list.entries.filter fun entry => key entry ≠ wanted
  distinct := list.distinct.sublist (List.Sublist.map key List.filter_sublist)

def putAll (list : KeyedList key) (entries : List Entry) : KeyedList key :=
  entries.foldl put list

@[simp] theorem find?_empty (wanted : Key) : (empty : KeyedList key).find? wanted = none := rfl

theorem entries_update (list : KeyedList key) (wanted : Key) (change : Entry → Entry)
    (kept : ∀ entry, key (change entry) = key entry) :
    (list.update wanted change kept).entries =
      list.entries.map fun entry => if key entry = wanted then change entry else entry := rfl

@[simp] theorem keys_update (list : KeyedList key) (wanted : Key) (change : Entry → Entry)
    (kept : ∀ entry, key (change entry) = key entry) :
    (list.update wanted change kept).keys = list.keys := by
  simp only [keys, update, List.map_map]
  apply List.map_congr_left
  intro entry _
  simp only [Function.comp_apply]
  split <;> simp [kept]

theorem contains_iff (list : KeyedList key) (wanted : Key) :
    list.contains wanted = true ↔ wanted ∈ list.keys := by
  simp [contains]

theorem keys_put (list : KeyedList key) (entry : Entry) :
    (list.put entry).keys =
      if key entry ∈ list.keys then list.keys else list.keys ++ [key entry] :=
  map_place entry list.entries

theorem find?_place (entry : Entry) (wanted : Key) (entries : List Entry) :
    (place key entry entries).find? (fun other => key other = wanted) =
      if key entry = wanted then some entry
      else entries.find? fun other => key other = wanted := by
  induction entries with
  | nil =>
      by_cases found : key entry = wanted <;> simp [place, found]
  | cons head tail induction =>
      by_cases same : key head = key entry
      · rw [place, if_pos same]
        by_cases found : key entry = wanted
        · simp [found]
        · simp [found, same]
      · rw [place, if_neg same, List.find?_cons, induction]
        by_cases found : key entry = wanted
        · have other : key head ≠ wanted := fun equal => same (equal.trans found.symm)
          simp [found, other]
        · simp [found, List.find?_cons]

/-- Looking up after `put` finds the new entry under its key and the old ones elsewhere. -/
theorem find?_put (list : KeyedList key) (entry : Entry) (wanted : Key) :
    (list.put entry).find? wanted =
      if key entry = wanted then some entry else list.find? wanted :=
  find?_place entry wanted list.entries

theorem place_of_not_mem {entry : Entry} {entries : List Entry}
    (new : key entry ∉ entries.map key) : place key entry entries = entries ++ [entry] := by
  induction entries with
  | nil => rfl
  | cons head tail induction =>
      rw [List.map_cons, List.mem_cons, not_or] at new
      rw [place, if_neg (Ne.symm new.1), induction new.2, List.cons_append]

theorem place_of_mem {entry : Entry} {entries : List Entry} (distinct : (entries.map key).Nodup)
    (present : key entry ∈ entries.map key) :
    place key entry entries =
      entries.map fun other => if key other = key entry then entry else other := by
  induction entries with
  | nil => cases present
  | cons head tail induction =>
      rw [List.map_cons, List.nodup_cons] at distinct
      by_cases same : key head = key entry
      · have others : ∀ other ∈ tail,
            (if key other = key entry then entry else other) = other := by
          intro other member
          apply if_neg
          intro equal
          exact distinct.1 (same.trans equal.symm ▸ List.mem_map_of_mem member)
        rw [place, if_pos same, List.map_cons, if_pos same, List.map_congr_left others,
          List.map_id']
      · rw [List.map_cons, List.mem_cons] at present
        have later := present.resolve_left (Ne.symm same)
        rw [place, if_neg same, induction distinct.2 later, List.map_cons, if_neg same]

/-- An entry with a key that is new goes behind the others. -/
theorem entries_put_of_not_mem {list : KeyedList key} {entry : Entry}
    (new : key entry ∉ list.keys) : (list.put entry).entries = list.entries ++ [entry] :=
  place_of_not_mem new

/-- An entry with a key that is there takes the place of the one that has it. -/
theorem entries_put_of_mem {list : KeyedList key} {entry : Entry}
    (present : key entry ∈ list.keys) :
    (list.put entry).entries =
      list.entries.map fun other => if key other = key entry then entry else other :=
  place_of_mem list.distinct present

theorem contains_eq_isSome_find? (list : KeyedList key) (wanted : Key) :
    list.contains wanted = (list.find? wanted).isSome := by
  rw [Bool.eq_iff_iff, contains_iff, find?, List.find?_isSome]
  simp [keys]

theorem keys_erase (list : KeyedList key) (wanted : Key) :
    (list.erase wanted).keys = list.keys.filter (· ≠ wanted) := by
  simp [erase, keys, List.filter_map, Function.comp_def]

theorem mem_keys_iff (list : KeyedList key) (wanted : Key) :
    wanted ∈ list.keys ↔ ∃ entry, list.find? wanted = some entry := by
  rw [← contains_iff, contains_eq_isSome_find?, Option.isSome_iff_exists]

/-- Changing the entry under one key changes what is found there and nothing else. -/
theorem find?_update (list : KeyedList key) (wanted other : Key) (change : Entry → Entry)
    (kept : ∀ entry, key (change entry) = key entry) :
    (list.update wanted change kept).find? other =
      if wanted = other then (list.find? other).map change else list.find? other := by
  simp only [find?, update]
  induction list.entries with
  | nil => simp
  | cons head tail induction =>
      by_cases found : key head = other
      · subst found
        by_cases same : key head = wanted
        · simp [same, kept]
        · simp [same, Ne.symm same]
      · by_cases same : key head = wanted
        · simp [same, kept, induction, same ▸ found]
        · simp [same, found, induction]

theorem find?_erase (list : KeyedList key) (wanted other : Key) :
    (list.erase wanted).find? other = if wanted = other then none else list.find? other := by
  simp only [find?, erase, List.find?_filter]
  by_cases same : wanted = other
  · subst same
    simp
  · rw [if_neg same]
    congr 1
    funext entry
    by_cases found : key entry = other
    · simp [found, Ne.symm same]
    · simp [found]

/-- An entry is found under a key exactly when it is in the list and has that key. -/
theorem find?_eq_some_iff (list : KeyedList key) (wanted : Key) (entry : Entry) :
    list.find? wanted = some entry ↔ entry ∈ list.entries ∧ key entry = wanted := by
  constructor
  · intro found
    exact ⟨List.mem_of_find?_eq_some found, by simpa using List.find?_some found⟩
  · intro holds
    rcases holds with ⟨member, rfl⟩
    rcases list with ⟨entries, distinct⟩
    simp only [find?] at member ⊢
    induction entries with
    | nil => cases member
    | cons head tail induction =>
        rw [List.map_cons, List.nodup_cons] at distinct
        rcases List.mem_cons.mp member with rfl | member
        · simp
        · have other : key head ≠ key entry := by
            intro same
            exact distinct.1 (same ▸ List.mem_map_of_mem member)
          rw [List.find?_cons_of_neg (by simpa using other)]
          exact induction distinct.2 member

/-- The change is made to the one entry that is found under the key. -/
theorem entries_update_of_find? {list : KeyedList key} {wanted : Key} {stored : Entry}
    (found : list.find? wanted = some stored) (change : Entry → Entry)
    (kept : ∀ entry, key (change entry) = key entry) :
    (list.update wanted change kept).entries =
      list.entries.map fun other => if key other = wanted then change stored else other := by
  apply List.map_congr_left
  intro other member
  by_cases named : key other = wanted
  · have same := ((find?_eq_some_iff list wanted other).mpr ⟨member, named⟩).symm.trans found
    rw [if_pos named, if_pos named, Option.some.inj same]
  · rw [if_neg named, if_neg named]

/-- What is found under the keys, in their order, are the entries. -/
theorem map_find?_keys (list : KeyedList key) :
    list.keys.map list.find? = list.entries.map some := by
  rw [keys, List.map_map]
  apply List.map_congr_left
  intro entry member
  exact (find?_eq_some_iff _ _ _).mpr ⟨member, rfl⟩

/-- Lists with the same keys in the same order, and with the same under each key, are equal. -/
theorem ext_find? {left right : KeyedList key} (keys : left.keys = right.keys)
    (found : ∀ wanted, left.find? wanted = right.find? wanted) : left = right := by
  apply ext
  have entries : left.entries.map some = right.entries.map some := by
    rw [← map_find?_keys, ← map_find?_keys, keys, funext found]
  exact (List.map_inj_right fun _ _ => Option.some.inj).mp entries

theorem mem_keys_put (list : KeyedList key) (entry : Entry) : key entry ∈ (list.put entry).keys :=
  (mem_keys_iff _ _).mpr ⟨entry, (find?_put list entry (key entry)).trans (if_pos rfl)⟩

/-- An entry that is put again is where it was. -/
theorem put_put (list : KeyedList key) (entry : Entry) :
    (list.put entry).put entry = list.put entry := by
  apply ext_find?
  · rw [keys_put, if_pos (mem_keys_put list entry)]
  · intro wanted
    rw [find?_put, find?_put]
    split <;> rfl

/-- A change that does no more the second time is made once. -/
theorem update_update (list : KeyedList key) (wanted : Key) (change : Entry → Entry)
    (kept : ∀ entry, key (change entry) = key entry)
    (again : ∀ entry, change (change entry) = change entry) :
    (list.update wanted change kept).update wanted change kept =
      list.update wanted change kept := by
  apply ext
  rw [entries_update, entries_update, List.map_map]
  apply List.map_congr_left
  intro entry _
  by_cases named : key entry = wanted
  · simp only [Function.comp_apply, if_pos named, if_pos ((kept entry).trans named), again]
  · simp only [Function.comp_apply, if_neg named]

end KeyedList

end HttpExchange

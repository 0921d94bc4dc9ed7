import HttpExchange.Proofs.HeaderHistory
import HttpExchange.Proofs.Lines
import Mathlib.Algebra.GroupWithZero.Nat

/-! Header fields read back from the text that they are rendered as: a reader who takes the text
apart into lines, and each line into a name and a value, collects the fields that were written. -/

namespace HttpExchange

namespace Text

/-- The text before the first `: ` and the text behind it, when there is one. -/
def cutField? : List Char → Option (List Char × List Char)
  | [] => none
  | ':' :: ' ' :: rest => some ([], rest)
  | character :: rest => (cutField? rest).map fun (name, value) => (character :: name, value)

/-- A name without a colon ends where the first `: ` starts, whatever the value holds. -/
theorem cutField?_append {name : List Char} (noColon : ':' ∉ name) (value : List Char) :
    cutField? (name ++ ':' :: ' ' :: value) = some (name, value) := by
  induction name with
  | nil => rfl
  | cons character name induction =>
      rw [List.mem_cons, not_or] at noColon
      have inside : ∀ rest, character = ':' →
          name ++ ':' :: ' ' :: value = ' ' :: rest → False :=
        fun _ isColon _ => noColon.1 isColon.symm
      rw [List.cons_append, cutField?.eq_3 _ _ inside, induction noColon.2, Option.map_some]

end Text

namespace Headers

/-! ## Collecting fields -/

/-- Every value beside the name of its field, in the order of the lines. -/
def pairs (headers : Headers) : List (String × String) :=
  headers.entries.flatMap fun header => header.values.map fun value => (header.name, value)

section Adding

variable {headers : Headers}

theorem entries_add_of_new {name : String} (new : foldName name ∉ headers.keys) (value : String) :
    (headers.add name value).entries = headers.entries ++ [.single name value] := by
  have absent : ¬headers.has name = true := fun has =>
    new ((KeyedList.contains_iff _ _).mp has)
  rw [add_of_not_has headers absent]
  exact KeyedList.entries_put_of_not_mem new

/-- The last field takes a value added under its name, and no other field is of that name. -/
theorem entries_add_of_last {front : List Header} {last : Header}
    (ends : headers.entries = front ++ [last]) (value : String) :
    (headers.add last.name value).entries = front ++ [last.append value] := by
  have distinct := headers.distinct
  rw [ends, List.map_append, List.nodup_append] at distinct
  have present : headers.has last.name = true := by
    apply (KeyedList.contains_iff _ _).mpr
    rw [KeyedList.keys, ends]
    exact List.mem_map_of_mem (List.mem_append_right front (List.mem_singleton_self last))
  have others : ∀ header ∈ front,
      (if header.key = foldName last.name then header.append value else header) = header := by
    intro header member
    apply if_neg
    apply distinct.2.2
    · exact List.mem_map_of_mem member
    · exact List.mem_singleton_self last.key
  rw [add_of_has headers present, KeyedList.entries_update, ends, List.map_append,
    List.map_congr_left others, List.map_id', List.map_singleton]
  exact congrArg (front ++ [·]) (if_pos rfl)

theorem entries_addValues_of_last {front : List Header} {last : Header}
    (ends : headers.entries = front ++ [last]) (values : List String) :
    (values.foldl (fun headers value => headers.add last.name value) headers).entries =
      front ++ [values.foldl Header.append last] := by
  induction values generalizing headers last with
  | nil => exact ends
  | cons value values induction => exact induction (entries_add_of_last ends value)

theorem foldl_append_eq (header : Header) (values : List String) :
    (values.foldl Header.append header).name = header.name ∧
      (values.foldl Header.append header).values = header.values ++ values := by
  induction values generalizing header with
  | nil => exact ⟨rfl, (List.append_nil _).symm⟩
  | cons value values induction =>
      rcases induction (header.append value) with ⟨name, held⟩
      refine ⟨name, held.trans ?_⟩
      rw [Header.append, List.append_assoc, List.singleton_append]

/-- Adding the values of a field one by one to fields without its name puts it behind them, since
the first one creates the field and the others go to it. -/
theorem entries_addField_of_new {header : Header} (new : header.key ∉ headers.keys) :
    (header.values.foldl (fun headers value => headers.add header.name value) headers).entries =
      headers.entries ++ [header] := by
  rcases List.exists_cons_of_ne_nil header.values_ne_nil with ⟨first, rest, values⟩
  have created : (rest.foldl (fun headers value => headers.add header.name value)
      (headers.add header.name first)).entries =
        headers.entries ++ [rest.foldl Header.append (.single header.name first)] :=
    entries_addValues_of_last (entries_add_of_new new first) rest
  rcases foldl_append_eq (.single header.name first) rest with ⟨name, held⟩
  have same : rest.foldl Header.append (.single header.name first) = header :=
    Header.ext name (held.trans values.symm)
  rw [values, List.foldl_cons, created, same]

theorem entries_addFields_of_new {fields : List Header}
    (distinct : ((headers.entries ++ fields).map Header.key).Nodup) :
    (fields.foldl (fun headers header =>
      header.values.foldl (fun headers value => headers.add header.name value) headers)
        headers).entries = headers.entries ++ fields := by
  induction fields generalizing headers with
  | nil => exact (List.append_nil _).symm
  | cons field fields induction =>
      have shape : headers.entries ++ field :: fields = headers.entries ++ [field] ++ fields :=
        List.append_cons _ _ _
      rw [shape] at distinct ⊢
      have new : field.key ∉ headers.keys := by
        rw [List.map_append, List.map_append, List.nodup_append, List.nodup_append] at distinct
        intro member
        exact distinct.1.2.2 _ member _ (List.mem_singleton_self _) rfl
      rw [← entries_addField_of_new new] at distinct ⊢
      exact induction distinct

end Adding

theorem ofPairs_pairs (headers : Headers) : ofPairs headers.pairs = headers := by
  apply KeyedList.ext
  rw [ofPairs, pairs, List.foldl_flatMap]
  simp only [List.foldl_map]
  exact entries_addFields_of_new headers.distinct

/-! ## Reading lines -/

theorem lines_eq_map_pairs (headers : Headers) :
    headers.lines = headers.pairs.map fun (name, value) => name ++ ": " ++ value := by
  rw [lines, pairs, List.map_flatMap]
  apply List.flatMap_congr
  intro header _
  rw [Header.lines, List.map_map]
  rfl

/-- Name and value of a line, which the first `: ` parts. -/
def readPair? (line : List Char) : Option (String × String) :=
  (Text.cutField? line).map fun (name, value) => (String.ofList name, String.ofList value)

theorem readPair?_line {name : String} (noColon : ':' ∉ name.toList) (value : String) :
    readPair? (name ++ ": " ++ value).toList = some (name, value) := by
  have shape : (name ++ ": " ++ value).toList = name.toList ++ ':' :: ' ' :: value.toList := by
    rw [String.toList_append, String.toList_append, List.append_assoc]
    rfl
  rw [readPair?, shape, Text.cutField?_append noColon, Option.map_some]
  exact congrArg some (Prod.ext String.ofList_toList String.ofList_toList)

/-- No name breaks a line or holds a colon, and no value breaks a line. -/
def IsReadable (headers : Headers) : Prop :=
  ∀ header ∈ headers.entries, ':' ∉ header.name.toList ∧ Text.IsUnbroken header.name ∧
    ∀ value ∈ header.values, Text.IsUnbroken value

instance (headers : Headers) : Decidable headers.IsReadable :=
  inferInstanceAs (Decidable (∀ header ∈ headers.entries, _))

theorem IsReadable.of_mem_pairs {headers : Headers} (readable : headers.IsReadable)
    {name value : String} (member : (name, value) ∈ headers.pairs) :
    ':' ∉ name.toList ∧ Text.IsUnbroken name ∧ Text.IsUnbroken value := by
  rcases List.mem_flatMap.mp member with ⟨header, stored, member⟩
  rcases List.mem_map.mp member with ⟨held, valueMember, same⟩
  cases same
  rcases readable header stored with ⟨noColon, unbroken, values⟩
  exact ⟨noColon, unbroken, values value valueMember⟩

/-- Rendered fields read back. The text is one line for each value, every line tells a name and a
value, and these collect into the same fields, with their spellings, values and order. -/
theorem render_reads_back (headers : Headers) (readable : headers.IsReadable) :
    ∃ lines pairs,
      Text.splitLines headers.render.toList = lines ++ [[]] ∧
      lines.length = (headers.entries.map fun header => header.values.length).sum ∧
      lines.map readPair? = pairs.map some ∧ ofPairs pairs = headers := by
  have unbroken : ∀ line ∈ headers.lines, Text.IsUnbroken line := by
    intro line member
    rw [lines_eq_map_pairs] at member
    rcases List.mem_map.mp member with ⟨⟨name, value⟩, paired, rfl⟩
    rcases readable.of_mem_pairs paired with ⟨_, unbrokenName, unbrokenValue⟩
    apply Text.isUnbroken_append.mpr
    exact ⟨Text.isUnbroken_append.mpr ⟨unbrokenName, by decide⟩, unbrokenValue⟩
  refine ⟨headers.lines.map String.toList, headers.pairs, ?_, ?_, ?_, ofPairs_pairs headers⟩
  · have split := splitLines_joinLines unbroken []
    rw [List.append_nil] at split
    exact split
  · rw [List.length_map, lines, List.length_flatMap]
    simp only [Header.lines, List.length_map]
  · rw [lines_eq_map_pairs, List.map_map, List.map_map]
    apply List.map_congr_left
    rintro ⟨name, value⟩ paired
    exact readPair?_line (readable.of_mem_pairs paired).1 value

/-- Fields that a run has left, with a repeated one, an empty name, an empty value and values with
colons in them. -/
def linked : Headers :=
  performAll KeyedList.empty
    [.add "Link" "<a>; title=b: c", .set "X-Empty" "", .add "LINK" ": ", .insert "" ["d", "e:f"],
      .set "x-empty" ""]

theorem render_reads_back_linked :
    linked.IsReadable ∧
    linked.render =
      "Link: <a>; title=b: c\r\nLink: : \r\nx-empty: \r\n: d\r\n: e:f\r\n" ∧
    ∃ lines pairs, Text.splitLines linked.render.toList = lines ++ [[]] ∧ lines.length = 5 ∧
      lines.map readPair? = pairs.map some ∧ ofPairs pairs = linked := by
  have readable : linked.IsReadable := by decide +kernel
  have written : linked.render =
      "Link: <a>; title=b: c\r\nLink: : \r\nx-empty: \r\n: d\r\n: e:f\r\n" := by decide +kernel
  rcases render_reads_back linked readable with ⟨lines, pairs, split, length, read, collected⟩
  have count : (linked.entries.map fun header => header.values.length).sum = 5 := by
    decide +kernel
  exact ⟨readable, written, lines, pairs, split, length.trans count, read, collected⟩

end Headers

end HttpExchange

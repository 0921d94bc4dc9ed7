import HttpExchange.KeyedList
import HttpExchange.Text.Trim
/-!
Header fields in order. A field is found by its name in any letter case, it keeps the spelling
of the name that it was given first, and it has one or more values in order. Nothing here knows
what a particular field means.
-/

namespace HttpExchange

/-- A field name in lower case, under which the field is found. -/
def foldName (name : String) : String :=
  String.ofList (Text.lower name.toList)

/-- A header field: its name as spelled and its values, of which there is at least one. -/
structure Header where
  name : String
  values : List String
  values_ne_nil : values ≠ [] := by simp
deriving DecidableEq

namespace Header

/-- The name under which the field is found. -/
def key (header : Header) : String :=
  foldName header.name

def single (name value : String) : Header where
  name := name
  values := [value]

/-- A field with several values; a field without any does not exist. -/
def ofValues? (name : String) (values : List String) : Option Header :=
  if present : values ≠ [] then some { name, values, values_ne_nil := present } else none

def value (header : Header) : String :=
  header.values.head header.values_ne_nil

def append (header : Header) (value : String) : Header where
  name := header.name
  values := header.values ++ [value]

def lines (header : Header) : List String :=
  header.values.map fun value => header.name ++ ": " ++ value

theorem ext {left right : Header} (name : left.name = right.name)
    (values : left.values = right.values) : left = right := by
  cases left
  cases right
  cases name
  cases values
  rfl

@[simp] theorem key_append (header : Header) (value : String) :
    (header.append value).key = header.key := rfl

@[simp] theorem value_single (name value : String) : (single name value).value = value := rfl

end Header

/-- Header fields in the order in which their names came in. -/
abbrev Headers := KeyedList Header.key

namespace Headers

/-- The field of this name, in any letter case. -/
def field? (headers : Headers) (name : String) : Option Header :=
  headers.find? (foldName name)

def value? (headers : Headers) (name : String) : Option String :=
  (headers.field? name).map Header.value

def has (headers : Headers) (name : String) : Bool :=
  headers.contains (foldName name)

/-- Makes `value` the only value of the field. -/
def set (headers : Headers) (name value : String) : Headers :=
  headers.put (.single name value)

/-- Adds a value behind those the field has. -/
def add (headers : Headers) (name value : String) : Headers :=
  if headers.has name then
    headers.update (foldName name) (·.append value) fun _ => rfl
  else
    headers.put (.single name value)

def remove (headers : Headers) (name : String) : Headers :=
  headers.erase (foldName name)

/-- Fields from names and values in order; values of one name gather in one field. -/
def ofPairs (pairs : List (String × String)) : Headers :=
  pairs.foldl (fun headers (name, value) => headers.add name value) KeyedList.empty

def lines (headers : Headers) : List String :=
  headers.entries.flatMap Header.lines

def joinLines (lines : List String) : String :=
  lines.foldr (fun line text => line ++ "\r\n" ++ text) ""

def render (headers : Headers) : String :=
  joinLines headers.lines

/-- Setting a field leaves the fields of all other names alone. -/
theorem field?_set (headers : Headers) (name value wanted : String) :
    (headers.set name value).field? wanted =
      if foldName name = foldName wanted then some (.single name value)
      else headers.field? wanted :=
  KeyedList.find?_put headers (.single name value) (foldName wanted)

theorem value?_set (headers : Headers) (name value wanted : String) :
    (headers.set name value).value? wanted =
      if foldName name = foldName wanted then some value else headers.value? wanted := by
  rw [value?, field?_set]
  by_cases same : foldName name = foldName wanted
  · rw [if_pos same, if_pos same, Option.map_some, Header.value_single]
  · rw [if_neg same, if_neg same, value?]

theorem value?_congr (headers : Headers) {name other : String}
    (same : foldName name = foldName other) : headers.value? name = headers.value? other := by
  rw [value?, value?, field?, field?, same]

theorem has_eq_isSome_value? (headers : Headers) (name : String) :
    headers.has name = (headers.value? name).isSome := by
  rw [has, KeyedList.contains_eq_isSome_find?, value?, field?, Option.isSome_map]

@[simp] theorem joinLines_nil : joinLines [] = "" := rfl

@[simp] theorem joinLines_cons (line : String) (lines : List String) :
    joinLines (line :: lines) = line ++ "\r\n" ++ joinLines lines := rfl

theorem joinLines_append (first second : List String) :
    joinLines (first ++ second) = joinLines first ++ joinLines second := by
  induction first with
  | nil => simp
  | cons line lines induction => simp [induction, String.append_assoc]

end Headers

end HttpExchange

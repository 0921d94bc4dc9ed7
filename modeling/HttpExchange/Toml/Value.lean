/-!
The values of a TOML document.
-/

namespace HttpExchange.Toml

/-- What opened a table. It decides what may be added to the table later. -/
inductive Origin
  /-- Braces around its entries: nothing may be added. -/
  | inline
  /-- A header of its own: entries follow the header, tables may be added anywhere. -/
  | header
  /-- The header of a table inside it: it may still get a header. -/
  | implied
  /-- A dotted key: more dotted keys may add to it, but it gets no header. -/
  | dotted
deriving DecidableEq, Repr

inductive Value
  | text (value : String)
  | boolean (value : Bool)
  | integer (value : Int)
  /-- A number with a fraction or an exponent, as its numeral. -/
  | float (numeral : String)
  /-- A date, a time or both, as written. -/
  | moment (text : String)
  | array (items : List Value)
  | table (origin : Origin) (entries : List (String × Value))
  /-- An array whose tables have headers of their own. -/
  | tables (items : List (List (String × Value)))

abbrev Entries := List (String × Value)

namespace Entries

/-- Puts a value in the place of the one under the key. -/
def replace (entries : Entries) (key : String) (value : Value) : Entries :=
  entries.map fun entry => if entry.1 = key then (key, value) else entry

end Entries

def changeLast? (change : Entries → Option Entries) (items : List Entries) :
    Option (List Entries) := do
  let last ← items.getLast?
  some (items.dropLast ++ [← change last])

/-- Gives a value to a dotted key, which must be new. The tables that lead to it must be new or
made by dotted keys. A table that headers imply and the last table of an array may also stand on
the way, but not at its end: the value itself never goes into a table that a header made. -/
def assign? (value : Value) : (path : List String) → Entries → Option Entries
  | [], _ => none
  | [key], entries =>
      if (entries.lookup key).isSome then none else some (entries ++ [(key, value)])
  | key :: next :: path, entries =>
      match entries.lookup key with
      | none => (assign? value (next :: path) []).map fun inner =>
          entries ++ [(key, .table .dotted inner)]
      | some (.table .dotted inner) => (assign? value (next :: path) inner).map fun inner =>
          entries.replace key (.table .dotted inner)
      | some (.table .implied inner) =>
          if path.isEmpty then none
          else (assign? value (next :: path) inner).map fun inner =>
            entries.replace key (.table .implied inner)
      | some (.tables items) =>
          if path.isEmpty then none
          else (changeLast? (assign? value (next :: path)) items).map fun items =>
            entries.replace key (.tables items)
      | some _ => none

/-- Changes the entries of the table that a header's path leads to. Tables on the way that are
missing come into being, and an array of tables leads to its last one. -/
def changeAt? (change : Entries → Option Entries) : (path : List String) → Entries →
    Option Entries
  | [], entries => change entries
  | key :: path, entries =>
      match entries.lookup key with
      | none => (changeAt? change path []).map fun inner =>
          entries ++ [(key, .table .implied inner)]
      | some (.table .inline _) => none
      | some (.table origin inner) => (changeAt? change path inner).map fun inner =>
          entries.replace key (.table origin inner)
      | some (.tables items) => (changeLast? (changeAt? change path) items).map fun items =>
          entries.replace key (.tables items)
      | some _ => none

/-- Opens the table of a header. A table can have only one header. -/
def openTable? (key : String) (entries : Entries) : Option Entries :=
  match entries.lookup key with
  | none => some (entries ++ [(key, .table .header [])])
  | some (.table .implied inner) => some (entries.replace key (.table .header inner))
  | some _ => none

def openElement? (key : String) (entries : Entries) : Option Entries :=
  match entries.lookup key with
  | none => some (entries ++ [(key, .tables [[]])])
  | some (.tables items) => some (entries.replace key (.tables (items ++ [[]])))
  | some _ => none

end HttpExchange.Toml

import HttpExchange.Freshness
import HttpExchange.Request.Forwarding
/-!
The operations on header fields as data, with what each answers.
-/

namespace HttpExchange.Headers

inductive Operation
  | set (name value : String)
  | add (name value : String)
  /-- Puts a field with these values in the place of the field of its name. -/
  | insert (name : String) (values : List String)
  | remove (name : String)
  | clear
  /-- Starts over with the fields of these names and values. -/
  | collect (pairs : List (String × String))
  | get (name : String)
  | value (name : String)
  | contains (name : String)
  | size
  | render
  | isModified (tag : String) (lastModified : Instant)
  | checkForwardedFor (name : String)
deriving DecidableEq

inductive Reply
  | done
  /-- A field without values does not exist. -/
  | noValues
  | field (header : Option Header)
  | text (value : Option String)
  | truth (value : Bool)
  | size (count : Nat)
  | checked (outcome : Except Error Unit)

def perform (headers : Headers) : Operation → Headers × Reply
  | .set name value => (headers.set name value, .done)
  | .add name value => (headers.add name value, .done)
  | .insert name values =>
      match Header.ofValues? name values with
      | some header => (headers.put header, .done)
      | none => (headers, .noValues)
  | .remove name => (headers.remove name, .field (headers.field? name))
  | .clear => (KeyedList.empty, .done)
  | .collect pairs => (ofPairs pairs, .done)
  | .get name => (headers, .field (headers.field? name))
  | .value name => (headers, .text (headers.value? name))
  | .contains name => (headers, .truth (headers.has name))
  | .size => (headers, .size headers.size)
  | .render => (headers, .text (some headers.render))
  | .isModified tag lastModified => (headers, .truth (headers.isModified tag lastModified))
  | .checkForwardedFor name => (headers, .checked (Header.checkForwardedFor (headers.field? name)))

def performAll (headers : Headers) (operations : List Operation) : Headers :=
  operations.foldl (fun headers operation => (headers.perform operation).1) headers

end HttpExchange.Headers

import HttpExchange.KeyedList
/-!
Data that handlers attach to a request under names of their choice, and the route that the
dispatcher has chosen.
-/

namespace HttpExchange

inductive AttributeValue
  | text (value : String)
  | flag (value : Bool)
  | integer (value : Int64)
deriving DecidableEq, Repr

structure Attribute where
  name : String
  value : AttributeValue
deriving DecidableEq, Repr

abbrev Attributes := KeyedList Attribute.name

namespace Attributes

def value? (attributes : Attributes) (name : String) : Option AttributeValue :=
  (attributes.find? name).map Attribute.value

def set (attributes : Attributes) (name : String) (value : AttributeValue) : Attributes :=
  attributes.put { name, value }

/-- Adds to the integer of this name; there is no answer when it is not an integer. -/
def add? (attributes : Attributes) (name : String) (amount : Int64) : Option Attributes :=
  match attributes.value? name with
  | some (.integer value) => some (attributes.set name (.integer (value + amount)))
  | _ => none

end Attributes

structure RouteParameter where
  name : String
  value : String
deriving DecidableEq, Repr

/-- The action that the dispatcher has chosen, if any. -/
structure Route where
  controller : Option String := none
  actionMethod : Option String := none
  /-- The full name of the action, controller first. -/
  action : Option String := none
  parameters : KeyedList RouteParameter.name := KeyedList.empty
  resolved : Bool := false
deriving DecidableEq

namespace Route

def addParameters (route : Route) (parameters : List RouteParameter) : Route :=
  { route with parameters := route.parameters.putAll parameters }

/-- Settles on an action. Its name up to the first full stop is the controller and the part
behind it, up to the next one, is the method. -/
def resolve (route : Route) (action : String) : Route :=
  let parts := (action.toList.splitOn '.').map String.ofList
  { route with
    action := some action
    controller := parts.head?
    actionMethod := parts[1]?
    resolved := true }

end Route

end HttpExchange

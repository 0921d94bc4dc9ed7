import HttpExchange.Binary64.Value
/-!
Quality weights of negotiated entries. A weight is the decimal number behind the first `q=` of
an entry that has one, rounded to 53 significant bits.
-/

namespace HttpExchange.Quality

abbrev Weight := Binary64.Value

def isNumeralCharacter (character : Char) : Bool :=
  character.isDigit || character == '.'

/-- The numeral behind the first `q=` that has one. -/
def numeral? : List Char → Option (List Char)
  | [] => none
  | 'q' :: '=' :: rest =>
      match rest.takeWhile isNumeralCharacter with
      | [] => numeral? ('=' :: rest)
      | numeral => some numeral
  | _ :: rest => numeral? rest

/-- The weight of a numeral. One that cannot be read weighs nothing. -/
def ofNumeral (numeral : List Char) : Weight :=
  (Binary64.Value.read? numeral).getD .zero

/-- The weight of an entry, which is one when it names none. -/
def ofEntry (entry : List Char) : Weight :=
  match numeral? entry with
  | some numeral => ofNumeral numeral
  | none => .one

end HttpExchange.Quality

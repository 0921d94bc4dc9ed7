import HttpExchange.Text.Search
import HttpExchange.Text.Trim
/-!
`Content-Type` values: a media type and the charset that its first parameter may name.
-/

namespace HttpExchange

structure ContentType where
  mediaType : String
  charset : Option String
deriving DecidableEq, Repr

namespace ContentType

/-- What stands between two `mark`s at the ends of a text. A single mark is not a pair. -/
def between? (mark : Char) : List Char → Option (List Char)
  | [] => none
  | first :: rest => if first = mark then Text.withoutLast? mark rest else none

/-- A value without one pair of double or single quotes around it. -/
def unquote (value : List Char) : List Char :=
  match between? '"' value with
  | some inner => Text.trim inner
  | none =>
      match between? '\'' value with
      | some inner => Text.trim inner
      | none => value

def charsetOf? (parameter : List Char) : Option String :=
  match Text.cut? '=' parameter with
  | none => none
  | some (key, value) =>
      if Text.sameLetters (Text.trim key) "charset".toList then
        match unquote (Text.trim value) with
        | [] => none
        | name => some (String.ofList name)
      else none

/-- Reads a `Content-Type` value. Only its first parameter can name the charset. -/
def parse (raw : String) : ContentType :=
  match raw.toList.splitOn ';' with
  | [] => { mediaType := "", charset := none }
  | media :: parameters =>
      { mediaType := String.ofList (Text.lower (Text.trim media))
        charset := parameters.head?.bind charsetOf? }

/-- Reads an optional value; without one it is HTML without charset. -/
def ofHeader : Option String → ContentType
  | none => { mediaType := "text/html", charset := none }
  | some raw => parse raw

end ContentType

end HttpExchange

import HttpExchange.Quality
import HttpExchange.Text.Search
import HttpExchange.Text.Trim
/-!
Languages from `Accept-Language`, the preferred ones first. Entries of equal weight stay in the
order in which the client sent them.
-/

namespace HttpExchange.Language

/-- The tag of an entry: the text before its parameters. -/
def tag (entry : List Char) : List Char :=
  Text.trim (Text.before ';' (Text.trim entry))

/-- Which of two entries the client prefers: the heavier one is less. Entries whose weights do not
compare would count as equals. -/
def preference (first second : List Char) : Ordering :=
  ((Quality.ofEntry second).compare? (Quality.ofEntry first)).getD .eq

/-- The entries of a value, heaviest first. -/
def ranked (value : List Char) : List (List Char) :=
  (value.splitOn ',').mergeSort fun first second => (preference first second).isLE

/-- The languages of an `Accept-Language` value in order of preference. -/
def accepted : Option String → List String
  | none => []
  | some value =>
      (ranked value.toList).filterMap fun entry =>
        match tag entry with
        | [] => none
        | name => some (String.ofList name)

end HttpExchange.Language

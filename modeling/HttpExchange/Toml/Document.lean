import HttpExchange.Toml.Scalar
/-!
TOML documents: statements that give values to keys or open tables, one to a line. Readers
answer with what they read and the text behind it. Loops over the text are bounded by its
length, since each round reads at least one character.
-/

namespace HttpExchange.Toml

def isBlank (character : Char) : Bool :=
  character == ' ' || character == '\t'

def skipBlanks (text : List Char) : List Char :=
  text.dropWhile isBlank

/-- Leaves out blanks, line ends and comments. `inComment` says that a comment is going on, in
which only the characters of a line may stand. -/
def skipLines? (inComment : Bool) : List Char → Option (List Char)
  | [] => some []
  | '\n' :: rest => skipLines? false rest
  | '\r' :: '\n' :: rest => skipLines? false rest
  | head :: rest =>
      if inComment then if isLineCharacter head then skipLines? true rest else none
      else if isBlank head then skipLines? false rest
      else if head = '#' then skipLines? true rest
      else some (head :: rest)

/-- The text behind the end of a line, on which only blanks and a comment may still stand. -/
def lineEnd? (text : List Char) : Option (List Char) :=
  match skipBlanks text with
  | [] => some []
  | '\n' :: rest => some rest
  | '\r' :: '\n' :: rest => some rest
  | '#' :: rest => skipLines? true rest
  | _ => none

/-- A character of a key without quotes. -/
def isBareCharacter (character : Char) : Bool :=
  character.isAlphanum || character == '_' || character == '-'

def readKey? : List Char → Option (String × List Char)
  | '"' :: rest => (readBasic? rest).map fun (key, rest) => (String.ofList key, rest)
  | '\'' :: rest => (readLiteral? rest).map fun (key, rest) => (String.ofList key, rest)
  | text =>
      match text.takeWhile isBareCharacter with
      | [] => none
      | key => some (String.ofList key, text.dropWhile isBareCharacter)

/-- How deep a document may nest: the keys of one path, and arrays and inline tables inside each
other. -/
def nestingLimit : Nat := 80

/-- Keys with full stops between them, at most `limit` of them, and the text behind them and the
blanks there. -/
def readKeys? : (limit : Nat) → List Char → Option (List String × List Char)
  | 0, _ => none
  | limit + 1, text => do
      let (key, rest) ← readKey? text
      match skipBlanks rest with
      | '.' :: rest => do
          let (path, rest) ← readKeys? limit (skipBlanks rest)
          some (key :: path, rest)
      | rest => some ([key], rest)

def readPath? (text : List Char) : Option (List String × List Char) :=
  readKeys? nestingLimit text

def isWordCharacter (character : Char) : Bool :=
  isBareCharacter character || character == '+' || character == '.' || character == ':'

/-- A value without quotes or brackets. A date and a time may have a blank between them. -/
def readScalar? (text : List Char) : Option (Value × List Char) :=
  let word := text.takeWhile isWordCharacter
  match text.dropWhile isWordCharacter with
  | ' ' :: digit :: rest =>
      if afterDate? word == some [] && digit.isDigit then
        let time := digit :: rest.takeWhile isWordCharacter
        (scalar? (word ++ ' ' :: time)).map fun value =>
          (value, rest.dropWhile isWordCharacter)
      else (scalar? word).map fun value => (value, ' ' :: digit :: rest)
  | rest => (scalar? word).map fun value => (value, rest)

mutual

/-- A value of any kind. Its brackets may nest `depth` deep. -/
def readValue? : (fuel depth : Nat) → List Char → Option (Value × List Char)
  | 0, _, _ => none
  | _, 0, '[' :: _ => none
  | _, 0, '\x7b' :: _ => none
  | fuel + 1, depth + 1, '[' :: rest =>
      (readItems? fuel depth rest).map fun (items, rest) => (.array items, rest)
  | fuel + 1, depth + 1, '\x7b' :: rest =>
      (readEntries? fuel depth [] rest).map fun (entries, rest) => (.table .inline entries, rest)
  | _, _, text =>
      match readText? text with
      | some (value, rest) => some (.text (String.ofList value), rest)
      | none => readScalar? text

/-- The items of an array up to its closing bracket. The last may have a comma behind it. -/
def readItems? : (fuel depth : Nat) → List Char → Option (List Value × List Char)
  | 0, _, _ => none
  | fuel + 1, depth, text => do
      match ← skipLines? false text with
      | ']' :: rest => some ([], rest)
      | text => do
          let (item, rest) ← readValue? fuel depth text
          match ← skipLines? false rest with
          | ',' :: rest => do
              let (items, rest) ← readItems? fuel depth rest
              some (item :: items, rest)
          | ']' :: rest => some ([item], rest)
          | _ => none

/-- The entries of an inline table up to its closing brace, behind those read already. Lines may
end anywhere between keys, marks and values, and the last entry may have a comma behind it. -/
def readEntries? : (fuel depth : Nat) → Entries → List Char → Option (Entries × List Char)
  | 0, _, _, _ => none
  | fuel + 1, depth, entries, text => do
      match ← skipLines? false text with
      | '\x7d' :: rest => some (entries, rest)
      | text => do
          let (path, rest) ← readPath? text
          match ← skipLines? false rest with
          | '=' :: rest => do
              let (value, rest) ← readValue? fuel depth (← skipLines? false rest)
              let entries ← assign? value path entries
              match ← skipLines? false rest with
              | ',' :: rest => readEntries? fuel depth entries rest
              | '\x7d' :: rest => some (entries, rest)
              | _ => none
          | _ => none

end

inductive Statement
  | assign (path : List String) (value : Value)
  | openTable (path : List String)
  | openElement (path : List String)

def readHeader? (text : List Char) : Option (List String × List Char) := do
  let (path, rest) ← readPath? (skipBlanks text)
  match rest with
  | ']' :: rest => some (path, rest)
  | _ => none

def readStatement? : List Char → Option (Statement × List Char)
  | '[' :: '[' :: rest => do
      let (path, rest) ← readHeader? rest
      match rest with
      | ']' :: rest => some (.openElement path, rest)
      | _ => none
  | '[' :: rest => do
      let (path, rest) ← readHeader? rest
      some (.openTable path, rest)
  | text => do
      let (path, rest) ← readPath? text
      match rest with
      | '=' :: rest => do
          let (value, rest) ← readValue? (2 * rest.length + 2) nestingLimit (skipBlanks rest)
          some (.assign path value, rest)
      | _ => none

/-- The statements of a text, each with the rest of its line left blank. -/
def readStatements? : (fuel : Nat) → List Char → Option (List Statement)
  | 0, _ => none
  | fuel + 1, text => do
      match ← skipLines? false text with
      | [] => some []
      | text => do
          let (statement, rest) ← readStatement? text
          let rest ← lineEnd? rest
          let statements ← readStatements? fuel rest
          some (statement :: statements)

/-- A document while it is read: its entries, and the path of the table that was opened last. -/
structure Draft where
  entries : Entries := []
  opened : List String := []

namespace Draft

def openAt? (draft : Draft) (path : List String)
    (openKey? : String → Entries → Option Entries) : Option Draft := do
  let key ← path.getLast?
  let entries ← changeAt? (openKey? key) path.dropLast draft.entries
  some { entries, opened := path }

def add? (draft : Draft) : Statement → Option Draft
  | .assign path value => do
      let entries ← changeAt? (assign? value path) draft.opened draft.entries
      some { draft with entries }
  | .openTable path => draft.openAt? path openTable?
  | .openElement path => draft.openAt? path openElement?

end Draft

def withoutByteOrderMark : List Char → List Char
  | '\ufeff' :: rest => rest
  | text => text

def read? (text : String) : Option Entries := do
  let text := withoutByteOrderMark text.toList
  let statements ← readStatements? (text.length + 1) text
  let draft ← statements.foldlM Draft.add? {}
  some draft.entries

end HttpExchange.Toml

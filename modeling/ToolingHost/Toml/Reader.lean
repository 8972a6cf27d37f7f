import ToolingHost.Toml.Quoted
import ToolingHost.Toml.Scalar

/-! # Reading TOML

A document is a sequence of lines: headers, assignments, comments and blank lines. Arrays and tables
in braces may be nested to a depth of `maxDepth`, and a key may have that many parts. Reading is
total: what is nested is bounded by the depth, and every repetition by the number of characters of
the document, since each item, member and line takes at least one. -/

namespace ToolingHost.Toml

/-- How deeply arrays and tables in braces may be nested, and how many parts a key may have. -/
def maxDepth : Nat := 80

namespace Reader

/-- A reader of one thing at the front of a text; it gives the thing and what follows. -/
abbrev Read (α : Type) := List Char → Option (α × List Char)

/-- Whether a character is a space or a tab. -/
def isBlank (c : Char) : Bool := c == ' ' || c == '\t'

/-- The text without the spaces and tabs at its front. -/
def skipBlank (chars : List Char) : List Char := chars.dropWhile isBlank

/-- What follows a comment, after its `#` and up to its line end. -/
def comment? : List Char → Option (List Char)
  | [] => some []
  | c :: rest =>
    if c = '\n' then some (c :: rest)
    else if c = '\r' then if rest.head? = some '\n' then some (c :: rest) else none
    else if isPlainChar c then comment? rest
    else none

/-- What follows a line end. -/
def newline? : List Char → Option (List Char)
  | '\n' :: rest => some rest
  | '\r' :: '\n' :: rest => some rest
  | _ => none

/-- What follows the rest of a line that holds nothing but a comment. -/
def lineEnd? (chars : List Char) : Option (List Char) :=
  let rest := match skipBlank chars with
    | '#' :: rest => comment? rest
    | rest => some rest
  match rest with
  | none => none
  | some [] => some []
  | some rest => newline? rest

/-- What follows the white space, line ends and comments at the front of a text, read from within a
comment or outside one. -/
def skipFrom? : (inComment : Bool) → List Char → Option (List Char)
  | _, [] => some []
  | inComment, c :: rest =>
    if c = '\n' then skipFrom? false rest
    else if c = '\r' then if rest.head? = some '\n' then skipFrom? false rest else none
    else if inComment then if isPlainChar c then skipFrom? true rest else none
    else if isBlank c then skipFrom? false rest
    else if c = '#' then skipFrom? true rest
    else some (c :: rest)

/-- What follows the white space, line ends and comments at the front of a text. -/
def skip? (chars : List Char) : Option (List Char) := skipFrom? false chars

/-- Whether a character may stand in a key without quotes. -/
def isKeyChar (c : Char) : Bool := c.isAlphanum || c == '_' || c == '-'

/-- Reads one part of a key. -/
def keyPart? : Read String
  | '"' :: rest => Quoted.line? '"' rest
  | '\'' :: rest => Quoted.line? '\'' rest
  | chars =>
    let word := chars.takeWhile isKeyChar
    if word.isEmpty then none else some (String.ofList word, chars.dropWhile isKeyChar)

/-- Reads the parts of a key after the first ones, which are held newest first; white space after
the key is skipped. -/
def keyParts? : (fuel : Nat) → List String → Read (List String)
  | 0, _, _ => none
  | fuel + 1, parts, chars =>
    match keyPart? (skipBlank chars) with
    | none => none
    | some (part, rest) =>
      match skipBlank rest with
      | '.' :: rest => keyParts? fuel (part :: parts) rest
      | rest => some ((part :: parts).reverse, rest)

/-- Reads a key as the path to a table and the last part. -/
def key? : Read (List String × String) := fun chars =>
  match keyParts? maxDepth [] chars with
  | none => none
  | some (parts, rest) =>
    match parts.getLast? with
    | none => none
    | some last => some ((parts.dropLast, last), rest)

/-- Reads the items of an array after its bracket or a comma; there are at most `fuel`. -/
def items? (value? : Nat → Read Value) : (fuel : Nat) → List Value → Read (List Value)
  | 0, _, _ => none
  | fuel + 1, items, chars =>
    match skip? chars with
    | none => none
    | some (']' :: rest) => some (items.reverse, rest)
    | some chars =>
      match value? fuel chars with
      | none => none
      | some (item, rest) =>
        match skip? rest with
        | some (',' :: rest) => items? value? fuel (item :: items) rest
        | some (']' :: rest) => some ((item :: items).reverse, rest)
        | _ => none

/-- Reads an assignment: a key, an equals sign and a value, with what `gap?` skips on both sides of
the sign. -/
def assignment? (gap? : List Char → Option (List Char)) (value? : Read Value) :
    Read ((List String × String) × Value) := fun chars => do
  let (key, rest) ← key? chars
  match ← gap? rest with
  | '=' :: rest =>
    let (v, rest) ← value? (← gap? rest)
    return ((key, v), rest)
  | _ => none

/-- Reads the members of a table in braces after its brace or a comma; there are at most `fuel`.
Line ends and comments may stand wherever white space may, except inside a key. -/
def members? (value? : Nat → Read Value) : (fuel : Nat) → Members → Read Members
  | 0, _, _ => none
  | fuel + 1, members, chars =>
    match skip? chars with
    | none => none
    | some ('\x7d' :: rest) => some (members, rest)
    | some chars =>
      match assignment? skip? (value? fuel) chars with
      | none => none
      | some (((path, key), v), rest) =>
        match Members.assign? path key v .braces members, skip? rest with
        | some members, some (',' :: rest) => members? value? fuel members rest
        | some members, some ('\x7d' :: rest) => some (members, rest)
        | _, _ => none

/-- Reads a value in which containers may be nested to the given depth, each with at most `fuel`
parts. -/
def value? : (depth fuel : Nat) → Read Value
  | depth, fuel, chars =>
    match chars with
    | '"' :: rest => (Quoted.any? '"' rest).map fun (s, rest) => (.string s, rest)
    | '\'' :: rest => (Quoted.any? '\'' rest).map fun (s, rest) => (.string s, rest)
    | '[' :: rest =>
      match depth with
      | 0 => none
      | depth + 1 =>
        (items? (value? depth) fuel [] rest).map fun (items, rest) => (.array items, rest)
    | '\x7b' :: rest =>
      match depth with
      | 0 => none
      | depth + 1 =>
        (members? (value? depth) fuel [] rest).map fun (members, rest) =>
          (.table .braces members, rest)
    | chars => Scalar.read? chars

/-- A document that is being read: what it holds, and the path of the current header. -/
structure Draft where
  /-- What the document holds so far. -/
  members : Members
  /-- The path of the table that assignments go to. -/
  current : List String
  deriving Repr

/-- A header, after its brackets have been read. -/
def Draft.header? (draft : Draft) (repeated : Bool) (path : List String) (key : String) :
    Option Draft :=
  let opening (_ : Origin) (members : Members) : Option Members :=
    if repeated then Members.openRepeated? key members else Members.openTable? key members
  (Members.updateAt? false opening path .header draft.members).map fun members =>
    ⟨members, path ++ [key]⟩

/-- An assignment to the current table. -/
def Draft.assign? (draft : Draft) (path : List String) (key : String) (v : Value) : Option Draft :=
  let set (origin : Origin) (members : Members) : Option Members :=
    Members.assign? path key v origin members
  (Members.updateAt? false set draft.current .header draft.members).map fun members =>
    { draft with members }

/-- Reads a header after its first bracket, up to the end of its line. -/
def headerLine? (draft : Draft) (chars : List Char) : Option (Draft × List Char) :=
  match chars with
  | '[' :: rest =>
    match key? rest with
    | some ((path, key), ']' :: ']' :: rest) => do
      return (← draft.header? true path key, ← lineEnd? rest)
    | _ => none
  | _ =>
    match key? chars with
    | some ((path, key), ']' :: rest) => do
      return (← draft.header? false path key, ← lineEnd? rest)
    | _ => none

/-- Reads an assignment up to the end of its line; its parts stand on one line. -/
def assignmentLine? (fuel : Nat) (draft : Draft) (chars : List Char) :
    Option (Draft × List Char) :=
  match assignment? (some <| skipBlank ·) (value? maxDepth fuel) chars with
  | none => none
  | some (((path, key), v), rest) => do
    return (← draft.assign? path key v, ← lineEnd? rest)

/-- Reads the lines of a document; there are at most `fuel`. -/
def lines? : (fuel : Nat) → Draft → List Char → Option Members
  | 0, _, _ => none
  | fuel + 1, draft, chars =>
    match skip? chars with
    | none => none
    | some [] => some draft.members
    | some ('[' :: rest) =>
      match headerLine? draft rest with
      | none => none
      | some (draft, rest) => lines? fuel draft rest
    | some chars =>
      match assignmentLine? fuel draft chars with
      | none => none
      | some (draft, rest) => lines? fuel draft rest

end Reader

/-- The members of the document that a text spells. A byte order mark at the front is skipped. -/
def parse? (text : String) : Option Members :=
  let chars := match text.toList with
    | '\uFEFF' :: rest => rest
    | chars => chars
  Reader.lines? (chars.length + 1) ⟨[], []⟩ chars

end ToolingHost.Toml

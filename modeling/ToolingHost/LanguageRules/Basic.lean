import ToolingHost.Json.Value
import ToolingHost.LanguageRules.Pattern

/-! # Editing rules

How a host is told to edit texts of a language, and what it is told for Kotlin. -/

/-! ## The form of the rules

The rules by which a host edits texts of a language: when a line is indented, what a word is, and
what a new line starts with. A host receives them as a JSON object. -/

namespace ToolingHost

namespace LanguageRules

open ToolingHost.Json

/-- What happens to the indentation of a new line. -/
inductive IndentAction where
  /-- It stays as it is. -/
  | keep
  /-- It grows. -/
  | indent
  /-- Two lines are added, the first with a greater indentation. -/
  | indentOutdent
  /-- It shrinks. -/
  | outdent
  deriving DecidableEq, Repr

/-- The name of an action for a host. -/
def IndentAction.name : IndentAction → String
  | .keep => "none"
  | .indent => "indent"
  | .indentOutdent => "indentOutdent"
  | .outdent => "outdent"

/-- What a new line starts with. -/
structure EnterAction where
  /-- The indentation. -/
  indentation : IndentAction
  /-- The text after the indentation. -/
  appendText : Option String
  /-- How many characters of the indentation are removed. -/
  removeText : Option Nat
  deriving DecidableEq, Repr

/-- An action that adds a text. -/
def EnterAction.append (indentation : IndentAction) (text : String) : EnterAction :=
  ⟨indentation, some text, none⟩

/-- An action that removes characters. -/
def EnterAction.remove (indentation : IndentAction) (count : Nat) : EnterAction :=
  ⟨indentation, none, some count⟩

/-- What happens when a new line is begun between two texts. -/
structure EnterRule where
  /-- The pattern of the text before the cursor. -/
  before : Pattern
  /-- The pattern of the text after the cursor, if it matters. -/
  after : Option Pattern
  /-- What happens. -/
  action : EnterAction
  deriving DecidableEq, Repr

end LanguageRules

open LanguageRules Json

/-- The editing rules of a language. -/
structure LanguageRules where
  /-- A line that matches has a smaller indentation than the one before. -/
  decreaseIndent : Pattern
  /-- The line after one that matches has a greater indentation. -/
  increaseIndent : Pattern
  /-- A word. -/
  word : Pattern
  /-- What new lines start with; the first rule that fits counts. -/
  enterRules : List EnterRule
  deriving DecidableEq, Repr

namespace LanguageRules

/-- The member for a value that may be missing. -/
def optionalMember {α : Type} (name : String) (value : α → Value) : Option α → Members
  | none => []
  | some a => [(name, value a)]

/-- A pattern for a host. -/
def Pattern.toValue (p : Pattern) : Value := .string p.render

/-- An action for a host. -/
def EnterAction.toValue (a : EnterAction) : Value :=
  .object ([("indentAction", .string a.indentation.name)] ++
    optionalMember "appendText" Value.string a.appendText ++
    optionalMember "removeText" (fun n : Nat => Value.int n) a.removeText)

/-- A rule for a host. -/
def EnterRule.toValue (r : EnterRule) : Value :=
  .object ([("beforeText", r.before.toValue)] ++
    optionalMember "afterText" Pattern.toValue r.after ++ [("action", r.action.toValue)])

/-- All rules for a host. -/
def toValue (rules : LanguageRules) : Value :=
  .object [
    ("indentationRules", .object [
      ("decreaseIndentPattern", rules.decreaseIndent.toValue),
      ("increaseIndentPattern", rules.increaseIndent.toValue)]),
    ("wordPattern", rules.word.toValue),
    ("onEnterRules", .array (rules.enterRules.map EnterRule.toValue))]

end LanguageRules

end ToolingHost

/-! ## The editing rules of Kotlin

Braces change the indentation, and a new line inside a documentation comment continues the comment.
A comment that is closed on its line is not continued, unless it is closed by an even number of
stars and a `/`. -/

namespace ToolingHost.LanguageRules.Kotlin

open Pattern

/-- The name of the language for a host. -/
def languageId : String := "kotlin"

/-- A line that closes a brace, perhaps after a comment. -/
def decreaseIndent : Pattern :=
  all [start, .optional (.group (all [anything, text "*/"])), blanks, char '\x7d', anything, finish]

/-- A line that opens a brace and does not close it. -/
def increaseIndent : Pattern :=
  all [start, anything, char '\x7b', .many (noneOf "\x7d\"'"), finish]

/-- The characters, blanks apart, that end a word. -/
def punctuation : List Char := "\x60~!@#%^&*()-=+[\x7b]\x7d\\|;:'\",.<>/?".toList

/-- A number with a fraction, or a run of characters other than punctuation. -/
def word : Pattern :=
  .either
    (.group (all [.optional (char '-'), .many (.one .digit), char '.', .one .digit,
      .many (.one .word)]))
    (.group (.many1 (.one (.noneOf punctuation true))))

/-- A text in which stars come with the character after them, which is no `/`. So it holds no `*` on
its own before a `/` or at the end, but it may hold two. -/
def openText : Pattern :=
  .many (.group (.either (noneOf "*") (.seq (char '*') (noneOf "/"))))

/-- The start of a documentation comment that is left open. -/
def commentOpen : Pattern :=
  all [start, blanks, text "/**", .optional (.group (.seq (noneOf "*/") openText)), finish]

/-- The end of a comment and nothing else. -/
def commentCloseAfter : Pattern := all [start, blanks, text "*/", finish]

/-- The indentation of a line inside a comment. -/
def commentIndent : Pattern :=
  all [start, .many (.group (.either (char '\t') (text "  "))), text " *"]

/-- A line inside a comment that does not close it. -/
def commentLine : Pattern :=
  all [commentIndent, .optional (.group (.seq (char ' ') openText)), finish]

/-- A line that only closes a comment. -/
def commentEnd : Pattern := all [commentIndent, char '/', blanks, finish]

/-- A line that closes a comment after some text. -/
def commentEndAfterText : Pattern :=
  all [commentIndent, .many (noneOf "/"), text "*/", blanks, finish]

/-- The editing rules of Kotlin. -/
def rules : LanguageRules where
  decreaseIndent := decreaseIndent
  increaseIndent := increaseIndent
  word := word
  enterRules := [
    ⟨commentOpen, some commentCloseAfter, .append .indentOutdent " * "⟩,
    ⟨commentOpen, none, .append .keep " * "⟩,
    ⟨commentLine, none, .append .keep "* "⟩,
    ⟨commentEnd, none, .remove .keep 1⟩,
    ⟨commentEndAfterText, none, .remove .keep 1⟩]

end ToolingHost.LanguageRules.Kotlin

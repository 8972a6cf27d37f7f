/-! # Patterns of editing rules

A host decides with regular expressions which line gets which rule. Here a pattern is a tree, and
`Pattern.source` writes the expression that a host compiles. A character that has a meaning in
expressions is written with a backslash where it stands for itself. -/

namespace ToolingHost.LanguageRules

/-- A set of characters, one of which is matched. -/
inductive CharSet where
  /-- Every character but the end of a line. -/
  | any
  /-- The blank characters. -/
  | blank
  /-- The decimal digits. -/
  | digit
  /-- The characters of words. -/
  | word
  /-- One character. -/
  | only (c : Char)
  /-- Every character that is not listed and, if `orBlank` holds, not blank. -/
  | noneOf (chars : List Char) (orBlank : Bool)
  deriving DecidableEq, Repr

/-- A pattern. -/
inductive Pattern where
  /-- The empty text. -/
  | empty
  /-- The start of the text. -/
  | start
  /-- The end of the text. -/
  | finish
  /-- One character of a set. -/
  | one (set : CharSet)
  /-- One pattern after the other. -/
  | seq (first second : Pattern)
  /-- One of two patterns. -/
  | either (left right : Pattern)
  /-- A pattern in parentheses. -/
  | group (body : Pattern)
  /-- A pattern or nothing. -/
  | optional (body : Pattern)
  /-- A pattern any number of times. -/
  | many (body : Pattern)
  /-- A pattern at least once. -/
  | many1 (body : Pattern)
  deriving DecidableEq, Repr

/-- The characters that have a meaning outside sets. -/
def special : List Char :=
  ['\\', '.', '+', '*', '?', '(', ')', '|', '[', ']', '\x7b', '\x7d', '^', '$']

/-- The characters that have a meaning inside sets. -/
def specialInSet : List Char := ['\\', '[', ']', '-']

/-- A character outside sets. -/
def escape (c : Char) : List Char :=
  if c = '\t' then ['\\', 't'] else if special.contains c then ['\\', c] else [c]

/-- A character inside a set. -/
def escapeInSet (c : Char) : List Char := if specialInSet.contains c then ['\\', c] else [c]

/-- The written form of a set. -/
def CharSet.source : CharSet → List Char
  | .any => ['.']
  | .blank => ['\\', 's']
  | .digit => ['\\', 'd']
  | .word => ['\\', 'w']
  | .only c => escape c
  | .noneOf chars orBlank =>
    ['[', '^'] ++ chars.flatMap escapeInSet ++ (if orBlank then ['\\', 's'] else []) ++ [']']

namespace Pattern

/-- The written form of a pattern. -/
def source : Pattern → List Char
  | .empty => []
  | .start => ['^']
  | .finish => ['$']
  | .one set => set.source
  | .seq first second => first.source ++ second.source
  | .either left right => left.source ++ '|' :: right.source
  | .group body => '(' :: (body.source ++ [')'])
  | .optional body => body.source ++ ['?']
  | .many body => body.source ++ ['*']
  | .many1 body => body.source ++ ['+']

/-- The written form of a pattern as a text. -/
def render (p : Pattern) : String := String.ofList p.source

/-- A character that stands for itself. -/
def char (c : Char) : Pattern := .one (.only c)

/-- Several patterns one after the other. -/
def all (parts : List Pattern) : Pattern := parts.foldr .seq .empty

/-- A text that stands for itself. -/
def text (s : String) : Pattern := all (s.toList.map char)

/-- Any of the characters that are not in a text. -/
def noneOf (s : String) : Pattern := .one (.noneOf s.toList false)

/-- Any text within a line. -/
def anything : Pattern := .many (.one .any)

/-- Any number of blank characters. -/
def blanks : Pattern := .many (.one .blank)

/-- Patterns in sequence are written one after the other. -/
@[simp] theorem source_all (parts : List Pattern) : (all parts).source = parts.flatMap source := by
  induction parts with
  | nil => rfl
  | cons p rest ih => simpa [all, source] using ih

end Pattern

end ToolingHost.LanguageRules

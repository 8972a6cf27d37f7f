import ToolingHost.Log.Record
import ToolingHost.Text.Classes

/-! # Log filters

A filter says up to which verbosity the records of each part of the program are kept. It is written
as directives with commas between them: a level for everything, `target=level` for the parts whose
names start with `target`, or a target alone, of which everything is kept. The longest target that
fits a record decides, and what no directive fits is dropped. -/

namespace ToolingHost.Log

/-- One directive of a filter. -/
structure Directive where
  /-- What the names of the parts of the program start with. -/
  target : String
  /-- The greatest verbosity that is kept; zero keeps nothing. -/
  bound : Nat
  deriving DecidableEq, Repr

/-- Which records are kept. Later directives come first. -/
structure Filter where
  /-- The directives. -/
  directives : List Directive
  deriving DecidableEq, Repr

namespace Filter

/-- The names of the levels with their verbosity. -/
def levelNames : List (String × Nat) :=
  [("off", 0), ("error", Level.error.verbosity), ("warn", Level.warn.verbosity),
    ("info", Level.info.verbosity), ("debug", Level.debug.verbosity),
    ("trace", Level.trace.verbosity)]

/-- The verbosity of everything. -/
def everything : Nat := Level.trace.verbosity

/-- The number that digits write, with an optional `+` before them. -/
def number? (chars : List Char) : Option Nat :=
  let digits := if chars.head? = some '+' then chars.drop 1 else chars
  if !digits.isEmpty && digits.all Char.isDigit then
    some (digits.foldl (fun n c => n * 10 + (c.toNat - '0'.toNat)) 0)
  else none

/-- The verbosity that a level stands for: its name in any case of letters, or its number. -/
def level? (chars : List Char) : Option Nat :=
  match number? chars with
  | some n => if n ≤ everything then some n else none
  | none => levelNames.lookup (String.ofList (chars.map Char.toLower))

/-- Whether a character may be the first of a directive: letters, digits, and `-`, `:` and `_`. -/
def startsDirective (c : Char) : Bool :=
  Text.isAlphanumeric c || c == '-' || c == ':' || c == '_'

/-- Whether a character begins a form that filters do not have here. -/
def isReserved (c : Char) : Bool := c == '['

/-- The directive that a text stands for. A directive with a level has no blank before it. -/
def directive? (chars : List Char) : Option Directive :=
  match Text.trim chars with
  | [] => none
  | first :: _ =>
    if !startsDirective first || chars.any isReserved then none
    else
      let target := String.ofList (chars.takeWhile (· != '='))
      match chars.dropWhile (· != '=') with
      | [] =>
        match level? chars with
        | some bound => some ⟨"", bound⟩
        | none => some ⟨target, everything⟩
      | _ :: level =>
        if chars.head? != some first then none
        else if level.isEmpty then some ⟨target, everything⟩
        else (level? level).map (Directive.mk target)

/-- The parts between commas. -/
def pieces : List Char → List (List Char)
  | [] => [[]]
  | c :: rest =>
    if c = ',' then [] :: pieces rest
    else
      match pieces rest with
      | [] => [[c]]
      | piece :: more => (c :: piece) :: more

/-- The filter of a list of directives; without any it keeps errors. Directives count from the last
one. -/
def ofDirectives (directives : List Directive) : Filter :=
  if directives.isEmpty then ⟨[⟨"", Level.error.verbosity⟩]⟩ else ⟨directives.reverse⟩

/-- The filter that a text stands for, if all its directives are valid. Between two commas there may
be nothing at all. -/
def parse? (s : String) : Option Filter :=
  (((pieces s.toList).filter fun piece => !piece.isEmpty).mapM directive?).map ofDirectives

/-- The filter where none is given. -/
def usual : Filter := ⟨[⟨"", Level.info.verbosity⟩]⟩

/-- Whether a directive is about a part of the program. -/
def fits (target : String) (d : Directive) : Bool := d.target.toList.isPrefixOf target.toList

/-- The more specific of two directives; of equally specific ones the first. -/
def sharper (a b : Directive) : Directive := if a.target.length < b.target.length then b else a

/-- The directive that decides about a part of the program. -/
def decisive? (f : Filter) (target : String) : Option Directive :=
  match f.directives.filter (fits target) with
  | [] => none
  | d :: rest => some (rest.foldl sharper d)

/-- Whether a record is kept. -/
def keeps (f : Filter) (r : Record) : Bool :=
  (f.decisive? r.target).any fun d => r.level.verbosity ≤ d.bound

/-- The filter of a run: the one that is asked for, if it is valid, else that of the settings, if it
is valid, else the usual one. -/
def choose (asked configured : Option String) : Filter :=
  ((asked.bind parse?).orElse fun _ => configured.bind parse?).getD usual

/-- The usual filter keeps what is at most as verbose as the normal course of events. -/
theorem keeps_usual (r : Record) : usual.keeps r = decide (r.level.verbosity ≤ 3) := by
  simp [keeps, decisive?, usual, fits, Level.verbosity]

end Filter

end ToolingHost.Log

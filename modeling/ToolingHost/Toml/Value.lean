/-! # TOML documents as trees

A document is a tree of tables. Every table remembers how it came about, because that decides what
may still be added to it: a table with a header of its own, a table implied by a longer header, a
table to which a dotted key leads, or one written in braces. -/

namespace ToolingHost.Toml

/-- How a table came about. -/
inductive Origin where
  /-- It has a header of its own, or is the document itself. -/
  | header
  /-- It is implied by a longer header. -/
  | implied
  /-- A dotted key leads through it or into it. -/
  | dotted
  /-- It was written in braces. -/
  | braces
  deriving DecidableEq, Repr

/-- A value. Numbers and dates keep their spelling. -/
inductive Value where
  /-- A text. -/
  | string (s : String)
  /-- An integer of any size. -/
  | integer (spelling : String)
  /-- A floating-point number. -/
  | float (spelling : String)
  /-- A truth value. -/
  | boolean (b : Bool)
  /-- A date, a time, or both. -/
  | dateTime (spelling : String)
  /-- A list of values. -/
  | array (items : List Value)
  /-- A list of named values. -/
  | table (origin : Origin) (members : List (String × Value))
  /-- The tables with one repeated header, the last one first. -/
  | tables (items : List (List (String × Value)))
  deriving Repr, Inhabited

/-- The members of a table, in order of appearance; each key occurs once. -/
abbrev Members := List (String × Value)

namespace Members

/-- The value of a key. -/
def get? (members : Members) (key : String) : Option Value := members.lookup key

/-- Replaces the value of a key that is there. -/
def replace (key : String) (value : Value) : Members → Members
  | [] => []
  | (k, v) :: rest => if k = key then (k, value) :: rest else (k, v) :: replace key value rest

/-- Adds a key that is not there yet. -/
def add? (key : String) (value : Value) (members : Members) : Option Members :=
  match get? members key with
  | some _ => none
  | none => some (members ++ [(key, value)])

/-- How a table on the way of a path came about from now on: a dotted key claims a table that was
only implied. -/
def claim (dotted : Bool) (origin : Origin) : Origin :=
  if dotted ∧ origin = .implied then .dotted else origin

/-- Changes the table at the end of a path. Tables on the way that are missing are made, by a dotted
key or implied by a header. A repeated header leads to its last table. Nothing can be added to a
table in braces or to another value, and a dotted key cannot pass through a table with a header of
its own. -/
def updateAt? (dotted : Bool) (change : Origin → Members → Option Members) :
    List String → Origin → Members → Option Members
  | [], origin, members => change origin members
  | key :: rest, _, members =>
    match get? members key with
    | none =>
      let made := if dotted then Origin.dotted else Origin.implied
      (updateAt? dotted change rest made []).map fun inner => members ++ [(key, .table made inner)]
    | some (.table origin inner) =>
      if origin = .braces ∨ (dotted ∧ origin = .header) then none
      else
        let origin := claim dotted origin
        (updateAt? dotted change rest origin inner).map fun inner =>
          replace key (.table origin inner) members
    | some (.tables items) =>
      match items with
      | [] => none
      | inner :: before =>
        (updateAt? dotted change rest .header inner).map fun inner =>
          replace key (.tables (inner :: before)) members
    | some _ => none

/-- Sets a dotted key. The table that receives the value must be the one the key starts from, or one
that belongs to dotted keys. -/
def assign? (path : List String) (key : String) (value : Value) (origin : Origin)
    (members : Members) : Option Members :=
  let set (origin : Origin) (members : Members) : Option Members :=
    if (origin == .dotted) == path.isEmpty then none else add? key value members
  updateAt? true set path origin members

/-- Opens the table of a header below the table that holds it: a new one, or one that is only
implied so far. -/
def openTable? (key : String) (members : Members) : Option Members :=
  match get? members key with
  | none => some (members ++ [(key, .table .header [])])
  | some (.table .implied inner) => some (replace key (.table .header inner) members)
  | some _ => none

/-- Opens a further table of a repeated header. -/
def openRepeated? (key : String) (members : Members) : Option Members :=
  match get? members key with
  | none => some (members ++ [(key, .tables [[]])])
  | some (.tables items) => some (replace key (.tables ([] :: items)) members)
  | some _ => none

/-- A table has no key before one is added. -/
@[simp] theorem get?_nil (key : String) : get? [] key = none := rfl

end Members

end ToolingHost.Toml

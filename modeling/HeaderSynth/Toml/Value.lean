/-!
# TOML values

A document is a table.  Tables remember how they came about, because that decides
what may still be added to them.
-/

namespace HeaderSynth.Toml

/-- How a table came about. -/
inductive Origin where
  /-- By a header of its own. -/
  | header
  /-- By a header of a table inside it. -/
  | implied
  /-- By a dotted key. -/
  | dotted
  /-- In braces; nothing can be added to it. -/
  | inline
deriving DecidableEq, Repr

inductive Value where
  | text (content : String)
  | truth (value : Bool)
  | number
  /-- A date, a time or both. -/
  | moment
  | list (items : List Value)
  | table (origin : Origin) (entries : List (String × Value))
  /-- The tables under a repeated header. -/
  | tables (elements : List (List (String × Value)))
deriving Repr, Inhabited

/-- The keys and values of a table. -/
abbrev Entries := List (String × Value)

namespace Entries

/-- Changes the value of a key, or adds the key at the end. -/
def put (key : String) (value : Value) : Entries → Entries
  | [] => [(key, value)]
  | entry :: rest => if entry.1 = key then (key, value) :: rest else entry :: put key value rest

/-- Puts `value` under a dotted key.  The tables on the way come about by dotted keys
only, and so does the table that receives the value.  `top` says that no part of the
key stands before. -/
def insertDotted (value : Value) (top : Bool) (origin : Origin) :
    List String → String → Entries → Option Entries
  | [], key, entries =>
    if decide (origin = .dotted) = top then none
    else if (entries.lookup key).isSome then none
    else some (entries ++ [(key, value)])
  | part :: path, key, entries =>
    match entries.lookup part with
    | none => do
      let inner ← insertDotted value false .dotted path key []
      return entries.put part (.table .dotted inner)
    | some (.table .dotted inner) => do
      let inner ← insertDotted value false .dotted path key inner
      return entries.put part (.table .dotted inner)
    | some (.table .implied inner) => do
      let inner ← insertDotted value false .implied path key inner
      return entries.put part (.table .implied inner)
    | some (.tables elements) => do
      let inner ← insertDotted value false .header path key (← elements.getLast?)
      return entries.put part (.tables (elements.dropLast ++ [inner]))
    | some _ => none

/-- Follows the keys of a header, creates the tables on the way that are missing, and
changes the entries of the last one.  Of repeated tables the last is meant. -/
def descend (change : Entries → Option Entries) : List String → Entries → Option Entries
  | [], entries => change entries
  | part :: path, entries =>
    match entries.lookup part with
    | none => do return entries.put part (.table .implied (← descend change path []))
    | some (.table .inline _) => none
    | some (.table origin inner) => do
      return entries.put part (.table origin (← descend change path inner))
    | some (.tables elements) => do
      let inner ← descend change path (← elements.getLast?)
      return entries.put part (.tables (elements.dropLast ++ [inner]))
    | some _ => none

/-- Begins the table of a header.  It can have come about only by headers of tables
inside it. -/
def openTable (key : String) (entries : Entries) : Option Entries :=
  match entries.lookup key with
  | none => some (entries.put key (.table .header []))
  | some (.table .implied inner) => some (entries.put key (.table .header inner))
  | some _ => none

/-- Begins the next table of a repeated header. -/
def openElement (key : String) (entries : Entries) : Option Entries :=
  match entries.lookup key with
  | none => some (entries.put key (.tables [[]]))
  | some (.tables elements) => some (entries.put key (.tables (elements ++ [[]])))
  | some _ => none

end Entries

end HeaderSynth.Toml

/-!
# TOML values

The values of TOML documents and how tables are filled. The text of strings is kept; numbers,
booleans and times are told from them, and nothing more. A table remembers how it came to be,
because that decides in which ways it may still be added to.
-/

namespace CodecGen

/-- How a table came to be. -/
inductive TableOrigin where
  /-- By its own header. -/
  | header
  /-- By the header of a table inside it. -/
  | implied
  /-- By a key with dots. -/
  | dotted
  /-- Between braces. -/
  | inline
  deriving DecidableEq, Repr, Inhabited

/-- A TOML value. -/
inductive Toml where
  | string (s : String)
  /-- A number, a boolean or a time. -/
  | scalar
  | array (items : List Toml)
  | table (origin : TableOrigin) (entries : List (String × Toml))
  /-- The tables made by headers in double brackets. -/
  | tables (all : List (List (String × Toml)))
  deriving Repr, Inhabited

namespace Toml

/-- The entries of a table. -/
abbrev Entries := List (String × Toml)

/-- Change the value of a key, or add one. -/
def alter? (key : String) (f : Option Toml → Option Toml) : Entries → Option Entries
  | [] => (f none).map fun v => [(key, v)]
  | (k, v) :: rest =>
    if k = key then (f (some v)).map fun v => (k, v) :: rest
    else (alter? key f rest).map ((k, v) :: ·)

/-- Change the last of some tables. -/
def alterLast? (f : Entries → Option Entries) : List Entries → Option (List Entries)
  | [] => none
  | [t] => (f t).map fun t => [t]
  | t :: ts => (alterLast? f ts).map (t :: ·)

/-- Change the table that a header names, through tables that need no header of their own. -/
def within? : List String → (Entries → Option Entries) → Entries → Option Entries
  | [], f, es => f es
  | key :: keys, f, es =>
    es |> alter? key fun
      | none => (within? keys f []).map (.table .implied)
      | some (.table .inline _) => none
      | some (.table origin es) => (within? keys f es).map (.table origin)
      | some (.tables all) => (alterLast? (within? keys f) all).map .tables
      | some _ => none

/-- Add a new entry. -/
def add? (key : String) (v : Toml) : Entries → Option Entries :=
  alter? key fun
    | none => some v
    | some _ => none

/-- Add an entry under a key with dots before it. The table it goes to must come from such keys
alone. -/
def addDotted? : List String → String → Toml → Entries → Option Entries
  | [], key, v, es => add? key v es
  | k :: ks, key, v, es =>
    es |> alter? k fun
      | none => (addDotted? ks key v []).map (.table .dotted)
      | some (.table .dotted es) => (addDotted? ks key v es).map (.table .dotted)
      | some (.table .implied es) =>
        if ks.isEmpty then none else (addDotted? ks key v es).map (.table .implied)
      | some (.tables all) =>
        if ks.isEmpty then none else (alterLast? (addDotted? ks key v) all).map .tables
      | some _ => none

/-- Begin a table by its header. It may have been implied before. -/
def beginTable? (key : String) : Entries → Option Entries :=
  alter? key fun
    | none => some (.table .header [])
    | some (.table .implied es) => some (.table .header es)
    | some _ => none

/-- Begin one more table of a row of tables. -/
def beginTables? (key : String) : Entries → Option Entries :=
  alter? key fun
    | none => some (.tables [[]])
    | some (.tables all) => some (.tables (all ++ [[]]))
    | some _ => none

end Toml

end CodecGen

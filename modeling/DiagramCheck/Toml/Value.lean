/-!
# TOML values

The values of a configuration file, and the rules by which its lines build up one table. A key is
given once, and a table is opened once: `insert` puts a value under a dotted key, and `updateAt`
changes what stands at the end of a header's path. Both say no where the file contradicts itself.

A table remembers how it came to be (`TableForm`), because that decides what may still be added to
it: nothing to a table in braces, to a table with a header not through dotted keys, and to a table
on the path of a dotted key not through a header of its own.
-/

namespace DiagramCheck.Toml

/-- How a table came to be. -/
inductive TableForm
  /-- It has a header of its own. -/
  | header
  /-- It stands on the path of another table's header. -/
  | implied
  /-- It stands on the path of a dotted key. -/
  | dotted
  /-- It is written in braces. -/
  | inline
  deriving DecidableEq

/-- The values of a configuration file. -/
inductive Value
  /-- A truth value. -/
  | boolean (b : Bool)
  /-- A whole number. -/
  | integer (n : Int)
  /-- A decimal fraction, as it is written. -/
  | fraction (written : String)
  /-- A date, a time or both, as they are written. -/
  | dateTime (written : String)
  /-- A text. -/
  | text (s : String)
  /-- A list of values in brackets. -/
  | array (elements : List Value)
  /-- A table. -/
  | table (form : TableForm) (entries : List (String × Value))
  /-- The tables of a header in double brackets, in order. -/
  | tables (elements : List (List (String × Value)))

/-- The entries of a table, in the order in which they were given. -/
abbrev Entries := List (String × Value)

/-! ## Whole numbers -/

/-- Whether a whole number has at most 64 bits, with a sign or without. -/
def isShortInteger (n : Int) : Bool :=
  -0x8000000000000000 ≤ n && n ≤ 0xFFFFFFFFFFFFFFFF

/-- Whether a whole number has at most 128 bits, with a sign or without. -/
def isLongInteger (n : Int) : Bool :=
  -0x80000000000000000000000000000000 ≤ n && n ≤ 0xFFFFFFFFFFFFFFFFFFFFFFFFFFFFFFFF

mutual

/-- The whole numbers in a value. -/
def Value.integers : Value → List Int
  | .boolean _ => []
  | .integer n => [n]
  | .fraction _ => []
  | .dateTime _ => []
  | .text _ => []
  | .array elements => integersOfArray elements
  | .table _ entries => Entries.integers entries
  | .tables elements => integersOfTables elements

/-- The whole numbers in the elements of an array. -/
def integersOfArray : List Value → List Int
  | [] => []
  | value :: others => value.integers ++ integersOfArray others

/-- The whole numbers in the entries of a table. -/
def Entries.integers : List (String × Value) → List Int
  | [] => []
  | (_, value) :: others => value.integers ++ Entries.integers others

/-- The whole numbers in tables that are listed. -/
def integersOfTables : List (List (String × Value)) → List Int
  | [] => []
  | entries :: others => Entries.integers entries ++ integersOfTables others

end

/-! ## Tables -/

namespace Entries

/-- Changes the value under a key that is present. -/
def replace (key : String) (value : Value) (entries : Entries) : Entries :=
  entries.map fun e => if e.1 == key then (e.1, value) else e

/-- Changes the last of the tables that are listed. -/
def changeLast (change : Entries → Option Entries) (elements : List Entries) :
    Option (List Entries) :=
  match elements.getLast? with
  | none => none
  | some last => (change last).map fun last => elements.dropLast ++ [last]

/-- Puts a value under the dotted key `key.more`. It is refused when the key is taken, or when it
leads through something that dotted keys cannot extend. Tables on the way that headers have implied
come to stand on the path of a dotted key. Where tables are listed, the key goes on in the last one,
but it does not end there. -/
def insert (key : String) (more : List String) (value : Value) (entries : Entries) :
    Option Entries :=
  match more with
  | [] =>
    match entries.lookup key with
    | none => some (entries ++ [(key, value)])
    | some _ => none
  | next :: others =>
    match entries.lookup key with
    | none =>
      (insert next others value []).map fun inner => entries ++ [(key, .table .dotted inner)]
    | some (.table .dotted inner) =>
      (insert next others value inner).map fun inner => entries.replace key (.table .dotted inner)
    | some (.table .implied inner) =>
      (insert next others value inner).map fun inner => entries.replace key (.table .dotted inner)
    | some (.tables elements) =>
      if others.isEmpty then none
      else
        (changeLast (fun last => insert next others value last) elements).map fun elements =>
          entries.replace key (.tables elements)
    | some _ => none

/-- Changes the table at the end of a header's path. Tables that are missing on the way are made,
and where tables are listed the path goes on in the last one. -/
def updateAt (path : List String) (change : Entries → Option Entries) (entries : Entries) :
    Option Entries :=
  match path with
  | [] => change entries
  | key :: others =>
    match entries.lookup key with
    | none =>
      (updateAt others change []).map fun inner => entries ++ [(key, .table .implied inner)]
    | some (.table .inline _) => none
    | some (.table form inner) =>
      (updateAt others change inner).map fun inner => entries.replace key (.table form inner)
    | some (.tables elements) =>
      (changeLast (fun last => updateAt others change last) elements).map fun elements =>
        entries.replace key (.tables elements)
    | some _ => none

end Entries

end DiagramCheck.Toml

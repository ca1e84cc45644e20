import DiagramCheck.Toml.Scalar

/-!
# TOML documents

`Toml.parse` reads a configuration file into its top-level table: keys with values, which are bare
words, texts, arrays and tables in braces, below headers in single and double brackets. It answers
nothing where the file is not well formed or contradicts itself.

A file is a list of statements: headers, and lines that give a key its value. Those under one header
form a section, and the sections are put into the file's table one after the other.

A key has at most `depthLimit` parts, and brackets and braces are nested at most that deep in a
value. The recursion of the readers is bounded by another number: of two steps in a row at least one
takes a character, so `stepLimit` is always enough.
-/

namespace DiagramCheck.Toml

/-! ## Values -/

/-- More steps than a reader can take on the given characters. -/
def stepLimit (cs : List Char) : Nat :=
  2 * cs.length + 2

/-- How many parts a key may have, and how deep brackets and braces may be nested. -/
def depthLimit : Nat :=
  80

mutual

/-- Reads a value, in which brackets and braces may be nested as deep as `depth` says. -/
def value? : Nat → Nat → List Char → Option (Value × List Char)
  | 0, _, _ => none
  | limit + 1, depth, cs =>
    match depth, cs with
    | depth + 1, '[' :: rest => (elements? limit depth rest).map fun r => (.array r.1, r.2)
    | depth + 1, '\x7b' :: rest =>
      (fields? limit depth [] rest).map fun r => (.table .inline r.1, r.2)
    | _, '\x22' :: _ => (text? cs).map fun r => (.text r.1, r.2)
    | _, '\x27' :: _ => (text? cs).map fun r => (.text r.1, r.2)
    | _, cs => (word? (bareWord cs).1).map fun v => (v, (bareWord cs).2)

/-- Reads the elements of an array up to its closing bracket. -/
def elements? : Nat → Nat → List Char → Option (List Value × List Char)
  | 0, _, _ => none
  | limit + 1, depth, cs => do
    match ← skipFiller false cs with
    | ']' :: rest => some ([], rest)
    | cs =>
      let (value, rest) ← value? limit depth cs
      match ← skipFiller false rest with
      | ',' :: rest =>
        let (others, rest) ← elements? limit depth rest
        some (value :: others, rest)
      | ']' :: rest => some ([value], rest)
      | _ => none

/-- Reads the entries of a table in braces up to the closing one, and adds them to those before.
Lines may end anywhere between its keys, signs and values. -/
def fields? : Nat → Nat → Entries → List Char → Option (Entries × List Char)
  | 0, _, _, _ => none
  | limit + 1, depth, entries, cs => do
    match ← skipFiller false cs with
    | '\x7d' :: rest => some (entries, rest)
    | cs =>
      let (key, more, rest) ← dottedKey? depthLimit cs
      match ← skipFiller false rest with
      | '=' :: rest =>
        let (value, rest) ← value? limit depth (← skipFiller false rest)
        let entries ← entries.insert key more value
        match ← skipFiller false rest with
        | ',' :: rest => fields? limit depth entries rest
        | '\x7d' :: rest => some (entries, rest)
        | _ => none
      | _ => none

end

/-! ## Statements -/

/-- A line that gives a key its value. -/
structure Assignment where
  /-- The first part of the key. -/
  key : String
  /-- The other parts of the key. -/
  more : List String
  /-- The value. -/
  value : Value

/-- The header that a section of the file stands under. -/
inductive Header
  /-- None: the section opens the file. -/
  | root
  /-- A header in single brackets, which opens the table at the end of a path. -/
  | table (path : List String) (key : String)
  /-- A header in double brackets, which opens one more table of a list. -/
  | element (path : List String) (key : String)

/-- A header, or a line that gives a key its value. -/
inductive Statement
  /-- A header. -/
  | header (header : Header)
  /-- A line that gives a key its value. -/
  | assignment (assignment : Assignment)

/-- The path and the last part of a dotted key. -/
def splitKey (key : String) (more : List String) : List String × String :=
  ((key :: more).dropLast, (key :: more).getLast (List.cons_ne_nil key more))

/-- Reads a header between its brackets. -/
def header? (cs : List Char) : Option (Header × List Char) :=
  match cs with
  | '[' :: '[' :: rest =>
    match dottedKey? depthLimit rest with
    | some (key, more, ']' :: ']' :: rest) =>
      some (.element (splitKey key more).1 (splitKey key more).2, rest)
    | _ => none
  | '[' :: rest =>
    match dottedKey? depthLimit rest with
    | some (key, more, ']' :: rest) =>
      some (.table (splitKey key more).1 (splitKey key more).2, rest)
    | _ => none
  | _ => none

/-- Reads a key, an equals sign and a value. -/
def assignment? (cs : List Char) : Option (Assignment × List Char) :=
  match dottedKey? depthLimit cs with
  | some (key, more, '=' :: rest) =>
    (value? (stepLimit rest) depthLimit (skipLineBlanks rest)).map fun r =>
      (⟨key, more, r.1⟩, r.2)
  | _ => none

/-- Reads a statement. -/
def statement? (cs : List Char) : Option (Statement × List Char) :=
  if cs.head? = some '[' then (header? cs).map fun r => (.header r.1, r.2)
  else (assignment? cs).map fun r => (.assignment r.1, r.2)

/-- Reads the statements of a file, each on a line of its own. -/
def statements? : Nat → List Char → Option (List Statement)
  | 0, _ => none
  | limit + 1, cs => do
    match ← skipFiller false cs with
    | [] => some []
    | cs =>
      let (statement, rest) ← statement? cs
      let others ← statements? limit (← lineEnd rest)
      some (statement :: others)

/-! ## Sections -/

/-- The sections of a file, the first of which stands under the given header. -/
def sections (header : Header) : List Statement → List (Header × List Assignment)
  | [] => [(header, [])]
  | .header next :: others => (header, []) :: sections next others
  | .assignment a :: others =>
    match sections header others with
    | [] => []
    | (header, assignments) :: following => (header, a :: assignments) :: following

/-- Adds the entries that assignments make. -/
def Entries.assign (entries : Entries) (assignments : List Assignment) : Option Entries :=
  assignments.foldlM (fun entries a => entries.insert a.key a.more a.value) entries

/-- Puts a section into the file's table. A header in single brackets may stand for a table that
other headers have implied, but for no table that has been opened. -/
def Entries.place (root : Entries) (header : Header) (assignments : List Assignment) :
    Option Entries :=
  match header with
  | .root => root.assign assignments
  | .table path key =>
    root.updateAt path fun parent =>
      match parent.lookup key with
      | none =>
        (Entries.assign [] assignments).map fun inner => parent ++ [(key, .table .header inner)]
      | some (.table .implied implied) =>
        (Entries.assign implied assignments).map fun inner =>
          parent.replace key (.table .header inner)
      | some _ => none
  | .element path key =>
    root.updateAt path fun parent =>
      match parent.lookup key with
      | none => (Entries.assign [] assignments).map fun inner => parent ++ [(key, .tables [inner])]
      | some (.tables elements) =>
        (Entries.assign [] assignments).map fun inner =>
          parent.replace key (.tables (elements ++ [inner]))
      | some _ => none

/-- The top-level table of a file, if the file is well formed. A byte order mark may open it. -/
def parse (text : String) : Option Entries :=
  let cs := if text.toList.head? = some '\ufeff' then text.toList.tail else text.toList
  match statements? (stepLimit cs) cs with
  | none => none
  | some statements =>
    (sections .root statements).foldlM (fun root s => root.place s.1 s.2) ([] : Entries)

end DiagramCheck.Toml

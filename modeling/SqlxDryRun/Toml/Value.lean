/-!
# TOML values and tables

A table is a list of keys with values. Each table remembers where it comes from, since that decides
who may still add to it:

* a table of a header `[a]` may not be named by a second header;
* a table that only lies on the path of a header may still get a header of its own;
* a table made by a dotted key takes further dotted keys, but no header;
* an inline table is complete.
-/

namespace SqlxDryRun.Toml

/-- Where a table comes from. -/
inductive Origin where
  | header
  | path
  | dotted
  | inline
deriving DecidableEq, Repr, Inhabited

/-- A value. Of floating point numbers and of dates and times only the kind is kept. -/
inductive Value where
  | string (s : String)
  | integer (n : Int)
  | boolean (b : Bool)
  | float
  | moment
  | array (items : List Value)
  | table (origin : Origin) (entries : List (String × Value))
  /-- The tables of headers of the form `[[a]]`. -/
  | tables (items : List (List (String × Value)))
deriving Inhabited

/-- The keys of a table with their values. -/
abbrev Entries := List (String × Value)

namespace Entries

/-- The entries with a key given a value: in its place if it is there, else at the end. -/
def set (entries : Entries) (key : String) (v : Value) : Entries :=
  if (entries.lookup key).isSome then
    entries.map fun e => if e.1 == key then (key, v) else e
  else entries ++ [(key, v)]

/-- The entries with one more key. Refused if the key is there already. -/
def add? (entries : Entries) (key : String) (v : Value) : Option Entries :=
  if (entries.lookup key).isSome then none else some (entries ++ [(key, v)])

/-- The entries after `path.key = v`. Tables on the path are made as needed; the last of them must
be one made by a dotted key. -/
def assign? (key : String) (v : Value) : (path : List String) → Entries → Option Entries
  | [], entries => entries.add? key v
  | name :: path, entries =>
    match entries.lookup name with
    | none => do
      let inner ← assign? key v path []
      some (entries ++ [(name, .table .dotted inner)])
    | some (.table .dotted inner) => do
      let inner ← assign? key v path inner
      some (entries.set name (.table .dotted inner))
    | some (.table .path inner) =>
      if path.isEmpty then none
      else do
        let inner ← assign? key v path inner
        some (entries.set name (.table .path inner))
    | some (.tables items) =>
      match path.isEmpty, items.getLast? with
      | false, some inner => do
        let inner ← assign? key v path inner
        some (entries.set name (.tables (items.dropLast ++ [inner])))
      | _, _ => none
    | some _ => none

/-- The entries after the value at the end of a header's path was changed. Tables on the path are
made as needed; of tables of the form `[[a]]` the last one is entered. -/
def change? (f : Option Value → Option Value) : (path : List String) → Entries → Option Entries
  | [], _ => none
  | [name], entries => do
    some (entries.set name (← f (entries.lookup name)))
  | name :: path, entries =>
    match entries.lookup name with
    | none => do
      let inner ← change? f path []
      some (entries ++ [(name, .table .path inner)])
    | some (.table .inline _) => none
    | some (.table origin inner) => do
      let inner ← change? f path inner
      some (entries.set name (.table origin inner))
    | some (.tables items) =>
      match items.getLast? with
      | some inner => do
        let inner ← change? f path inner
        some (entries.set name (.tables (items.dropLast ++ [inner])))
      | none => none
    | some _ => none

end Entries

/-- One assignment: the keys before the last one, the last key, and the value. -/
structure Assignment where
  path : List String
  key : String
  value : Value
deriving Inhabited

/-- The entries after some assignments. -/
def Entries.assignAll? (entries : Entries) (assignments : List Assignment) : Option Entries :=
  assignments.foldlM (fun es a => es.assign? a.key a.value a.path) entries

/-- What stands over a group of assignments: nothing at the beginning of a document, a header, or a
header in double brackets. -/
inductive Heading where
  | none
  | table (path : List String)
  | tables (path : List String)
deriving Inhabited

/-- A heading and the assignments under it. -/
structure Section where
  heading : Heading
  assignments : List Assignment
deriving Inhabited

/-- The document's entries after one more section. -/
def Entries.addSection? (root : Entries) (s : Section) : Option Entries :=
  match s.heading with
  | .none => root.assignAll? s.assignments
  | .table path =>
    root.change? (fun
      | .none => (Entries.assignAll? [] s.assignments).map (.table .header)
      | some (.table .path entries) =>
        (Entries.assignAll? entries s.assignments).map (.table .header)
      | some _ => .none) path
  | .tables path =>
    root.change? (fun
      | .none => (Entries.assignAll? [] s.assignments).map fun es => .tables [es]
      | some (.tables items) =>
        (Entries.assignAll? [] s.assignments).map fun es => .tables (items ++ [es])
      | some _ => .none) path

end SqlxDryRun.Toml

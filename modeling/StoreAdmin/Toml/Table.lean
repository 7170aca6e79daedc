import StoreAdmin.Toml.Statement

/-!
# TOML tables

Statements fill tables. No key is given twice, and a table is described in one place: what a header
opened is not extended by dotted keys, what dotted keys made is not opened by a header, and an
inline table is complete. Only a table that is merely on the way to another one may still be opened.
-/

namespace StoreAdmin.Toml

/-- How a table came to be. -/
inductive Origin where
  /-- On the way to a table that a header opened. -/
  | implied
  | header
  | dottedKey
  | inline
  deriving DecidableEq

/-- A value. -/
inductive Value where
  | text (s : String)
  | scalar (s : Scalar)
  | array (items : List Value)
  | table (origin : Origin) (entries : List (String × Value))
  /-- A list of tables that headers opened. It is never empty. -/
  | tables (items : List (List (String × Value)))

/-- The entries of a table in the order in which they were made. -/
abbrev Entries := List (String × Value)

/-- The entries with another value for a key that is there. -/
def replace (key : String) (v : Value) (entries : Entries) : Entries :=
  entries.map fun e => if e.1 = key then (key, v) else e

/-- The entries with a key that is not there. -/
def append (key : String) (v : Value) (entries : Entries) : Entries :=
  entries ++ [(key, v)]

/-- Changes the last table of a list. -/
def changeLast? (change : Entries → Option Entries) :
    List Entries → Option (List Entries)
  | [] => none
  | [last] => (change last).map ([·])
  | first :: rest => (changeLast? change rest).map (first :: ·)

/-- Gives a value to a dotted key. Tables on the way are made where there are none, and entered
where dotted keys made them. -/
def assign? (v : Value) : Key → Entries → Option Entries
  | [], _ => none
  | [name], entries =>
    match entries.lookup name with
    | none => some (append name v entries)
    | some _ => none
  | name :: next :: rest, entries =>
    let entered (origin : Origin) (inner : Entries) : Option Value :=
      if rest = [] ∧ origin ≠ .dottedKey then none
      else (assign? v (next :: rest) inner).map (.table origin)
    match entries.lookup name with
    | none => (assign? v (next :: rest) []).map fun inner =>
        append name (.table .dottedKey inner) entries
    | some (.table .dottedKey inner) =>
      (entered .dottedKey inner).map fun t => replace name t entries
    | some (.table .implied inner) => (entered .implied inner).map fun t => replace name t entries
    | some (.tables items) =>
      if rest = [] then none
      else (changeLast? (assign? v (next :: rest)) items).map fun ts =>
        replace name (.tables ts) entries
    | some _ => none

/-- Changes the table that headers lead to. Tables on the way are made where there are none; of a
list of tables the last one is entered. -/
def enter? (change : Entries → Option Entries) : Key → Entries → Option Entries
  | [], entries => change entries
  | name :: rest, entries =>
    match entries.lookup name with
    | none => (enter? change rest []).map fun inner => append name (.table .implied inner) entries
    | some (.table origin inner) =>
      if origin = .inline then none
      else (enter? change rest inner).map fun inner => replace name (.table origin inner) entries
    | some (.tables items) =>
      (changeLast? (enter? change rest) items).map fun ts => replace name (.tables ts) entries
    | some _ => none

/-- Opens a table. -/
def open? (name : String) (entries : Entries) : Option Entries :=
  match entries.lookup name with
  | none => some (append name (.table .header []) entries)
  | some (.table .implied inner) => some (replace name (.table .header inner) entries)
  | some _ => none

/-- Opens another table of a list. -/
def openNext? (name : String) (entries : Entries) : Option Entries :=
  match entries.lookup name with
  | none => some (append name (.tables [[]]) entries)
  | some (.tables items) => some (replace name (.tables (items ++ [[]])) entries)
  | some _ => none

mutual

/-- The value that is written. -/
def Written.value? : Written → Option Value
  | .text s => some (.text s)
  | .scalar s => some (.scalar s)
  | .array items => (valuesOf? items).map .array
  | .inlineTable members => (entriesOf? [] members).map (.table .inline)

/-- The values of the items of an array. -/
def valuesOf? : List Written → Option (List Value)
  | [] => some []
  | w :: rest =>
    match w.value?, valuesOf? rest with
    | some v, some vs => some (v :: vs)
    | _, _ => none

/-- The entries of an inline table behind those that were read. -/
def entriesOf? : Entries → List (Key × Written) → Option Entries
  | entries, [] => some entries
  | entries, (key, w) :: rest =>
    match w.value? with
    | some v =>
      match assign? v key entries with
      | some entries => entriesOf? entries rest
      | none => none
    | none => none

end

/-- Follows statements from a table that is open and the entries so far. -/
def follow? : Key → Entries → List Statement → Option Entries
  | _, entries, [] => some entries
  | here, entries, .assign key w :: rest =>
    match w.value? with
    | some v =>
      match enter? (assign? v key) here entries with
      | some entries => follow? here entries rest
      | none => none
    | none => none
  | _, entries, .table key :: rest =>
    match key.getLast? with
    | some name =>
      match enter? (open? name) key.dropLast entries with
      | some entries => follow? key entries rest
      | none => none
    | none => none
  | _, entries, .nextTable key :: rest =>
    match key.getLast? with
    | some name =>
      match enter? (openNext? name) key.dropLast entries with
      | some entries => follow? key entries rest
      | none => none
    | none => none

/-- The entries of a document. -/
def entries? (document : List Char) : Option Entries :=
  (statements? document).bind (follow? [] [])

end StoreAdmin.Toml

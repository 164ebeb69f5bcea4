namespace ViewCompanion

/-- How a table came about. This decides which later lines may add to it. -/
inductive TableOrigin
  /-- Between braces: complete at once. -/
  | inline
  /-- By a header of its own. -/
  | header
  /-- By a header of a table inside it. -/
  | implied
  /-- By a key with dots. -/
  | dotted
  deriving DecidableEq, Repr

inductive Toml
  | string (s : String)
  | integer (n : Int)
  | real
  | bool (b : Bool)
  | datetime
  | array (items : List Toml)
  | table (origin : TableOrigin) (fields : List (String × Toml))
  /-- The tables of one repeated header. -/
  | tables (items : List (List (String × Toml)))
  deriving Repr, Inhabited

namespace Toml

abbrev Fields := List (String × Toml)

/-- Puts `value` in the place of what `key` had, or at the end. -/
def put (key : String) (value : Toml) : Fields → Fields
  | [] => [(key, value)]
  | (k, v) :: rest => if k = key then (key, value) :: rest else (k, v) :: put key value rest

/-- A table on the way to another one: its fields, and how it is closed again. -/
abbrev Entrance := Option Toml → Option (Fields × (Fields → Toml))

def enterByHeader : Entrance
  | none => some ([], table .implied)
  | some (table .inline _) => none
  | some (table origin fields) => some (fields, table origin)
  | some (tables items) =>
    items.getLast?.map fun last => (last, fun fields => tables (items.dropLast ++ [fields]))
  | some _ => none

def enterByDots : Entrance
  | none => some ([], table .dotted)
  | some (table .dotted fields) => some (fields, table .dotted)
  | some (table .implied fields) => some (fields, table .implied)
  | some (tables items) =>
    items.getLast?.map fun last => (last, fun fields => tables (items.dropLast ++ [fields]))
  | some _ => none

/-- A table that only dotted keys have built. -/
def enterDotted : Entrance
  | none => some ([], table .dotted)
  | some (table .dotted fields) => some (fields, table .dotted)
  | some _ => none

/-- Changes the table at the end of `path`; every key goes with the way to enter its table. -/
def alter : List (Entrance × String) → (Fields → Option Fields) → Fields → Option Fields
  | [], change, fields => change fields
  | (enter, key) :: path, change, fields => do
    let (inner, close) ← enter (fields.lookup key)
    let changed ← alter path change inner
    pure (put key (close changed) fields)

def addNew (key : String) (value : Toml) (fields : Fields) : Option Fields :=
  match fields.lookup key with
  | some _ => none
  | none => some (put key value fields)

/-- The tables that a dotted key passes through. The innermost one gets the value, and may have
been built by dotted keys only. -/
def dottedPath : List String → List (Entrance × String)
  | [] => []
  | [key] => [(enterDotted, key)]
  | key :: rest => (enterByDots, key) :: dottedPath rest

/-- The tables that a dotted key between braces passes through. -/
def inlinePath (path : List String) : List (Entrance × String) :=
  path.map fun key => (enterDotted, key)

def headerPath (path : List String) : List (Entrance × String) :=
  path.map fun key => (enterByHeader, key)

def openTable (key : String) (fields : Fields) : Option Fields :=
  match fields.lookup key with
  | none => some (put key (table .header []) fields)
  | some (table .implied inner) => some (put key (table .header inner) fields)
  | some _ => none

/-- Opens a further table of a repeated header. -/
def openFurther (key : String) (fields : Fields) : Option Fields :=
  match fields.lookup key with
  | none => some (put key (tables [[]]) fields)
  | some (tables items) => some (put key (tables (items ++ [[]])) fields)
  | some _ => none

/-- A line that has a meaning. Keys are split at their dots; the last part stands apart. -/
inductive Line
  | assign (path : List String) (key : String) (value : Toml)
  | header (path : List String) (key : String)
  | repeated (path : List String) (key : String)

/-- A document so far: all its fields, and the path of the table that gets the next ones. -/
structure Document where
  fields : Fields
  current : List String

namespace Document

def empty : Document := ⟨[], []⟩

def add (d : Document) : Line → Option Document
  | .assign path key value =>
    (alter (headerPath d.current ++ dottedPath path) (addNew key value) d.fields).map
      fun fields => { d with fields }
  | .header path key =>
    (alter (headerPath path) (openTable key) d.fields).map
      fun fields => ⟨fields, path ++ [key]⟩
  | .repeated path key =>
    (alter (headerPath path) (openFurther key) d.fields).map
      fun fields => ⟨fields, path ++ [key]⟩

end Document

/-- A table between braces, from its assignments in order. -/
def inlineTable (lines : List (List String × String × Toml)) : Option Toml :=
  (lines.foldlM (fun fields (path, key, value) => alter (inlinePath path) (addNew key value) fields)
    []).map (table .inline)

end Toml

end ViewCompanion

import PklHost.Cli.Exit
import PklHost.Cli.Table
import PklHost.Value.Render

/-!
# What is printed

A command prints to its standard output and may fail at any point; what it has printed by then stays
printed. A value is printed as JSON or as a table of its members, files one after another under their
names, as JSON or as a table of their sizes.
-/

namespace PklHost.Cli

/-- A command that prints: what was printed stays when it fails. -/
abbrev Printing := ExceptT Failure (StateM Bytes)

/-- Prints octets. -/
def print (octets : Bytes) : Printing Unit :=
  modify (· ++ octets)

def printText (s : String) : Printing Unit :=
  print (Bytes.ofText s)

def printLine (s : String) : Printing Unit :=
  printText (s ++ "\n")

/-- Goes on with a result, or fails. -/
def orFail {α : Type} (r : Except Failure α) : Printing α :=
  ExceptT.mk (pure r)

/-- How results are printed. -/
inductive Format where
  | json
  | table
  | pretty
  /-- As they are. -/
  | raw
  deriving DecidableEq, Repr

def Format.all : List Format := [.json, .table, .pretty, .raw]

def Format.text : Format → String
  | .json => "json"
  | .table => "table"
  | .pretty => "pretty"
  | .raw => "raw"

def Format.ofText? (s : String) : Option Format :=
  Format.all.find? fun f => f.text == s

/-! ## Values -/

/-- The JSON form of a value, or the failure of the command. -/
def valueJson (v : Value) : Except Failure Json :=
  match v.toJson with
  | .ok x => .ok x
  | .error e => .error ⟨.internal, "failed to render JSON: " ++ e.message⟩

/-- A value in the cell of a table: texts and quantities in their own words, all else as JSON. -/
def cell : Value → Except Failure String
  | .string s => .ok s
  | .duration d => .ok d.text
  | .dataSize d => .ok d.text
  | v => (valueJson v).map Json.compact

/-- A key in brackets; one that no cell can show is named by its kind. -/
def keyLabel (key : Value) : String :=
  let shown := match key with
    | .string s => Text.quoted s
    | key =>
      match cell key with
      | .ok s => s
      | .error _ => key.kind
  "[" ++ shown ++ "]"

/-- An index in brackets. -/
def indexLabel (i : Nat) : String := "[" ++ toString i ++ "]"

def indexed (items : List Value) : List (String × Value) :=
  items.mapIdx fun i v => (indexLabel i, v)

def keyed (entries : Entries) : List (String × Value) :=
  entries.map fun p => (keyLabel p.1, p.2)

/-- The members of a value with their labels; what has no members is its own only one. -/
def members : Value → List (String × Value)
  | .object _ _ properties => properties
  | .dynamic properties entries elements => properties ++ keyed entries ++ indexed elements
  | .map entries => keyed entries
  | .list items | .set items => indexed items
  | v => [("", v)]

/-- One row of the table of a value. -/
def memberRow (m : String × Value) : Except Failure (List String) := do
  return [m.1, m.2.kind, ← cell m.2]

/-- The table of a value. -/
def valueTable (v : Value) : Except Failure Table := do
  return ⟨["NAME", "KIND", "VALUE"], ← (members v).mapM memberRow⟩

/-- The text of a value in a format. -/
def valueText (format : Format) (v : Value) : Except Failure String :=
  match format with
  | .json | .raw => (valueJson v).map Json.compact
  | .pretty => (valueJson v).map Json.pretty
  | .table => (valueTable v).map Table.text

def printValue (format : Format) (v : Value) : Printing Unit := do
  printLine (← orFail (valueText format v))

/-! ## Files -/

/-- The files as a JSON object. -/
def filesJson (files : Dict String) : Json :=
  .object (files.pairs.map fun p => (p.1, .string p.2))

/-- The table of the sizes of files. -/
def filesTable (files : Dict String) : Table :=
  ⟨["FILE", "BYTES"], files.pairs.map fun p => [p.1, toString (Bytes.ofText p.2).length]⟩

/-- A file under its name, its last line ended. -/
def printFile (name contents : String) : Printing Unit := do
  printLine ("--- " ++ name ++ " ---")
  printText contents
  if contents.toList.getLast? != some '\n' then printText "\n"

def printFiles (format : Format) (files : Dict String) : Printing Unit :=
  match format with
  | .json => printLine (filesJson files).compact
  | .table => printLine (filesTable files).text
  | .pretty => files.pairs.forM fun p => printFile p.1 p.2
  | .raw => files.pairs.forM fun p => printText p.2

end PklHost.Cli

import TemplateLint.Settings.Order
import TemplateLint.Toml.Quoted

/-!
# Trees of tables

A document is put together statement by statement.  While it grows, every table remembers how it came
about, because that decides whether a later statement may add to it: a table that a header names
cannot be named again, and one that a dotted key has made is closed by the next header.
-/
namespace TemplateLint
namespace Toml

/-- How a table came about. -/
inductive Origin where
  /-- On the way to another table. -/
  | implied
  /-- By a dotted key in the section with this number. -/
  | dotted (section_ : Nat)
  /-- By a header. -/
  | declared
deriving DecidableEq

/-- What a key stands for. -/
inductive Node where
  /-- A value that nothing can be added to. -/
  | value (value : Value)
  | table (origin : Origin) (entries : List (Text × Node))
  /-- A list of tables: the earlier ones and the last. -/
  | tables (earlier : List (List (Text × Node))) (last : List (Text × Node))

/-- The entries of a table under way. -/
abbrev Nodes := List (Text × Node)

namespace Nodes

/-- The entries with one of them changed; a new key comes last. -/
def alter (key : Text) (change : Option Node → Option Node) : Nodes → Option Nodes
  | [] => (change none).map fun node => [(key, node)]
  | (name, node) :: rest =>
    if name = key then (change (some node)).map fun changed => (name, changed) :: rest
    else (alter key change rest).map ((name, node) :: ·)

/-- Changes the entries behind the keys of a header; tables on the way are made. -/
def below (change : Nodes → Option Nodes) : List Text → Nodes → Option Nodes
  | [], nodes => change nodes
  | key :: keys, nodes =>
    nodes.alter key fun
      | none => (below change keys []).map (.table .implied)
      | some (.table origin entries) => (below change keys entries).map (.table origin)
      | some (.tables earlier last) => (below change keys last).map (.tables earlier)
      | some (.value _) => none

/-- A dotted key may go through a table of this origin. -/
def Origin.admits (section_ : Nat) : Origin → Bool
  | .implied => true
  | .dotted number => number = section_
  | .declared => false

/-- Changes the entries behind the front parts of a dotted key. -/
def throughDots (section_ : Nat) (change : Nodes → Option Nodes) : List Text → Nodes → Option Nodes
  | [], nodes => change nodes
  | key :: keys, nodes =>
    nodes.alter key fun
      | none => (throughDots section_ change keys []).map (.table (.dotted section_))
      | some (.table origin entries) =>
        if Origin.admits section_ origin then
          (throughDots section_ change keys entries).map (.table (.dotted section_))
        else none
      | some _ => none

/-- The entries with a new one. -/
def insertNew (key : Text) (value : Value) (nodes : Nodes) : Option Nodes :=
  nodes.alter key fun
    | none => some (.value value)
    | some _ => none

/-- The entries with a new one for a dotted key; `first` and `more` are its parts. -/
def insert (section_ : Nat) (first : Text) (more : List Text) (value : Value) (nodes : Nodes) :
    Option Nodes :=
  let parts := first :: more
  nodes.throughDots section_ (insertNew (more.getLastD first) value) parts.dropLast

/-- The entries with a table declared by a header. -/
def declare (first : Text) (more : List Text) (nodes : Nodes) : Option Nodes :=
  nodes.below
    (fun entries =>
      entries.alter (more.getLastD first) fun
        | none => some (.table .declared [])
        | some (.table .implied inner) => some (.table .declared inner)
        | some _ => none)
    (first :: more).dropLast

/-- The entries with another table at the end of a list of tables. -/
def append (first : Text) (more : List Text) (nodes : Nodes) : Option Nodes :=
  nodes.below
    (fun entries =>
      entries.alter (more.getLastD first) fun
        | none => some (.tables [] [])
        | some (.tables earlier last) => some (.tables (earlier ++ [last]) [])
        | some _ => none)
    (first :: more).dropLast

end Nodes

mutual

/-- The value that a node has become. -/
def Node.toValue : Node → Value
  | .value v => v
  | .table _ entries => .table (entriesOf entries)
  | .tables earlier last => .list (tablesOf earlier ++ [.table (entriesOf last)])

/-- The values of some entries. -/
def entriesOf : List (Text × Node) → List (Text × Value)
  | [] => []
  | (key, node) :: rest => (key, node.toValue) :: entriesOf rest

/-- The values of some tables. -/
def tablesOf : List (List (Text × Node)) → List Value
  | [] => []
  | entries :: rest => .table (entriesOf entries) :: tablesOf rest

end

end Toml

end TemplateLint

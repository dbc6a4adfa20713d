import Attendant.Toml.Item

/-!
# Documents of settings

A settings file defines tables, in headers and by keys with dots, and no table twice. `Document` remembers of each table
how it came to be, which is what decides whether a later line may add to it:

* a table that only stands on the way to another is open for one header of its own, until a key with dots adds to it;
* a table made by keys with dots, or added to by them, is open for more such keys, and for nothing else;
* lists and tables written as values are closed.

`Document.put?` adds a value under a key, `Document.openTable?` and `Document.openElement?` are the two kinds of header,
and `Document.toItem` forgets how the tables came to be.
-/

namespace Attendant.Toml

/-- How a table came to be: whether it has no header of its own, and whether keys with dots made it or added to it. -/
structure Origin where
  onTheWay : Bool
  byDots : Bool
  deriving DecidableEq, Repr

/-- A table with a header of its own. -/
def Origin.header : Origin := ⟨false, false⟩

/-- What stands under a key: an item, a table, or the tables of repeated headers, latest first. -/
inductive Node where
  | item (i : Item)
  | table (origin : Origin) (fields : List (String × Node))
  | elements (tables : List (List (String × Node)))

/-- The fields of the outermost table. -/
abbrev Document := List (String × Node)

namespace Document

/-- The document that a file starts with. -/
def empty : Document := []

/-- The document with another node under a key. -/
private def assign (key : String) (n : Node) : Document → Document
  | [] => [(key, n)]
  | (k, m) :: rest => if k = key then (k, n) :: rest else (k, m) :: assign key n rest

/-- Walks down a path from a table and changes the table at its end. Tables that are missing on the way are made. -/
private def walk (dots : Bool) (change : Origin → Document → Option (Origin × Document)) :
    List String → Origin → Document → Option (Origin × Document)
  | [], origin, fields => change origin fields
  | key :: rest, origin, fields =>
    match fields.lookup key with
    | none => do
      let (o, below) ← walk dots change rest ⟨true, dots⟩ []
      return (origin, fields ++ [(key, .table o below)])
    | some (.item _) => none
    | some (.table o below) =>
      if dots && !o.onTheWay then none
      else do
        let (o, below) ← walk dots change rest ⟨o.onTheWay, o.byDots || dots⟩ below
        return (origin, assign key (.table o below) fields)
    | some (.elements []) => none
    | some (.elements (last :: older)) => do
      let (_, last) ← walk dots change rest .header last
      return (origin, assign key (.elements (last :: older)) fields)

/-- Adds a field to a table, at the end of a path written with dots. -/
private def putBelow (path : List String) (key : String) (i : Item) : Origin → Document → Option (Origin × Document) :=
  walk true (fun origin fields =>
    if origin.byDots = path.isEmpty then none
    else match fields.lookup key with
      | none => some (origin, fields ++ [(key, .item i)])
      | some _ => none) path

/-- Adds the line `path.key = i` below the header `header`. -/
def put? (header path : List String) (key : String) (i : Item) (d : Document) : Option Document :=
  (walk false (putBelow path key i) header .header d).map (·.2)

/-- The header of one table. -/
def openTable? (path : List String) (key : String) (d : Document) : Option Document :=
  (walk false (fun origin fields =>
    match fields.lookup key with
    | none => some (origin, fields ++ [(key, .table .header [])])
    | some (.table o below) =>
      if o.onTheWay && !o.byDots then some (origin, assign key (.table .header below) fields) else none
    | some _ => none) path .header d).map (·.2)

/-- The header of one more table of a list of tables. -/
def openElement? (path : List String) (key : String) (d : Document) : Option Document :=
  (walk false (fun origin fields =>
    match fields.lookup key with
    | none => some (origin, fields ++ [(key, .elements [[]])])
    | some (.elements tables) => some (origin, assign key (.elements ([] :: tables)) fields)
    | some _ => none) path .header d).map (·.2)

end Document

mutual

/-- The item that a node is. -/
def Node.toItem : Node → Item
  | .item i => i
  | .table _ fields => .table (fieldItems fields)
  | .elements tables => .list (tableItems tables).reverse

/-- The items of some fields. -/
def fieldItems : List (String × Node) → List (String × Item)
  | [] => []
  | (k, n) :: rest => (k, n.toItem) :: fieldItems rest

/-- The items of some tables. -/
def tableItems : List (List (String × Node)) → List Item
  | [] => []
  | fields :: rest => .table (fieldItems fields) :: tableItems rest

end

/-- The table that a document is. -/
def Document.toItem (d : Document) : Item := .table (fieldItems d)

end Attendant.Toml

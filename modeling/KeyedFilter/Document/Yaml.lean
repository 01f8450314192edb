import KeyedFilter.Document.Json

/-!
# YAML trees

A YAML tree may have any tree as a key, and tags on any node. The keys of a mapping are distinct as
trees and stand in the order of their first insertion. Most readers look through tags; equality does
not.

* `Yaml.ofEntries`: a mapping from a list of entries.
* `Yaml.untagged`: the node inside all tags.
* `Yaml.outline`: the containers; a tagged collection is one container, not two.
-/

namespace KeyedFilter

/-- A YAML tree. -/
inductive Yaml where
  | null
  | bool (b : Bool)
  | number (n : Number)
  | string (s : String)
  | sequence (items : List Yaml)
  | mapping (entries : List (Yaml × Yaml))
  | tagged (tag : String) (value : Yaml)
  deriving Repr, Inhabited

namespace Yaml

/-- The tag without the exclamation mark that it may be written with. -/
def tagName (tag : String) : String :=
  match tag.toList with
  | '!' :: name => if name.isEmpty then tag else String.ofList name
  | _ => tag

/-- Equality of numbers in YAML, where there is one NaN and it equals itself. -/
def sameNumber (a b : Number) : Bool :=
  match a.normalize, b.normalize with
  | .double x, .double y => x.same y || (x.isNaN && y.isNaN)
  | a, b => a.same b

mutual

/-- Equality of trees. Mappings are equal whatever the order of their entries. -/
def same : Yaml → Yaml → Bool
  | null, null => true
  | bool a, bool b => a == b
  | number a, number b => sameNumber a b
  | string a, string b => a == b
  | sequence a, sequence b => sameItems a b
  | mapping a, mapping b => a.length == b.length && sameEntries a b
  | tagged s a, tagged t b => tagName s == tagName t && same a b
  | _, _ => false

/-- Equality of lists of items. -/
def sameItems : List Yaml → List Yaml → Bool
  | [], [] => true
  | a :: as, b :: bs => same a b && sameItems as bs
  | _, _ => false

/-- Is each entry of the first list in the second? -/
def sameEntries : List (Yaml × Yaml) → List (Yaml × Yaml) → Bool
  | [], _ => true
  | (k, v) :: rest, entries =>
    entries.any (fun entry => same k entry.1 && same v entry.2) && sameEntries rest entries

end

/-- Puts a value under a key: in place if the key is there, else at the end. -/
def insertEntry (entries : List (Yaml × Yaml)) (key value : Yaml) : List (Yaml × Yaml) :=
  if entries.any (fun entry => same entry.1 key) then
    entries.map fun entry => if same entry.1 key then (entry.1, value) else entry
  else entries ++ [(key, value)]

/-- The mapping of entries inserted one after the other. -/
def ofEntries (entries : List (Yaml × Yaml)) : Yaml :=
  mapping (entries.foldl (fun sofar entry => insertEntry sofar entry.1 entry.2) [])

/-- The node inside all tags around it. -/
def untagged : Yaml → Yaml
  | tagged _ value => untagged value
  | node => node

/-- The entries of a mapping, tags aside. -/
def entries? (node : Yaml) : Option (List (Yaml × Yaml)) :=
  match node.untagged with
  | mapping entries => some entries
  | _ => none

/-- The text of a string, tags aside. -/
def text? (node : Yaml) : Option String :=
  match node.untagged with
  | string s => some s
  | _ => none

/-- The name of the type of a tree. -/
def typeName : Yaml → String
  | null => "null"
  | bool _ => "bool"
  | number _ => "number"
  | string _ => "string"
  | sequence _ => "sequence"
  | mapping _ => "mapping"
  | tagged _ _ => "tagged"

mutual

/-- The outline of a tree: sequences and mappings are containers, together with their tags. -/
def outline : Yaml → Outline Yaml Yaml
  | sequence items => .branch (sequence items) (outlineItems items)
  | mapping entries => .branch (mapping entries) (outlineEntries entries)
  | tagged tag value => (outline value).setRoot (tagged tag value)
  | node => .leaf node

/-- The items, which have no keys. -/
def outlineItems : List Yaml → List (Option Yaml × Outline Yaml Yaml)
  | [] => []
  | item :: rest => (none, outline item) :: outlineItems rest

/-- The values under their keys. -/
def outlineEntries : List (Yaml × Yaml) → List (Option Yaml × Outline Yaml Yaml)
  | [] => []
  | (key, value) :: rest => (some key, outline value) :: outlineEntries rest

end

end Yaml

end KeyedFilter

import KeyedFilter.Document.Outline
import KeyedFilter.Number.Basic
import KeyedFilter.Number.Shortest
import KeyedFilter.Text.Quoted

/-!
# JSON trees

A tree keeps the members of an object as they were written, in order and with repeated keys. The
value that such an object stands for has every key once, with its last value, and the keys in
order: `Json.canonical` makes that tree.

* `Json.canonical`: every object with its keys sorted and distinct.
* `Json.compact`: the tree as text without spaces.
* `Json.outline`: its containers.
-/

namespace KeyedFilter

/-- A JSON tree. A number is a whole number that a word holds, or a finite double. -/
inductive Json where
  | null
  | bool (b : Bool)
  | number (n : Number)
  | string (s : String)
  | array (items : List Json)
  | object (members : List (String × Json))
  deriving Repr, Inhabited

namespace Json

/-- Puts a value under a key into members that stand in the order of their keys. -/
def insertMember (key : String) (value : Json) : List (String × Json) → List (String × Json)
  | [] => [(key, value)]
  | (k, v) :: rest =>
    match compare key k with
    | .lt => (key, value) :: (k, v) :: rest
    | .eq => (key, value) :: rest
    | .gt => (k, v) :: insertMember key value rest

/-- Distinct keys in order, each with its last value. -/
def sortMembers (members : List (String × Json)) : List (String × Json) :=
  members.foldl (fun sorted member => insertMember member.1 member.2 sorted) []

mutual

/-- The tree with the members of every object sorted and distinct. -/
def canonical : Json → Json
  | array items => array (canonicalItems items)
  | object members => object (sortMembers (canonicalMembers members))
  | json => json

/-- The items, each canonical. -/
def canonicalItems : List Json → List Json
  | [] => []
  | item :: rest => canonical item :: canonicalItems rest

/-- The members with canonical values, still as they were written. -/
def canonicalMembers : List (String × Json) → List (String × Json)
  | [] => []
  | (key, value) :: rest => (key, canonical value) :: canonicalMembers rest

end

/-- The characters that stand for `c` in a JSON text. -/
def escapeChar (c : Char) : List Char :=
  match c with
  | '"' => ['\\', '"']
  | '\\' => ['\\', '\\']
  | '\x08' => ['\\', 'b']
  | '\x0c' => ['\\', 'f']
  | '\n' => ['\\', 'n']
  | '\r' => ['\\', 'r']
  | '\t' => ['\\', 't']
  | c =>
    if c.toNat < 0x20 then
      let digits := Text.hexDigits c.toNat
      ['\\', 'u'] ++ List.replicate (4 - digits.length) '0' ++ digits
    else [c]

/-- A text as JSON. -/
def quote (s : String) : String :=
  String.ofList ('"' :: s.toList.flatMap escapeChar ++ ['"'])

/-- A number as JSON. -/
def numberText : Number → String
  | .signed n => toString n.toInt
  | .unsigned n => toString n.toNat
  | .double x => DecimalLayout.document.write x

mutual

/-- The tree as text without spaces. -/
def compact : Json → String
  | null => "null"
  | bool b => if b then "true" else "false"
  | number n => numberText n
  | string s => quote s
  | array items => "[" ++ ",".intercalate (compactItems items) ++ "]"
  | object members => "\x7b" ++ ",".intercalate (compactMembers members) ++ "\x7d"

/-- The items as texts. -/
def compactItems : List Json → List String
  | [] => []
  | item :: rest => compact item :: compactItems rest

/-- The members as texts. -/
def compactMembers : List (String × Json) → List String
  | [] => []
  | (key, value) :: rest => (quote key ++ ":" ++ compact value) :: compactMembers rest

end

mutual

/-- Equality of canonical trees. A whole number and a double are not equal. -/
def same : Json → Json → Bool
  | null, null => true
  | bool a, bool b => a == b
  | number a, number b => a.normalize.same b.normalize
  | string a, string b => a == b
  | array a, array b => sameItems a b
  | object a, object b => sameMembers a b
  | _, _ => false

/-- Equality of lists of items. -/
def sameItems : List Json → List Json → Bool
  | [], [] => true
  | a :: as, b :: bs => same a b && sameItems as bs
  | _, _ => false

/-- Equality of lists of members. -/
def sameMembers : List (String × Json) → List (String × Json) → Bool
  | [], [] => true
  | (k, a) :: as, (l, b) :: bs => k == l && same a b && sameMembers as bs
  | _, _ => false

end

/-- The name of the type of a tree. -/
def typeName : Json → String
  | null => "null"
  | bool _ => "bool"
  | number _ => "number"
  | string _ => "string"
  | array _ => "array"
  | object _ => "object"

/-- Is the tree an object? -/
def isObject : Json → Bool
  | object _ => true
  | _ => false

/-- The value under a key of an object. -/
def member? : Json → String → Option Json
  | object members, key => members.lookup key
  | _, _ => none

mutual

/-- The outline of a tree: arrays and objects are containers. -/
def outline : Json → Outline String Json
  | array items => .branch (array items) (outlineItems items)
  | object members => .branch (object members) (outlineMembers members)
  | json => .leaf json

/-- The items, which have no keys. -/
def outlineItems : List Json → List (Option String × Outline String Json)
  | [] => []
  | item :: rest => (none, outline item) :: outlineItems rest

/-- The members under their keys. -/
def outlineMembers : List (String × Json) → List (Option String × Outline String Json)
  | [] => []
  | (key, value) :: rest => (some key, outline value) :: outlineMembers rest

end

end Json

end KeyedFilter

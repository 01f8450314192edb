/-!
# Text patterns

The three ways in which one text can be part of another, and the removal of an ending. All are by
code point and know neither case nor normal forms: `é` in one code point does not start with `e`.
-/

namespace KeyedFilter.Text

/-- Does `text` begin with `part`? -/
def startsWith (text part : String) : Bool :=
  part.toList.isPrefixOf text.toList

/-- Does `text` end with `part`? -/
def endsWith (text part : String) : Bool :=
  part.toList.isSuffixOf text.toList

/-- Does `part` occur at the front of `text` or further on? -/
def occursIn (part : List Char) : List Char → Bool
  | [] => part.isEmpty
  | c :: rest => part.isPrefixOf (c :: rest) || occursIn part rest

/-- Does `text` contain `part`? The empty part is in every text. -/
def contains (text part : String) : Bool :=
  occursIn part.toList text.toList

/-- What stands before `ending`, when the text ends so. -/
def dropEnding? (text ending : List Char) : Option (List Char) :=
  if ending.isSuffixOf text then some (text.take (text.length - ending.length)) else none

end KeyedFilter.Text

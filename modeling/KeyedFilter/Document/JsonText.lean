import KeyedFilter.Document.Json

/-!
# JSON texts

Reading of JSON from text. A text that is no JSON is either malformed or ends too early. Members
keep the order of the text, and a whole number that no word holds is read as the nearest double.

* `JsonText.readValue`: one value at the front of a text.
* `JsonText.skipValue`: the same without making the value; it takes numbers of any size and
  surrogates that stand alone, and containers of any depth.
* `JsonText.read`: a text that holds one value and nothing else.
-/

namespace KeyedFilter

/-- Why a text is no JSON. -/
inductive TextFault where
  | malformed
  | truncated
  deriving DecidableEq, Repr

namespace JsonText

/-- What stood at the front of a text, and the text behind it. -/
abbrev Front (α : Type) := α × List Char

/-- Is the character a blank between JSON tokens? -/
def isBlank (c : Char) : Bool :=
  c == ' ' || c == '\n' || c == '\t' || c == '\r'

/-- The text from its first token on. -/
def skipBlanks (text : List Char) : List Char :=
  text.dropWhile isBlank

/-- Reads the rest of a word. -/
def expectWord (word text : List Char) : Except TextFault (List Char) :=
  match word, text with
  | [], text => .ok text
  | _ :: _, [] => .error .truncated
  | c :: word, d :: text => if c = d then expectWord word text else .error .malformed

/-- Reads the colon behind a key. -/
def expectColon (text : List Char) : Except TextFault (List Char) :=
  match skipBlanks text with
  | [] => .error .truncated
  | ':' :: rest => .ok rest
  | _ => .error .malformed

/-- Goes on in a container: is there another entry, and where? A closing bracket is consumed; a
comma must stand between two entries and nowhere else. -/
def nextEntry (closing : Char) (isFirst : Bool) (text : List Char) :
    Except TextFault (Front Bool) :=
  match skipBlanks text with
  | [] => .error .truncated
  | c :: rest =>
    if c = closing then .ok (false, rest)
    else if isFirst then .ok (true, c :: rest)
    else if c = ',' then
      match skipBlanks rest with
      | [] => .error .truncated
      | d :: more => if d = closing then .error .malformed else .ok (true, d :: more)
    else .error .malformed

/-! ### Numbers -/

/-- The whole part of a number: digits without a leading zero. The fault of an empty text is told by
the caller. -/
def readWhole (onEmpty : TextFault) (text : List Char) : Except TextFault (Front (List Char)) :=
  match text with
  | [] => .error onEmpty
  | '0' :: rest =>
    match rest with
    | c :: _ => if c.isDigit then .error .malformed else .ok (['0'], rest)
    | [] => .ok (['0'], [])
  | c :: rest =>
    if c.isDigit then .ok (c :: rest.takeWhile Char.isDigit, rest.dropWhile Char.isDigit)
    else .error .malformed

/-- One digit or more. -/
def readDigits (onEmpty : TextFault) (text : List Char) : Except TextFault (Front (List Char)) :=
  match text with
  | [] => .error onEmpty
  | c :: _ =>
    if c.isDigit then .ok (text.takeWhile Char.isDigit, text.dropWhile Char.isDigit)
    else .error .malformed

/-- The digits behind the point, if there is one. -/
def readDecimals (onEmpty : TextFault) (text : List Char) :
    Except TextFault (Front (Option (List Char))) :=
  match text with
  | '.' :: rest => (readDigits onEmpty rest).map fun (digits, rest) => (some digits, rest)
  | rest => .ok (none, rest)

/-- The exponent, if there is one. -/
def readPower (onEmpty : TextFault) (text : List Char) : Except TextFault (Front (Option Int)) :=
  match text with
  | [] => .ok (none, [])
  | e :: rest =>
    if e == 'e' || e == 'E' then
      let (minus, digits) := takeSign rest
      (readDigits onEmpty digits).map fun (digits, rest) =>
        (some (if minus then -(digitsValue digits : Int) else digitsValue digits), rest)
    else .ok (none, e :: rest)

/-- The number that its parts denote, `none` if it is beyond all doubles. Without a point and an
exponent it is a whole number; minus zero is a double. -/
def numberOf? (minus : Bool) (whole : List Char) (decimals : Option (List Char))
    (power : Option Int) : Option Number :=
  let n : Int := if minus then -(digitsValue whole : Int) else digitsValue whole
  let places := decimals.getD []
  let isWhole := decimals.isNone && power.isNone && !(minus && n == 0)
  match if isWhole then Number.ofInt? n else none with
  | some number => some number
  | none =>
    let x := (Decimal.mk minus (digitsValue (whole ++ places))
      (power.getD 0 - places.length)).toBinary64
    if x.isInfinite then none else some (.double x)

/-- Reads a number. -/
def readNumber (text : List Char) : Except TextFault (Front Number) := do
  let (minus, text) := match text with
    | '-' :: rest => (true, rest)
    | rest => (false, rest)
  let (whole, text) ← readWhole .truncated text
  let (decimals, text) ← readDecimals .truncated text
  let (power, text) ← readPower .truncated text
  match numberOf? minus whole decimals power with
  | some number => .ok (number, text)
  | none => .error .malformed

/-- Passes over a number. A number that breaks off is malformed here. -/
def skipNumber (text : List Char) : Except TextFault (List Char) := do
  let text := match text with
    | '-' :: rest => rest
    | rest => rest
  let (_, text) ← readWhole .malformed text
  let (_, text) ← readDecimals .malformed text
  let (_, text) ← readPower .malformed text
  return text

/-! ### Strings -/

/-- The value of a hexadecimal digit. -/
def hexValue? (c : Char) : Option Nat :=
  if c.isDigit then some (c.toNat - 48)
  else if 'a' ≤ c && c ≤ 'f' then some (c.toNat - 87)
  else if 'A' ≤ c && c ≤ 'F' then some (c.toNat - 55)
  else none

/-- Four hexadecimal digits. A text is too short for them if it has fewer than four bytes. -/
def readHex (text : List Char) : Except TextFault (Front Nat) :=
  match text with
  | a :: b :: c :: d :: rest =>
    match hexValue? a, hexValue? b, hexValue? c, hexValue? d with
    | some a, some b, some c, some d => .ok (((a * 16 + b) * 16 + c) * 16 + d, rest)
    | _, _, _, _ => .error .malformed
  | short =>
    if (String.ofList short).utf8ByteSize < 4 then .error .truncated else .error .malformed

/-- Is the code the first half of a surrogate pair? -/
def isHighSurrogate (code : Nat) : Bool := 0xd800 ≤ code && code ≤ 0xdbff

/-- Is the code the second half of a surrogate pair? -/
def isLowSurrogate (code : Nat) : Bool := 0xdc00 ≤ code && code ≤ 0xdfff

/-- The second half of a surrogate pair, which is an escape of its own. -/
def readLowSurrogate (text : List Char) : Except TextFault (Front Nat) :=
  match text with
  | [] => .error .truncated
  | '\\' :: rest =>
    match rest with
    | [] => .error .truncated
    | 'u' :: digits => do
      let (low, rest) ← readHex digits
      if isLowSurrogate low then .ok (low, rest) else .error .malformed
    | _ => .error .malformed
  | _ => .error .malformed

/-- The character of a numeric escape, or of two that make a surrogate pair. -/
def readCode (text : List Char) : Except TextFault (Front Char) := do
  let (code, rest) ← readHex text
  if isLowSurrogate code then .error .malformed
  else if isHighSurrogate code then
    let (low, rest) ← readLowSurrogate rest
    .ok (Char.ofNat (0x10000 + (code - 0xd800) * 0x400 + (low - 0xdc00)), rest)
  else .ok (Char.ofNat code, rest)

/-- The character that a two-character escape stands for. -/
def shortEscape? : Char → Option Char
  | '"' => some '"'
  | '\\' => some '\\'
  | '/' => some '/'
  | 'b' => some '\x08'
  | 'f' => some '\x0c'
  | 'n' => some '\n'
  | 'r' => some '\r'
  | 't' => some '\t'
  | _ => none

/-- Reads what follows a backslash. -/
def readEscape (text : List Char) : Except TextFault (Front Char) :=
  match text with
  | [] => .error .truncated
  | c :: rest =>
    if c = 'u' then readCode rest
    else
      match shortEscape? c with
      | some d => .ok (d, rest)
      | none => .error .malformed

/-- Passes over what follows a backslash; a surrogate may stand alone. -/
def skipEscape (text : List Char) : Except TextFault (List Char) :=
  match text with
  | [] => .error .truncated
  | c :: rest =>
    if c = 'u' then (readHex rest).map Prod.snd
    else if (shortEscape? c).isSome then .ok rest
    else .error .malformed

/-- The characters of a string up to its closing quote, `read` holding those before in reverse. -/
def stringCharacters (fuel : Nat) (read text : List Char) : Except TextFault (Front String) :=
  match fuel, text with
  | 0, _ => .error .malformed
  | _, [] => .error .truncated
  | fuel + 1, c :: rest =>
    if c = '"' then .ok (String.ofList read.reverse, rest)
    else if c = '\\' then
      match readEscape rest with
      | .ok (d, rest) => stringCharacters fuel (d :: read) rest
      | .error fault => .error fault
    else if c.toNat < 0x20 then .error .malformed
    else stringCharacters fuel (c :: read) rest

/-- Reads a string whose opening quote has been read. -/
def readString (text : List Char) : Except TextFault (Front String) :=
  stringCharacters (text.length + 1) [] text

/-- Passes over the characters of a string and its closing quote. -/
def skipCharacters (fuel : Nat) (text : List Char) : Except TextFault (List Char) :=
  match fuel, text with
  | 0, _ => .error .malformed
  | _, [] => .error .truncated
  | fuel + 1, c :: rest =>
    if c = '"' then .ok rest
    else if c = '\\' then
      match skipEscape rest with
      | .ok rest => skipCharacters fuel rest
      | .error fault => .error fault
    else if c.toNat < 0x20 then .error .malformed
    else skipCharacters fuel rest

/-- Passes over a string whose opening quote has been read. -/
def skipString (text : List Char) : Except TextFault (List Char) :=
  skipCharacters (text.length + 1) text

/-- Reads the key of a member. -/
def readKey (text : List Char) : Except TextFault (Front String) :=
  match text with
  | '"' :: rest => readString rest
  | _ => .error .malformed

/-! ### Values -/

/-- Reads a value that is no container. -/
def readScalar (text : List Char) : Except TextFault (Front Json) :=
  match text with
  | [] => .error .truncated
  | 'n' :: rest => (expectWord ['u', 'l', 'l'] rest).map fun rest => (Json.null, rest)
  | 't' :: rest => (expectWord ['r', 'u', 'e'] rest).map fun rest => (Json.bool true, rest)
  | 'f' :: rest => (expectWord ['a', 'l', 's', 'e'] rest).map fun rest => (Json.bool false, rest)
  | '"' :: rest => (readString rest).map fun (s, rest) => (Json.string s, rest)
  | c :: rest =>
    if c = '-' || c.isDigit then
      (readNumber (c :: rest)).map fun (n, rest) => (Json.number n, rest)
    else .error .malformed

mutual

/-- Reads the value at the front of a text. At most `depth` containers may be inside one another. -/
def valueWithin (fuel depth : Nat) (text : List Char) : Except TextFault (Front Json) :=
  match fuel with
  | 0 => .error .malformed
  | fuel + 1 =>
    match skipBlanks text with
    | '[' :: rest =>
      match depth with
      | 0 => .error .malformed
      | depth + 1 => itemsWithin fuel depth [] rest
    | '\x7b' :: rest =>
      match depth with
      | 0 => .error .malformed
      | depth + 1 => membersWithin fuel depth [] rest
    | text => readScalar text

/-- Reads the items of an array, `read` holding those before in reverse. -/
def itemsWithin (fuel depth : Nat) (read : List Json) (text : List Char) :
    Except TextFault (Front Json) :=
  match fuel with
  | 0 => .error .malformed
  | fuel + 1 => do
    let (more, text) ← nextEntry ']' read.isEmpty text
    if more then
      let (item, text) ← valueWithin fuel depth text
      itemsWithin fuel depth (item :: read) text
    else .ok (.array read.reverse, text)

/-- Reads the members of an object, `read` holding those before in reverse. -/
def membersWithin (fuel depth : Nat) (read : List (String × Json)) (text : List Char) :
    Except TextFault (Front Json) :=
  match fuel with
  | 0 => .error .malformed
  | fuel + 1 => do
    let (more, text) ← nextEntry '\x7d' read.isEmpty text
    if more then
      let (key, text) ← readKey text
      let text ← expectColon text
      let (value, text) ← valueWithin fuel depth text
      membersWithin fuel depth ((key, value) :: read) text
    else .ok (.object read.reverse, text)

end

/-- Two calls of a reader of values consume a character. -/
def fuelFor (text : List Char) : Nat :=
  2 * text.length + 2

/-- Reads the value at the front of a text. At most `depth` containers may be inside one another. -/
def readValue (depth : Nat) (text : List Char) : Except TextFault (Front Json) :=
  valueWithin (fuelFor text) depth text

/-- Passes over a value that is no container. -/
def skipScalar (text : List Char) : Except TextFault (List Char) :=
  match text with
  | [] => .error .truncated
  | 'n' :: rest => expectWord ['u', 'l', 'l'] rest
  | 't' :: rest => expectWord ['r', 'u', 'e'] rest
  | 'f' :: rest => expectWord ['a', 'l', 's', 'e'] rest
  | '"' :: rest => skipString rest
  | c :: rest =>
    if c = '-' || c.isDigit then skipNumber (c :: rest) else .error .malformed

mutual

/-- Passes over the value at the front of a text. -/
def skipWithin (fuel : Nat) (text : List Char) : Except TextFault (List Char) :=
  match fuel with
  | 0 => .error .malformed
  | fuel + 1 =>
    match skipBlanks text with
    | '[' :: rest => skipItems fuel true rest
    | '\x7b' :: rest => skipMembers fuel true rest
    | text => skipScalar text

/-- Passes over the items of an array. -/
def skipItems (fuel : Nat) (isFirst : Bool) (text : List Char) : Except TextFault (List Char) :=
  match fuel with
  | 0 => .error .malformed
  | fuel + 1 => do
    let (more, text) ← nextEntry ']' isFirst text
    if more then
      let text ← skipWithin fuel text
      skipItems fuel false text
    else .ok text

/-- Passes over the members of an object. -/
def skipMembers (fuel : Nat) (isFirst : Bool) (text : List Char) : Except TextFault (List Char) :=
  match fuel with
  | 0 => .error .malformed
  | fuel + 1 => do
    let (more, text) ← nextEntry '\x7d' isFirst text
    if more then
      match text with
      | '"' :: text =>
        let text ← skipString text
        let text ← expectColon text
        let text ← skipWithin fuel text
        skipMembers fuel false text
      | _ => .error .malformed
    else .ok text

end

/-- Passes over the value at the front of a text. -/
def skipValue (text : List Char) : Except TextFault (List Char) :=
  skipWithin (fuelFor text) text

/-- Nothing but blanks may be left. -/
def expectEnd (text : List Char) : Except TextFault Unit :=
  if (skipBlanks text).isEmpty then .ok () else .error .malformed

/-- The deepest nesting of containers that is read. -/
def maxDepth : Nat := 127

/-- The value that a text holds. -/
def read (depth : Nat) (text : String) : Except TextFault Json := do
  let (json, rest) ← readValue depth text.toList
  expectEnd rest
  return json

end JsonText

end KeyedFilter

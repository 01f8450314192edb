import KeyedFilter.Request.Reading

/-!
# Reading requests from JSON text

Filters and requests are read from text as it comes: a refusal is found before a fault that stands
further on, and a repeated filter key replaces the operand in place. The values of unknown fields
are only passed over.

* `Filters.readText`, `Request.readText`.
-/

namespace KeyedFilter

open JsonText

/-- A step of reading text as a step of reading a request. -/
def ReadError.ofText {α : Type} (step : Except TextFault α) : Except ReadError α :=
  step.mapError .fault

/-- A refusal as an error of reading. -/
def ReadError.ofRefusal {α : Type} (step : Except Refusal α) : Except ReadError α :=
  step.mapError .refused

/-- Reads what is at the front of a text, as far as it must be read to be spoken of: a container is
known by its bracket. -/
def readFound (text : List Char) : Except ReadError (Front Found) :=
  match skipBlanks text with
  | '[' :: rest => .ok (.sequence, rest)
  | '\x7b' :: rest => .ok (.mapping, rest)
  | text => ReadError.ofText ((readScalar text).map fun (json, rest) => (json.found, rest))

/-- Refuses what is at the front of a text. -/
def refuseText {α : Type} (wanted : Wanted) (text : List Char) : Except ReadError α := do
  let (found, _) ← readFound text
  .error (.refused (.wrongType found wanted))

/-- Reads a count. -/
def readCount (text : List Char) : Except ReadError (Front (Option UInt64)) := do
  let (found, rest) ← readFound text
  let count ← ReadError.ofRefusal found.toOptionalCount
  return (count, rest)

namespace Filters

/-- Reads the members of an object of filters. -/
def readMembers (fuel depth : Nat) (isFirst : Bool) (filters : Filters) (text : List Char) :
    Except ReadError (Front Filters) :=
  match fuel with
  | 0 => .error (.fault .malformed)
  | fuel + 1 => do
    let (more, text) ← ReadError.ofText (nextEntry '\x7d' isFirst text)
    if more then
      let (key, text) ← ReadError.ofText (readKey text)
      let text ← ReadError.ofText (expectColon text)
      let (value, text) ← ReadError.ofText (readValue depth text)
      let filters ← ReadError.ofRefusal (filters.decodeMember (key, value.canonical))
      readMembers fuel depth false filters text
    else return (filters, text)

/-- Reads filters at the front of a text. At most `depth` containers may be inside one another. -/
def readFront (depth : Nat) (text : List Char) : Except ReadError (Front Filters) :=
  match skipBlanks text, depth with
  | '\x7b' :: _, 0 => .error (.fault .malformed)
  | '\x7b' :: rest, depth + 1 => readMembers (rest.length + 1) depth true ∅ rest
  | text, _ => refuseText .filters text

/-- The filters that a text holds. -/
def readText (text : String) : Except ReadError Filters := do
  let (filters, rest) ← readFront maxDepth text.toList
  ReadError.ofText (expectEnd rest)
  return filters

end Filters

namespace Request

/-- Reads the value of a field. -/
def readField (depth : Nat) (draft : Draft) (field : RequestField) (text : List Char) :
    Except ReadError (Front Draft) :=
  let step : StateT (List Char) (Except ReadError) Draft :=
    draft.set (Filters.readFront depth) readCount field
  step.run text

/-- Reads the members of an object of fields. -/
def readMembers (fuel depth : Nat) (isFirst : Bool) (draft : Draft) (text : List Char) :
    Except ReadError (Front Draft) :=
  match fuel with
  | 0 => .error (.fault .malformed)
  | fuel + 1 => do
    let (more, text) ← ReadError.ofText (nextEntry '\x7d' isFirst text)
    if more then
      let (key, text) ← ReadError.ofText (readKey text)
      match RequestField.named? key with
      | some field =>
        ReadError.ofRefusal (draft.checkNew field)
        let text ← ReadError.ofText (expectColon text)
        let (draft, text) ← readField depth draft field text
        readMembers fuel depth false draft text
      | none =>
        let text ← ReadError.ofText (expectColon text)
        let text ← ReadError.ofText (skipValue text)
        readMembers fuel depth false draft text
    else return (draft, text)

/-- Reads the items of an array of fields. -/
def readItems (depth : Nat) (isFirst : Bool) (draft : Draft) (fields : List RequestField)
    (text : List Char) : Except ReadError (Front Draft) :=
  match fields with
  | [] =>
    match skipBlanks text with
    | [] => .error (.fault .truncated)
    | ']' :: rest => .ok (draft, rest)
    | _ => .error (.fault .malformed)
  | field :: fields => do
    let (more, text) ← ReadError.ofText (nextEntry ']' isFirst text)
    if more then
      let (draft, text) ← readField depth draft field text
      readItems depth false draft fields text
    else return (draft, text)

/-- Reads the fields of a request at the front of a text. At most `depth` containers may be inside
the topmost one. -/
def readFront (depth : Nat) (text : List Char) : Except ReadError (Front Draft) :=
  match skipBlanks text with
  | '[' :: rest => readItems depth true {} RequestField.all rest
  | '\x7b' :: rest => readMembers (rest.length + 1) depth true {} rest
  | text => refuseText .request text

/-- The request that a text holds. -/
def readText (text : String) : Except ReadError Request := do
  let (draft, rest) ← readFront (maxDepth - 1) text.toList
  ReadError.ofText (expectEnd rest)
  return draft.finish

end Request

end KeyedFilter

import KeyedFilter.Scalar.Conversion
import KeyedFilter.Schema.Reading

/-!
# Tickets

A record type with a derived schema: fields of every type, some of them optional, some under other
names than their own, and points in time in four forms.
-/

namespace KeyedFilter

/-- A ticket of an issue tracker. -/
structure Ticket where
  title : String
  assignee : Option String
  points : Int32
  votes : UInt64
  unitPrice : Option Binary64
  ratio : Binary32
  isOpen : Bool
  archived : Option Bool
  opened : Instant
  closedMillis : Option Int64
  dueMillis : UInt64
  seen : Timestamp

namespace Ticket

/-- A field that is shown as some type. -/
def shown (name type : String) : FieldDeclaration :=
  ⟨name, [⟨"filter", .list [.path [type]]⟩]⟩

/-- A field that is shown as some type, under another name. -/
def shownAs (name type rename : String) : FieldDeclaration :=
  ⟨name, [⟨"filter", .list [.path [type], .assign ["rename"] (.text rename)]⟩]⟩

/-- The declaration of the type. -/
def declaration : Declaration :=
  .record
    [shown "title" "String", shownAs "assignee" "String" "owner", shown "points" "Number",
     shown "votes" "Number", shownAs "unit_price" "Number" "unit-price",
     shownAs "ratio" "Number" "ratioSmall", shown "open" "Bool", shown "archived" "Bool",
     shown "opened" "Timestamp", shown "closed_ms" "Timestamp", shown "due_ms" "Timestamp",
     shown "seen" "Timestamp"]

/-- The schema of the type. -/
def schema : Schema :=
  match Schema.derive declaration with
  | .ok schema => schema
  | .error _ => []

/-- A field as a point in time. -/
def timeOf {α : Type} [ToTimestamp α] (a : α) : Scalar :=
  .ofTimestamp? (ToTimestamp.timestamp? a)

/-- What a field of a ticket holds. -/
def read (ticket : Ticket) : FieldReading → String → Scalar
  | .value, "title" => toScalar ticket.title
  | .value, "assignee" => toScalar ticket.assignee
  | .value, "points" => toScalar ticket.points
  | .value, "votes" => toScalar ticket.votes
  | .value, "unit_price" => toScalar ticket.unitPrice
  | .value, "ratio" => toScalar ticket.ratio
  | .value, "open" => toScalar ticket.isOpen
  | .value, "archived" => toScalar ticket.archived
  | .timestamp, "opened" => timeOf ticket.opened
  | .timestamp, "closed_ms" => timeOf ticket.closedMillis
  | .timestamp, "due_ms" => timeOf ticket.dueMillis
  | .timestamp, "seen" => timeOf ticket.seen
  | _, _ => .null

end Ticket

instance : Recorded Ticket := ⟨Ticket.schema, Ticket.read⟩

end KeyedFilter

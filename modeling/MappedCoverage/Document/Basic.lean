import MappedCoverage.Document.Entries

/-!
# Documents

A document is the value that a configuration text or a source map text denotes: null, a Boolean, a
number, a text, a sequence, or a record whose entries keep their order. Two documents are the same
when they differ at most in the order of entries.
-/

namespace MappedCoverage

/-- A number is an integer of at most 64 bits or a binary floating-point number. -/
inductive Number where
  | integer (value : Int)
  | real (value : Float)

/-- A value read from a text. -/
inductive Document where
  | null
  | boolean (value : Bool)
  | number (value : Number)
  | text (value : String)
  | sequence (items : List Document)
  | record (entries : List (String × Document))

instance : Inhabited Document := ⟨.null⟩

/-- Numbers are the same when they are of one kind and equal; not-a-number differs from itself. -/
def Number.same : Number → Number → Bool
  | .integer a, .integer b => a == b
  | .real a, .real b => a == b
  | _, _ => false

namespace Document

/-- The text of a text document. -/
def asText? : Document → Option String
  | .text value => some value
  | _ => none

/-- The entries of a record. -/
def asRecord? : Document → Option (Entries Document)
  | .record entries => some entries
  | _ => none

/-- The entry of a record under a name; other documents have none. -/
def field? (name : String) : Document → Option Document
  | .record entries => Entries.get? name entries
  | _ => none

mutual

/-- Equality up to the order of entries, at every level. -/
def same : Document → Document → Bool
  | .null, .null => true
  | .boolean a, .boolean b => a == b
  | .number a, .number b => a.same b
  | .text a, .text b => a == b
  | .sequence a, .sequence b => sameItems a b
  | .record a, .record b => a.length == b.length && sameEntries a b
  | _, _ => false

/-- Item by item, the items are the same. -/
def sameItems : List Document → List Document → Bool
  | [], [] => true
  | a :: restA, b :: restB => a.same b && sameItems restA restB
  | _, _ => false

/-- Every entry of the first list has an entry of the same key and value in the second. -/
def sameEntries : List (String × Document) → List (String × Document) → Bool
  | [], _ => true
  | (key, value) :: rest, others =>
      (match Entries.get? key others with
        | some other => value.same other
        | none => false) && sameEntries rest others

end

/-- Records of one size hold the same entries. -/
def sameRecord (a b : Entries Document) : Bool :=
  (Document.record a).same (.record b)

end Document

end MappedCoverage

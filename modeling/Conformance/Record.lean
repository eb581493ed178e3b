/-
# Records

A record says what one probe found: the reference value, if there is one, beside the value of the
compiled side.
-/

namespace Conformance

/-- How a record is laid out on a line of text. -/
inductive Layout where
  /-- The label, then both values in columns. -/
  | comparison
  /-- The label and the compiled value with nothing between them. -/
  | bare
  /-- The label, then the compiled value in a column. -/
  | tagged
  deriving DecidableEq

/-- What one probe found. -/
structure Record where
  /-- The title of the group the probe belongs to, if the group has one. -/
  group : Option String
  /-- The symbol of the function. -/
  function : String
  /-- The text printed before the values. -/
  label : String
  /-- The arguments of the reference. -/
  referenceArgs : Option (List Int32)
  /-- The value of the reference. -/
  normal : Option Int32
  /-- The arguments of the compiled function, `none` if a literal was reported in its place. -/
  compiledArgs : Option (List Int32)
  /-- The value of the compiled function, or the literal. -/
  compiled : Int32
  /-- How the record is laid out. -/
  layout : Layout
  deriving DecidableEq

namespace Record

/-- Whether a record sets two values side by side. -/
def isComparison (r : Record) : Bool := r.normal.isSome

/-- Whether a record sets two different values side by side. -/
def differs (r : Record) : Bool :=
  match r.normal with
  | some normal => normal != r.compiled
  | none => false

end Record

end Conformance

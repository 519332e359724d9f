import KernelJob.Json.Basic

/-! # Shapes of JSON values

A `Shape` says which values may stand at a place of a document. The shape of an object is put
together from the keys that it has to have, the shapes of the fields that are known, and what may
stand under any other key.
-/

namespace KernelJob

/-- Which values may stand at a place of a document. -/
abbrev Shape := Json → Bool

namespace Shape

/-- Any value. -/
def anything : Shape := fun _ => true

/-- No value at all. -/
def nothing : Shape := fun _ => false

/-- Nothing but null. -/
def null : Shape
  | .null => true
  | _ => false

/-- A truth value. -/
def flag : Shape
  | .bool _ => true
  | _ => false

/-- A whole number from `least` on. -/
def whole (least : Int) : Shape
  | .int n => least ≤ n
  | _ => false

/-- A text with some property. -/
def textWith (property : Text → Bool) : Shape
  | .text t => property t
  | _ => false

/-- A text. -/
def text : Shape := textWith fun _ => true

/-- One of some texts. -/
def word (words : List Text) : Shape := textWith words.contains

/-- A value of one of some shapes. -/
def oneOf (shapes : List Shape) : Shape := fun v => shapes.any (· v)

/-- A list of values of a shape. -/
def listOf (item : Shape) : Shape
  | .list vs => vs.all item
  | _ => false

/-- An object that has the required keys, with values of their shapes under the known keys; `other`
gives the shape under any other key. -/
def object (required : List Text) (known : List (Text × Shape)) (other : Text → Shape) : Shape
  | .object fields =>
    required.all (Fields.has fields) &&
      fields.all fun f => (known.lookup f.1).getD (other f.1) f.2
  | _ => false

/-- An object with no other keys than the known ones. -/
def closed (required : List Text) (known : List (Text × Shape)) : Shape :=
  object required known fun _ => nothing

/-- An object with anything under other keys than the known ones. -/
def extensible (required : List Text) (known : List (Text × Shape)) : Shape :=
  object required known fun _ => anything

/-- A value has one of some shapes if one of them is its own. -/
theorem oneOf_cons (s : Shape) (shapes : List Shape) (v : Json) :
    oneOf (s :: shapes) v = (s v || oneOf shapes v) := rfl

/-- A list has a shape item by item. -/
theorem listOf_cons (item : Shape) (v : Json) (vs : List Json) :
    listOf item (.list (v :: vs)) = (item v && listOf item (.list vs)) := rfl

end Shape

end KernelJob

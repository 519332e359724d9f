import KernelJob.Decimal.Reading
import KernelJob.Text.Quoted

/-! # JSON values

The values of a JSON document. Whole numbers and numbers with a point or an exponent are kept apart,
and the fields of an object keep the order in which their keys first came. Dates and times stand
beside them: no JSON text spells one, but settings also come from TOML, which has them.
-/

namespace KernelJob

/-- A JSON value. -/
inductive Json
  | null
  | bool (value : Bool)
  | int (value : Int)
  | float (value : Float)
  | text (value : Text)
  /-- A date, a time or both, as it was spelled. -/
  | moment (spelling : Text)
  | list (items : List Json)
  | object (fields : List (Text × Json))

/-- The fields of an object. -/
abbrev Fields := List (Text × Json)

namespace Fields

/-- The value of a key. -/
def get? (key : Text) : Fields → Option Json
  | [] => none
  | (k, v) :: fs => if k = key then some v else get? key fs

/-- Whether a key is there. -/
def has (fs : Fields) (key : Text) : Bool := fs.any (·.1 == key)

/-- The fields with a key set: in its place if it is there, at the end if not. -/
def set (key : Text) (value : Json) : Fields → Fields
  | [] => [(key, value)]
  | (k, v) :: fs => if k = key then (k, value) :: fs else (k, v) :: set key value fs

/-- The fields with some keys. -/
def only (keys : List Text) (fs : Fields) : Fields := fs.filter fun f => keys.contains f.1

/-- The fields with other keys than some. -/
def without (keys : List Text) (fs : Fields) : Fields := fs.filter fun f => !keys.contains f.1

/-- The fields without a key. -/
def erase (key : Text) (fs : Fields) : Fields := fs.filter (·.1 != key)

@[simp] theorem get?_nil (key : Text) : get? key [] = none := rfl

theorem get?_cons (key k : Text) (v : Json) (fs : Fields) :
    get? key ((k, v) :: fs) = if k = key then some v else get? key fs := rfl

/-- Reading a key after a key was set. -/
theorem get?_set (key k : Text) (v : Json) (fs : Fields) :
    get? key (set k v fs) = if k = key then some v else get? key fs := by
  induction fs with
  | nil => rfl
  | cons f fs ih =>
    obtain ⟨k', v'⟩ := f
    by_cases h : k' = k
    · subst h
      by_cases h2 : k' = key <;> simp [set, get?, h2]
    · by_cases h2 : k' = key
      · subst h2
        simp [set, get?, h, Ne.symm h]
      · simp [set, get?, h, h2, ih]

/-- Reading a key after a key was erased. -/
theorem get?_erase (key k : Text) (fs : Fields) :
    get? key (erase k fs) = if k = key then none else get? key fs := by
  induction fs with
  | nil => simp [erase]
  | cons f fs ih =>
    obtain ⟨k', v⟩ := f
    by_cases h : k' = k
    · subst h
      by_cases h2 : k' = key
      · simpa [erase, h2] using ih
      · simpa [erase, get?, h2] using ih
    · by_cases h2 : k' = key
      · subst h2
        simp [erase, get?, h, Ne.symm h]
      · simpa [erase, get?, h, h2] using ih

theorem get?_eq_none_iff {key : Text} {fs : Fields} :
    get? key fs = none ↔ fs.has key = false := by
  induction fs with
  | nil => simp [has]
  | cons f fs ih =>
    obtain ⟨k, v⟩ := f
    by_cases h : k = key
    · simp [get?, has, h]
    · simp only [get?, h, if_false, ih, has, List.any_cons]
      simp [h]

end Fields

namespace Json

/-- The name of a value's kind in messages. -/
def kindName : Json → Text
  | .null => "NoneType"
  | .bool _ => "bool"
  | .int _ => "int"
  | .float _ => "float"
  | .text _ => "str"
  | .moment _ => "datetime"
  | .list _ => "list"
  | .object _ => "dict"

/-- Whether a value counts as present: not null, false, zero or empty. -/
def isPresent : Json → Bool
  | .null => false
  | .bool b => b
  | .int n => n != 0
  | .float x => x != 0.0
  | .text t => t != []
  | .moment _ => true
  | .list items => !items.isEmpty
  | .object fields => !fields.isEmpty

/-- The fields of an object. -/
def fields? : Json → Option Fields
  | .object fs => some fs
  | _ => none

/-- The text of a text value. -/
def text? : Json → Option Text
  | .text t => some t
  | _ => none

/-- Whether a value is the given text. -/
def isText (t : Text) : Json → Bool
  | .text u => u == t
  | _ => false

mutual

/-- A value as it stands in messages. -/
def display : Json → Text
  | .null => "None"
  | .bool b => if b then "True" else "False"
  | .int n => Text.ofInt n
  | .float x => Text.ofFloat x
  | .text t => t.quoted
  | .moment t => t
  | .list items => "[" ++ Text.join ", " (displayItems items) ++ "]"
  | .object fields => "\x7b" ++ Text.join ", " (displayFields fields) ++ "\x7d"

/-- The items of a list as they stand in messages. -/
def displayItems : List Json → List Text
  | [] => []
  | v :: vs => display v :: displayItems vs

/-- The fields of an object as they stand in messages. -/
def displayFields : List (Text × Json) → List Text
  | [] => []
  | (k, v) :: fs => (k.quoted ++ ": " ++ display v) :: displayFields fs

end

/-- A value put into a text: a text as it is, any other value as it is displayed. -/
def shown : Json → Text
  | .text t => t
  | v => v.display

end Json

end KernelJob

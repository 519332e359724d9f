import KernelJob.Json.Basic

/-! # Values of an unexpected shape

Kernels and documents may hold any JSON value where an object, a list or a text is expected. A
`Misfit` says what was missing, and the accessors here fail with one.
-/

namespace KernelJob

/-- How a value fails to have the shape that its use asks for. -/
inductive Misfit
  /-- An object lacks a key. -/
  | missingKey (key : Text)
  /-- A value of some kind has no such operation. -/
  | noOperation (kind operation : Text)
  /-- A value of some kind has no items to go through. -/
  | noItems (kind : Text)
  /-- A value of some kind holds nothing that could be looked for. -/
  | noMembers (kind : Text)
  /-- A value of some kind has no fields. -/
  | noFields (kind : Text)
  /-- A list was asked for a field. -/
  | listField
  /-- A text was asked for a field. -/
  | textField
  /-- The item of a list at some index is not a text. -/
  | itemNotText (index : Nat) (kind : Text)
  /-- A value of some kind was to be appended to a text. -/
  | notAppendable (kind : Text)
  /-- A value of some kind was to be scanned as a text. -/
  | notScannable (kind : Text)
  /-- A value of some kind was to be written as a text. -/
  | notWritable (kind : Text)
  /-- A value of some kind was to be decoded as a text. -/
  | notDecodable (kind : Text)
  /-- A value of some kind was to be a path. -/
  | noPath (kind : Text)
  /-- A value of some kind was to be a number of repetitions. -/
  | notCountable (kind : Text)
  /-- A value of some kind was to be a whole number. -/
  | notWhole (kind : Text)
  /-- A value of some kind was to be the index of an item. -/
  | notAnIndex (kind : Text)
  /-- A value of some kind was to be looked up. -/
  | notAKey (kind : Text)
  /-- A field of a value of some kind was to be set. -/
  | notAssignable (kind : Text)
  /-- A value of some kind was to be read as a JSON text. -/
  | notReadable (kind : Text)
  /-- A value of some kind stands where there is an operation. -/
  | notAnOperation (kind : Text)
deriving DecidableEq, Repr

/-- What the message of a misfit says. -/
def Misfit.message : Misfit → Text
  | .missingKey key => key.quoted
  | .noOperation kind operation =>
    "'" ++ kind ++ "' object has no attribute '" ++ operation ++ "'"
  | .noItems kind => "'" ++ kind ++ "' object is not iterable"
  | .noMembers kind => "argument of type '" ++ kind ++ "' is not iterable"
  | .noFields kind => "'" ++ kind ++ "' object is not subscriptable"
  | .listField => "list indices must be integers or slices, not str"
  | .textField => "string indices must be integers, not 'str'"
  | .itemNotText i kind =>
    "sequence item " ++ Text.ofNat i ++ ": expected str instance, " ++ kind ++ " found"
  | .notAppendable kind => "can only concatenate str (not \"" ++ kind ++ "\") to str"
  | .notScannable kind => "expected string or bytes-like object, got '" ++ kind ++ "'"
  | .notWritable kind => "data must be str, not " ++ kind
  | .notDecodable kind =>
    "argument should be a bytes-like object or ASCII string, not '" ++ kind ++ "'"
  | .noPath kind => "expected str, bytes or os.PathLike object, not " ++ kind
  | .notCountable kind => "can't multiply sequence by non-int of type '" ++ kind ++ "'"
  | .notWhole kind =>
    "int() argument must be a string, a bytes-like object or a real number, not '" ++ kind ++ "'"
  | .notAnIndex kind => "'" ++ kind ++ "' object cannot be interpreted as an integer"
  | .notAKey kind => "unhashable type: '" ++ kind ++ "'"
  | .notAssignable kind => "'" ++ kind ++ "' object does not support item assignment"
  | .notReadable kind => "the JSON object must be str, bytes or bytearray, not " ++ kind
  | .notAnOperation kind => "'" ++ kind ++ "' object is not callable"

namespace Json

/-- The value of a key of an object, or another value if the object lacks it. -/
def fieldOr (value : Json) (key : Text) (other : Json) : Except Misfit Json :=
  match value with
  | .object fields => .ok ((Fields.get? key fields).getD other)
  | v => .error (.noOperation v.kindName "get")

/-- The value of a key. -/
def field (value : Json) (key : Text) : Except Misfit Json :=
  match value with
  | .object fields =>
    match Fields.get? key fields with
    | some v => .ok v
    | none => .error (.missingKey key)
  | .list _ => .error .listField
  | .text _ => .error .textField
  | v => .error (.noFields v.kindName)

/-- Whether something is found in a value: a key in an object, an item in a list, a part in a
text. -/
def holds (value : Json) (t : Text) : Except Misfit Bool :=
  match value with
  | .object fields => .ok (Fields.has fields t)
  | .list items => .ok (items.any (·.isText t))
  | .text u => .ok (Text.containsText t u)
  | v => .error (.noMembers v.kindName)

/-- What a value is gone through by: the items of a list, the code points of a text, the keys of an
object. -/
def items : Json → Except Misfit (List Json)
  | .list items => .ok items
  | .text t => .ok (t.map fun c => .text [c])
  | .object fields => .ok (fields.map fun f => .text f.1)
  | v => .error (.noItems v.kindName)

/-- The texts of a list one after the other; `index` is the index of its first item. -/
def joinedFrom (index : Nat) : List Json → Except Misfit Text
  | [] => .ok []
  | .text t :: vs => (joinedFrom (index + 1) vs).map (t ++ ·)
  | v :: _ => .error (.itemNotText index v.kindName)

/-- A list of texts as one text, any other value as it is. -/
def joined : Json → Except Misfit Json
  | .list items => (joinedFrom 0 items).map .text
  | v => .ok v

/-- The texts of a list, if it holds nothing else. -/
def texts? : List Json → Option (List Text)
  | [] => some []
  | .text t :: vs => (texts? vs).map (t :: ·)
  | _ => none

/-- The text of a value that is a text or a list of texts. -/
def sourceText? : Json → Option Text
  | .text t => some t
  | .list items => (texts? items).map Text.concat
  | _ => none

/-- Whether a value is null. -/
def isNull : Json → Bool
  | .null => true
  | _ => false

/-- Whether a value is a text. -/
def isTextual : Json → Bool
  | .text _ => true
  | _ => false

/-- Whether a value is an object. -/
def isObject : Json → Bool
  | .object _ => true
  | _ => false

/-- Whether a value is a text or a list of texts. -/
def isSource : Json → Bool
  | .list items => items.all isTextual
  | v => v.isTextual

end Json

/-- Why a part of a document was not read. -/
inductive Unread (α : Type)
  /-- It lacks something that is required. -/
  | lacking (fault : α)
  /-- A value in it was used as what it is not. -/
  | misfit (misfit : Misfit)
deriving DecidableEq, Repr

namespace Unread

variable {α β : Type}

/-- What is required of a part. -/
def require (holds : Bool) (fault : α) : Except (Unread α) Unit :=
  if holds then .ok () else .error (.lacking fault)

/-- A use of a value in a part. -/
def use (r : Except Misfit β) : Except (Unread α) β := r.mapError .misfit

/-- The value as a text, of which the lines can be taken. -/
def useText : Json → Except (Unread α) Text
  | .text t => .ok t
  | v => .error (.misfit (.noOperation v.kindName "splitlines"))

variable {γ : Type}

@[simp] theorem require_true_bind (fault : α) (f : Unit → Except (Unread α) γ) :
    require true fault >>= f = f () := rfl

@[simp] theorem require_false_bind (fault : α) (f : Unit → Except (Unread α) γ) :
    require false fault >>= f = .error (.lacking fault) := rfl

@[simp] theorem use_ok_bind (b : β) (f : β → Except (Unread α) γ) :
    use (.ok b) >>= f = f b := rfl

end Unread

end KernelJob

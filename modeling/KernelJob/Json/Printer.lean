import KernelJob.Json.Basic
import KernelJob.Text.Utf8

/-! # Writing JSON

The indented form of a JSON value: two blanks for each level, one field or item a line, an empty
list or object on one line. Code points outside ASCII stand as they are, and dates and times as
strings. A value is written only if UTF-8 can hold all of its texts.
-/

namespace KernelJob.Json

/-- How a code point stands in a JSON string. -/
def escapedPoint (c : CodePoint) : Text :=
  if c.val = 34 then "\\\""
  else if c.val = 92 then "\\\\"
  else if c.val = 8 then "\\b"
  else if c.val = 9 then "\\t"
  else if c.val = 10 then "\\n"
  else if c.val = 12 then "\\f"
  else if c.val = 13 then "\\r"
  else if c.val < 32 then "\\u" ++ Text.hex 4 c.val
  else [c]

/-- A text as a JSON string. -/
def string (t : Text) : Text := "\"" ++ t.flatMap escapedPoint ++ "\""

/-- The start of a line at some level. -/
def newLine (level : Nat) : Text := "\n" ++ List.replicate (2 * level) (CodePoint.ofChar ' ')

mutual

/-- A value in indented form, at some level. -/
def indented (level : Nat) : Json → Text
  | .null => "null"
  | .bool b => if b then "true" else "false"
  | .int n => Text.ofInt n
  | .float x => Text.ofFloat x
  | .text t => string t
  | .moment t => string t
  | .list items =>
    if items.isEmpty then "[]"
    else "[" ++ indentedItems (level + 1) items ++ newLine level ++ "]"
  | .object fields =>
    if fields.isEmpty then "\x7b\x7d"
    else "\x7b" ++ indentedFields (level + 1) fields ++ newLine level ++ "\x7d"

/-- The items of a list, each on a line of its own. -/
def indentedItems (level : Nat) : List Json → Text
  | [] => []
  | [v] => newLine level ++ indented level v
  | v :: w :: vs => newLine level ++ indented level v ++ "," ++ indentedItems level (w :: vs)

/-- The fields of an object, each on a line of its own. -/
def indentedFields (level : Nat) : List (Text × Json) → Text
  | [] => []
  | [(k, v)] => newLine level ++ string k ++ ": " ++ indented level v
  | (k, v) :: f :: fs =>
    newLine level ++ string k ++ ": " ++ indented level v ++ "," ++ indentedFields level (f :: fs)

end

/-! ## Texts that cannot be written -/

mutual

/-- Why a value cannot be written: the fault of the first text that UTF-8 cannot hold. -/
def encodeFault? : Json → Option EncodeFault
  | .text t => Text.utf8Fault? t
  | .list items => encodeFaultIn? items
  | .object fields => encodeFaultUnder? fields
  | _ => none

/-- Why the items of a list cannot be written. -/
def encodeFaultIn? : List Json → Option EncodeFault
  | [] => none
  | v :: vs => (encodeFault? v).or (encodeFaultIn? vs)

/-- Why the fields of an object cannot be written. -/
def encodeFaultUnder? : List (Text × Json) → Option EncodeFault
  | [] => none
  | (k, v) :: fs => ((Text.utf8Fault? k).or (encodeFault? v)).or (encodeFaultUnder? fs)

end

/-- The indented text of a value. -/
def written (v : Json) : Except EncodeFault Text :=
  match v.encodeFault? with
  | none => .ok (v.indented 0)
  | some fault => .error fault

end KernelJob.Json

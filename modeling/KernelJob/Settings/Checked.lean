import KernelJob.Json.Reader
import KernelJob.Text.Utf8

/-! # Checking values

Settings come as JSON values and are checked field by field: each field is read as its type, with
the usual leniency for texts that spell numbers and truth values. All complaints about a value are
gathered, each with the place that it is about.
-/

namespace KernelJob

/-- A step from a value to a part of it. -/
inductive Step
  | key (key : Text)
  | index (index : Nat)
deriving DecidableEq, Repr

/-- What is wrong with a value. -/
inductive Problem
  | missing
  | notText
  /-- A text that no sequence of bytes stands for was to be read as something else. -/
  | notEncodable
  | notNumber
  | notNumberText
  | notInteger
  | notIntegerText
  | fractional
  | tooLarge
  | notFinite
  | notTruth
  | notTruthText
  | notPositive
  | negative
  | notList
  | notModel (name : Text)
  | notOutcome
  | custom (text : Text)
deriving DecidableEq, Repr

namespace Problem

/-- The code of a problem. -/
def code : Problem → Text
  | .missing => "missing"
  | .notText => "string_type"
  | .notEncodable => "string_unicode"
  | .notNumber => "float_type"
  | .notNumberText => "float_parsing"
  | .notInteger => "int_type"
  | .notIntegerText => "int_parsing"
  | .fractional => "int_from_float"
  | .tooLarge => "int_parsing_size"
  | .notFinite => "finite_number"
  | .notTruth => "bool_type"
  | .notTruthText => "bool_parsing"
  | .notPositive => "greater_than"
  | .negative => "greater_than_equal"
  | .notList => "list_type"
  | .notModel _ => "model_type"
  | .notOutcome => "enum"
  | .custom _ => "value_error"

/-- A problem in words. -/
def message : Problem → Text
  | .missing => "Field required"
  | .notText => "Input should be a valid string"
  | .notEncodable =>
    "Input should be a valid string, unable to parse raw data as a unicode string"
  | .notNumber => "Input should be a valid number"
  | .notNumberText => "Input should be a valid number, unable to parse string as a number"
  | .notInteger => "Input should be a valid integer"
  | .notIntegerText => "Input should be a valid integer, unable to parse string as an integer"
  | .fractional => "Input should be a valid integer, got a number with a fractional part"
  | .tooLarge => "Unable to parse input string as an integer, exceeded maximum size"
  | .notFinite => "Input should be a finite number"
  | .notTruth => "Input should be a valid boolean"
  | .notTruthText => "Input should be a valid boolean, unable to interpret input"
  | .notPositive => "Input should be greater than 0"
  | .negative => "Input should be greater than or equal to 0"
  | .notList => "Input should be a valid list"
  | .notModel name => "Input should be a valid dictionary or instance of " ++ name
  | .notOutcome => "Input should be 'success' or 'fault'"
  | .custom text => "Value error, " ++ text

end Problem

/-- A problem and the place that it is about. -/
structure Complaint where
  place : List Step
  problem : Problem
deriving DecidableEq, Repr

/-- Why the text of a complaint of its own kind cannot be put down in UTF-8. -/
def Complaint.encodeFault? (c : Complaint) : Option EncodeFault :=
  match c.problem with
  | .custom t => Text.utf8Fault? t
  | _ => none

/-- How many complaints there are about a value of a named model. -/
def Complaint.summary (model : Text) (es : List Complaint) : Text :=
  Text.ofNat es.length ++
    (if es.length = 1 then " validation error for " else " validation errors for " : Text) ++ model

/-- A checked value, or all complaints about it. -/
abbrev Checked (α : Type) := Except (List Complaint) α

namespace Checked

/-- Two checked values; the complaints about both come in order. -/
def both {α β : Type} : Checked α → Checked β → Checked (α × β)
  | .ok a, .ok b => .ok (a, b)
  | .ok _, .error es => .error es
  | .error es, .ok _ => .error es
  | .error es, .error fs => .error (es ++ fs)

/-- A checked value whose complaints are about a part of something. -/
def under {α : Type} (step : Step) : Checked α → Checked α
  | .ok a => .ok a
  | .error es => .error (es.map fun e => { e with place := step :: e.place })

/-- A reading as a checked value, for the value as a whole. -/
def ofReading {α : Type} : Except Problem α → Checked α
  | .ok a => .ok a
  | .error p => .error [⟨[], p⟩]

/-- A field of an object, or another value if it is missing. -/
def fieldOr {α : Type} (fields : Fields) (key : Text) (other : α) (read : Json → Checked α) :
    Checked α :=
  match fields.get? key with
  | none => .ok other
  | some v => (read v).under (.key key)

/-- A field that an object has to have. -/
def required {α : Type} (fields : Fields) (key : Text) (read : Json → Checked α) : Checked α :=
  match fields.get? key with
  | none => .error [⟨[.key key], .missing⟩]
  | some v => (read v).under (.key key)

/-- Values checked one after the other, from some index on. -/
def itemsFrom {α : Type} (read : Json → Checked α) (index : Nat) : List Json → Checked (List α)
  | [] => .ok []
  | v :: vs =>
    (((read v).under (.index index)).both (itemsFrom read (index + 1) vs)).map fun p => p.1 :: p.2

/-- The items of a list. -/
def list {α : Type} (read : Json → Checked α) : Json → Checked (List α)
  | .list vs => itemsFrom read 0 vs
  | _ => .error [⟨[], .notList⟩]

@[simp] theorem both_eq_ok_iff {α β : Type} {x : Checked α} {y : Checked β} {p : α × β} :
    both x y = .ok p ↔ x = .ok p.1 ∧ y = .ok p.2 := by
  cases x <;> cases y <;> cases p <;> simp [both]

end Checked

/-! ## Readings -/

namespace Json

/-- White space around a text that spells a value; separators do not count. -/
def isPadding (c : CodePoint) : Bool :=
  (9 ≤ c.val && c.val ≤ 13) || c.val == 32 || c.val == 0x85 || c.val == 0xA0 || c.val == 0x1680 ||
  (0x2000 ≤ c.val && c.val ≤ 0x200A) || c.val == 0x2028 || c.val == 0x2029 || c.val == 0x202F ||
  c.val == 0x205F || c.val == 0x3000

/-- A text without the white space around it. -/
def stripPadding (t : Text) : Text :=
  ((t.dropWhile isPadding).reverse.dropWhile isPadding).reverse

/-- The underscore. -/
def underscore : CodePoint := CodePoint.ofNat 95

/-- A text with underscores taken out, if it has any and all of them are single ones inside it. -/
def withoutUnderscores? (t : Text) : Option Text :=
  if t.head? = some underscore ∨ t.getLast? = some underscore ∨ ¬ t.any (· == underscore) ∨
      Text.containsText [underscore, underscore] t then none
  else some (t.filter (· != underscore))

/-- A text value. -/
def readText : Json → Except Problem Text
  | .text t => .ok t
  | _ => .error .notText

/-- A text that is to be read as something else: surrogates have no such meaning. -/
def spelling (t : Text) : Except Problem Text :=
  if t.hasSurrogate then .error .notEncodable else .ok t

/-- The letters of a word in lower case, ASCII letters only. -/
def lowerAscii (t : Text) : Text :=
  t.map fun c => if 65 ≤ c.val ∧ c.val ≤ 90 then CodePoint.ofNat (c.val + 32) else c

/-- A decimal without its sign: digits with a point somewhere, and an exponent. -/
def unsignedDecimal? (t : Text) : Option Float :=
  let whole := t.takeWhile CodePoint.isDigit
  let rest := t.dropWhile CodePoint.isDigit
  let (fraction, rest) := match rest with
    | p :: rest =>
      if p.val = 46 then (rest.takeWhile CodePoint.isDigit, rest.dropWhile CodePoint.isDigit)
      else ([], p :: rest)
    | [] => ([], [])
  if whole.isEmpty && fraction.isEmpty then none
  else
    let value := digitsValue (whole ++ fraction)
    if rest.isEmpty then some (nearestFloat value (-(fraction.length : Int)))
    else
      match exponent? rest with
      | some (e, []) => some (nearestFloat value (e - fraction.length))
      | _ => none

/-- The double that a text spells. -/
def spelledFloat? (t : Text) : Option Float :=
  let (negative, t) := Numeral.takeSign t
  let word := lowerAscii t
  let x :=
    if word = "inf" ∨ word = "infinity" then some positiveInfinity
    else if word = "nan" then some notANumber
    else unsignedDecimal? t
  x.map fun x => if negative then -x else x

/-- The double that a text spells with white space around it, or with underscores inside it. -/
def spelledNumber (t : Text) : Except Problem Float :=
  match spelledFloat? (stripPadding t) with
  | some x => .ok x
  | none =>
    match (withoutUnderscores? t).bind spelledFloat? with
    | some x => .ok x
    | none => .error .notNumberText

/-- A number as a double. -/
def readFloat : Json → Except Problem Float
  | .float x => .ok x
  | .int n =>
    let x := nearestFloatOfInt n
    if (Binary.ofFloat x).truncate?.isSome then .ok x else .error .notNumber
  | .bool b => .ok (if b then 1.0 else 0.0)
  | .text t =>
    match spelling t with
    | .ok t => spelledNumber t
    | .error p => .error p
  | _ => .error .notNumber

/-- The digit zero. -/
def zero : CodePoint := CodePoint.ofNat 48

/-- The minus sign. -/
def minus : CodePoint := CodePoint.ofNat 45

/-- The whole number that a text spells as JSON does: a minus sign, if there is one, and then a
single zero or digits that do not begin with a zero. Digits past the limit are counted before it
matters what follows them. -/
def plainInt (t : Text) : Except Problem Int :=
  let negative := t.head? = some minus
  match wholePart? (if negative then t.tail else t) with
  | none => .error .notIntegerText
  | some (digits, rest) =>
    if digitLimit < digits.length then .error .tooLarge
    else if rest.isEmpty then
      .ok (if negative then -(digitsValue digits : Int) else digitsValue digits)
    else .error .notIntegerText

/-- What follows a leading zero `last`: more zeros and underscores are passed over up to a digit or
a minus sign. A point keeps the code point before it, and so does the end. -/
def afterZero (last : CodePoint) : Text → Option Text
  | [] => some [last]
  | c :: cs =>
    if c = zero ∨ c = underscore then afterZero c cs
    else if c.isDigit ∨ c = minus then some (c :: cs)
    else if c.val = 46 then some (last :: c :: cs)
    else none

/-- A text without the zeros at its start; it has to begin with a digit or a minus sign. -/
def withoutZeros? : Text → Option Text
  | [] => none
  | c :: cs =>
    if c = zero then afterZero c cs
    else if c.isDigit ∨ c = minus then some (c :: cs)
    else none

/-- A text without a point and nothing but zeros after it. -/
def withoutZeroFraction (t : Text) : Text :=
  match t.dropWhile (·.val != 46) with
  | _ :: z :: zs => if (z :: zs).all (· == zero) then t.takeWhile (·.val != 46) else t
  | _ => t

/-- A text that spells a whole number, brought to plain form: without white space around it, a plus
sign, zeros at the start, a fraction of zeros, and single underscores inside it. -/
def plainForm? (t : Text) : Option Text :=
  let t := stripPadding t
  let signed := t.head? = some (CodePoint.ofNat 43)
  let t := if signed then t.tail else t
  let negative := t.head? = some minus
  if signed ∧ negative then none
  else
    (withoutZeros? (if negative then t.tail else t)).map fun digits =>
      let t := withoutZeroFraction (if negative then minus :: digits else digits)
      (withoutUnderscores? t).getD t

/-- The whole number that a text spells. Too many digits are a problem of their own only in a text
that begins with them. -/
def spelledInt (t : Text) : Except Problem Int :=
  match plainInt t with
  | .error .notIntegerText =>
    match (plainForm? t).map plainInt with
    | some (.ok n) => .ok n
    | _ => .error .notIntegerText
  | r => r

/-- The least whole number above those of a signed machine word. -/
def wordBound : Int := 0x8000000000000000

/-- A whole number. -/
def readInt : Json → Except Problem Int
  | .int n => .ok n
  | .bool b => .ok (if b then 1 else 0)
  | .float x =>
    match Binary.ofFloat x with
    | .finite negative m e =>
      match (Binary.finite negative m e).whole? with
      | none => .error .fractional
      | some n => if -wordBound < n ∧ n < wordBound then .ok n else .error .tooLarge
    | _ => .error .notFinite
  | .text t =>
    match spelling t with
    | .ok t => spelledInt t
    | .error p => .error p
  | _ => .error .notInteger

/-- The words for true. -/
def trueWords : List Text := ["1", "t", "y", "on", "yes", "true"]

/-- The words for false. -/
def falseWords : List Text := ["0", "f", "n", "no", "off", "false"]

/-- The truth value of a whole number. -/
def truthOf (n : Int) : Except Problem Bool :=
  if n = 0 then .ok false else if n = 1 then .ok true else .error .notTruthText

/-- A truth value. -/
def readBool : Json → Except Problem Bool
  | .bool b => .ok b
  | .int n => if -wordBound ≤ n ∧ n < wordBound then truthOf n else .error .notTruth
  | .float x =>
    match (Binary.ofFloat x).whole? with
    | some n => if -wordBound < n ∧ n < wordBound then truthOf n else .error .notTruth
    | none => .error .notTruth
  | .text t =>
    match spelling t with
    | .error p => .error p
    | .ok t =>
      let word := lowerAscii t
      if trueWords.contains word then .ok true
      else if falseWords.contains word then .ok false
      else .error .notTruthText
  | _ => .error .notTruth

/-- The fields of an object that stands for a value of a named model. -/
def readFields (model : Text) : Json → Except Problem Fields
  | .object fields => .ok fields
  | _ => .error (.notModel model)

end Json

end KernelJob

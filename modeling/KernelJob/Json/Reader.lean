import KernelJob.Decimal.Numeral
import KernelJob.Json.Basic

/-! # Reading JSON

A reader for JSON texts that also takes `NaN`, `Infinity` and `-Infinity`. A failure names what was
expected and where; of two fields with one key the last wins. Every part of the reader gives the
rest of the text; a failure holds the rest at which it arose, from which its place follows.
-/

namespace KernelJob

namespace Json

/-- What is wrong with a text that is not JSON. -/
inductive Cause
  | byteOrderMark
  | value
  | propertyName
  | colon
  | comma
  | extraData
  | unterminatedString
  | controlCharacter
  | escape
  | unicodeEscape
deriving DecidableEq, Repr

/-- What is wrong, in words. -/
def Cause.message : Cause → Text
  | .byteOrderMark => "Unexpected UTF-8 BOM (decode using utf-8-sig)"
  | .value => "Expecting value"
  | .propertyName => "Expecting property name enclosed in double quotes"
  | .colon => "Expecting ':' delimiter"
  | .comma => "Expecting ',' delimiter"
  | .extraData => "Extra data"
  | .unterminatedString => "Unterminated string starting at"
  | .controlCharacter => "Invalid control character at"
  | .escape => "Invalid \\escape"
  | .unicodeEscape => "Invalid \\uXXXX escape"

/-- Why a reader stopped. -/
inductive Stop
  /-- The text breaks the grammar where `rest` begins. -/
  | malformed (cause : Cause) (rest : Text)
  /-- A whole number has more digits than are read. -/
  | tooManyDigits (count : Nat)
deriving DecidableEq, Repr

/-- What a reader gives: a value and the rest of the text. -/
abbrev Reading (α : Type) := Except Stop (α × Text)

/-- The white space between tokens. -/
def isSpace (c : CodePoint) : Bool := c.val == 32 || c.val == 9 || c.val == 10 || c.val == 13

/-- A text without the white space at its start. -/
def skipSpace (t : Text) : Text := t.dropWhile isSpace

/-! ## Strings -/

/-- The value of a hexadecimal digit. -/
def hexValue? (c : CodePoint) : Option Nat :=
  if c.isDigit then some (c.val - 48)
  else if 65 ≤ c.val ∧ c.val ≤ 70 then some (c.val - 55)
  else if 97 ≤ c.val ∧ c.val ≤ 102 then some (c.val - 87)
  else none

/-- The number that four hexadecimal digits stand for. -/
def hex4? (a b c d : CodePoint) : Option Nat :=
  match hexValue? a, hexValue? b, hexValue? c, hexValue? d with
  | some a, some b, some c, some d => some (a * 4096 + b * 256 + c * 16 + d)
  | _, _, _, _ => none

/-- The code point of an escape of one letter. -/
def simpleEscape? (c : CodePoint) : Option CodePoint :=
  if c.val = 34 ∨ c.val = 92 ∨ c.val = 47 then some c
  else if c.val = 98 then some (CodePoint.ofNat 8)
  else if c.val = 102 then some (CodePoint.ofNat 12)
  else if c.val = 110 then some (CodePoint.ofNat 10)
  else if c.val = 114 then some (CodePoint.ofNat 13)
  else if c.val = 116 then some (CodePoint.ofNat 9)
  else none

/-- Whether a number is the first half of a surrogate pair. -/
def isHighSurrogate (n : Nat) : Bool := 0xD800 ≤ n && n ≤ 0xDBFF

/-- Whether a number is the second half of a surrogate pair. -/
def isLowSurrogate (n : Nat) : Bool := 0xDC00 ≤ n && n ≤ 0xDFFF

/-- The code point of a surrogate pair. -/
def pairPoint (high low : Nat) : CodePoint :=
  CodePoint.ofNat (0x10000 + (high - 0xD800) * 0x400 + (low - 0xDC00))

/-- A code point put before the text that a reader gives. -/
def prepend (c : CodePoint) : Reading Text → Reading Text
  | .ok (t, rest) => .ok (c :: t, rest)
  | .error stop => .error stop

/-- The inside of a string up to its closing quote; `start` begins with the opening quote. -/
def stringBody (start : Text) : Text → Reading Text
  | [] => .error (.malformed .unterminatedString start)
  | c :: cs =>
    if c.val = 34 then .ok ([], cs)
    else if c.val = 92 then
      match cs with
      | [] => .error (.malformed .unterminatedString start)
      | e :: es =>
        if e.val = 117 then
          match es with
          | h₁ :: h₂ :: h₃ :: h₄ :: rest =>
            match hex4? h₁ h₂ h₃ h₄ with
            | none => .error (.malformed .unicodeEscape (e :: es))
            | some n =>
              if rest.isEmpty then .error (.malformed .unicodeEscape (e :: es))
              else if isHighSurrogate n then
                match rest with
                | b :: u :: l₁ :: l₂ :: l₃ :: l₄ :: tail =>
                  if b.val = 92 ∧ u.val = 117 ∧ ¬ tail.isEmpty then
                    match hex4? l₁ l₂ l₃ l₄ with
                    | none =>
                      .error (.malformed .unicodeEscape (u :: l₁ :: l₂ :: l₃ :: l₄ :: tail))
                    | some m =>
                      if isLowSurrogate m then prepend (pairPoint n m) (stringBody start tail)
                      else prepend (CodePoint.ofNat n)
                        (stringBody start (b :: u :: l₁ :: l₂ :: l₃ :: l₄ :: tail))
                  else prepend (CodePoint.ofNat n)
                    (stringBody start (b :: u :: l₁ :: l₂ :: l₃ :: l₄ :: tail))
                | rest => prepend (CodePoint.ofNat n) (stringBody start rest)
              else prepend (CodePoint.ofNat n) (stringBody start rest)
          | _ => .error (.malformed .unicodeEscape (e :: es))
        else
          match simpleEscape? e with
          | some p => prepend p (stringBody start es)
          | none => .error (.malformed .escape (c :: e :: es))
    else if c.val < 32 then .error (.malformed .controlCharacter (c :: cs))
    else prepend c (stringBody start cs)

/-! ## Numbers -/

/-- The fraction of a number: a point and at least one digit. -/
def fraction? : Text → Option (Text × Text)
  | p :: d :: rest =>
    if p.val = 46 ∧ d.isDigit then
      some (d :: rest.takeWhile CodePoint.isDigit, rest.dropWhile CodePoint.isDigit)
    else none
  | _ => none

/-- The exponent of a number: the letter, a sign if there is one, and at least one digit. -/
def exponent? : Text → Option (Int × Text)
  | e :: rest =>
    if e.val = 101 ∨ e.val = 69 then
      let (negative, digits) := Numeral.takeSign rest
      let body := digits.takeWhile CodePoint.isDigit
      if body.isEmpty then none
      else
        let n : Int := digitsValue body
        some (if negative then -n else n, digits.dropWhile CodePoint.isDigit)
    else none
  | [] => none

/-- The whole part of a number: a single zero, or digits that do not begin with a zero. -/
def wholePart? : Text → Option (Text × Text)
  | d :: rest =>
    if d.val = 48 then some ([d], rest)
    else if d.isDigit then
      some (d :: rest.takeWhile CodePoint.isDigit, rest.dropWhile CodePoint.isDigit)
    else none
  | [] => none

/-- The value of a number from its parts. -/
def numberValue (negative : Bool) (whole : Text) (fraction : Option Text) (exponent : Option Int) :
    Except Stop Json :=
  match fraction, exponent with
  | none, none =>
    if digitLimit < whole.length then .error (.tooManyDigits whole.length)
    else
      let n : Int := digitsValue whole
      .ok (.int (if negative then -n else n))
  | fraction, exponent =>
    let digits := whole ++ fraction.getD []
    let x := nearestFloat (digitsValue digits) (exponent.getD 0 - (fraction.getD []).length)
    .ok (.float (if negative then -x else x))

/-- A number; `start` is where a failure is reported. -/
def number (start : Text) (negative : Bool) (t : Text) : Reading Json :=
  match wholePart? t with
  | none => .error (.malformed .value start)
  | some (whole, rest) =>
    let (fraction, rest) := match fraction? rest with
      | some (f, rest) => (some f, rest)
      | none => (none, rest)
    let (exponent, rest) := match exponent? rest with
      | some (e, rest) => (some e, rest)
      | none => (none, rest)
    (numberValue negative whole fraction exponent).map (·, rest)

/-! ## Values -/

/-- The words that stand for values. -/
def words : List (Text × Json) :=
  [("null", .null), ("true", .bool true), ("false", .bool false), ("NaN", .float notANumber),
    ("Infinity", .float positiveInfinity), ("-Infinity", .float (-positiveInfinity))]

/-- The word at the start of a text and what follows it. -/
def word? (t : Text) : Option (Json × Text) :=
  words.findSome? fun w => if w.1.isPrefixOf t then some (w.2, t.drop w.1.length) else none

mutual

/-- A value. Two steps of the reader take away at least one code point, each a unit of fuel. -/
def value : Nat → Text → Reading Json
  | 0, t => .error (.malformed .value t)
  | _ + 1, [] => .error (.malformed .value [])
  | fuel + 1, c :: cs =>
    if c.val = 34 then (stringBody (c :: cs) cs).map fun r => (.text r.1, r.2)
    else if c.val = 123 then
      match skipSpace cs with
      | d :: ds => if d.val = 125 then .ok (.object [], ds) else members fuel [] (d :: ds)
      | [] => members fuel [] []
    else if c.val = 91 then
      match skipSpace cs with
      | d :: ds => if d.val = 93 then .ok (.list [], ds) else elements fuel [] (d :: ds)
      | [] => elements fuel [] []
    else
      match word? (c :: cs) with
      | some (v, rest) => .ok (v, rest)
      | none =>
        if c.val = 45 then number (c :: cs) true cs else number (c :: cs) false (c :: cs)

/-- The fields of an object up to its closing brace, after those already read. -/
def members : Nat → Fields → Text → Reading Json
  | 0, _, t => .error (.malformed .propertyName t)
  | _ + 1, _, [] => .error (.malformed .propertyName [])
  | fuel + 1, fields, c :: cs =>
    if c.val = 34 then
      match stringBody (c :: cs) cs with
      | .error stop => .error stop
      | .ok (key, rest) =>
        match skipSpace rest with
        | [] => .error (.malformed .colon [])
        | d :: ds =>
          if d.val = 58 then
            match value fuel (skipSpace ds) with
            | .error stop => .error stop
            | .ok (v, rest) =>
              let fields := fields.set key v
              match skipSpace rest with
              | [] => .error (.malformed .comma [])
              | e :: es =>
                if e.val = 125 then .ok (.object fields, es)
                else if e.val = 44 then members fuel fields (skipSpace es)
                else .error (.malformed .comma (e :: es))
          else .error (.malformed .colon (d :: ds))
    else .error (.malformed .propertyName (c :: cs))

/-- The items of a list up to its closing bracket, after those already read, last first. -/
def elements : Nat → List Json → Text → Reading Json
  | 0, _, t => .error (.malformed .value t)
  | fuel + 1, items, t =>
    match value fuel t with
    | .error stop => .error stop
    | .ok (v, rest) =>
      match skipSpace rest with
      | [] => .error (.malformed .comma [])
      | e :: es =>
        if e.val = 93 then .ok (.list (v :: items).reverse, es)
        else if e.val = 44 then elements fuel (v :: items) (skipSpace es)
        else .error (.malformed .comma (e :: es))

end

/-! ## Documents -/

/-- A place in a text: its line and column from one on, and the number of code points before it. -/
structure Position where
  line : Nat
  column : Nat
  offset : Nat
deriving DecidableEq, Repr

/-- The place after some code points. -/
def Position.after (before : Text) : Position :=
  ⟨before.countP (·.val == 10) + 1, (before.reverse.takeWhile (·.val != 10)).length + 1,
    before.length⟩

/-- Why a text is no JSON document. -/
inductive Fault
  | malformed (cause : Cause) (position : Position)
  | tooManyDigits (count : Nat)
deriving DecidableEq, Repr

/-- What the message of a failure says. -/
def Fault.message : Fault → Text
  | .malformed cause p =>
    cause.message ++ ": line " ++ Text.ofNat p.line ++ " column " ++ Text.ofNat p.column ++
      " (char " ++ Text.ofNat p.offset ++ ")"
  | .tooManyDigits n => (Numeral.Fault.tooManyDigits n).message

/-- The failure that a stop means in a text. -/
def Stop.fault (t : Text) : Stop → Fault
  | .malformed cause rest => .malformed cause (.after (t.take (t.length - rest.length)))
  | .tooManyDigits n => .tooManyDigits n

/-- The byte order mark. -/
def byteOrderMark : CodePoint := CodePoint.ofNat 0xFEFF

/-- A value with nothing but white space around it. -/
def readDocument (t : Text) : Except Stop Json :=
  if t.head? = some byteOrderMark then .error (.malformed .byteOrderMark t)
  else
    match value (2 * t.length + 2) (skipSpace t) with
    | .error stop => .error stop
    | .ok (v, rest) =>
      match skipSpace rest with
      | [] => .ok v
      | c :: cs => .error (.malformed .extraData (c :: cs))

/-- The value of a JSON document. -/
def read (t : Text) : Except Fault Json := (readDocument t).mapError (Stop.fault t)

end Json

end KernelJob

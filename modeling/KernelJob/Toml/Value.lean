import KernelJob.Json.Reader

/-! # Values in TOML

The keys, strings, numbers, lists and inline tables of a TOML document. A reader gives the value
and the rest of the text, or nothing if the text breaks the grammar.
-/

namespace KernelJob.Toml

/-- What a reader gives: a value and the rest of the text. -/
abbrev Reading (α : Type) := Option (α × Text)

/-- The blanks within a line. -/
def isBlank (c : CodePoint) : Bool := c.val == 32 || c.val == 9

/-- The blanks within a line and the ends of lines. -/
def isSpace (c : CodePoint) : Bool := isBlank c || c.val == 10

/-- A text without the blanks at its start. -/
def skipBlanks (t : Text) : Text := t.dropWhile isBlank

/-- The controls that no line of a document may hold. -/
def isIllegal (c : CodePoint) : Bool := (c.val < 32 && c.val != 9) || c.val == 127

/-- The controls that no string of several lines may hold. -/
def isIllegalInLines (c : CodePoint) : Bool := isIllegal c && c.val != 10

/-- A text without the comment at its start, up to the end of the line. -/
def skipComment : Text → Option Text
  | c :: cs =>
    if c.val = 35 then
      if (cs.takeWhile (·.val != 10)).any isIllegal then none else some (cs.dropWhile (·.val != 10))
    else some (c :: cs)
  | [] => some []

/-- A text without the blanks, line ends and comments at its start. -/
def skipSpaceFuel : Nat → Text → Option Text
  | 0, t => some t
  | fuel + 1, t =>
    match t.dropWhile isSpace with
    | c :: cs =>
      if c.val = 35 then
        match skipComment (c :: cs) with
        | none => none
        | some rest => skipSpaceFuel fuel rest
      else some (c :: cs)
    | [] => some []

/-- A text without the blanks, line ends and comments at its start. -/
def skipSpace (t : Text) : Option Text := skipSpaceFuel (t.length + 1) t

/-! ## Strings -/

/-- The number of a run of hexadecimal digits. -/
def hexNumber? (digits : Text) : Option Nat :=
  digits.foldl (fun n c => match n, Json.hexValue? c with
    | some n, some d => some (n * 16 + d)
    | _, _ => none) (some 0)

/-- The code point of an escape by number. -/
def numbered? (count : Nat) (t : Text) : Reading CodePoint :=
  if t.length < count then none
  else
    match hexNumber? (t.take count) with
    | some n =>
      if n < 0x110000 ∧ (n < 0xD800 ∨ 0xE000 ≤ n) then some (CodePoint.ofNat n, t.drop count)
      else none
    | none => none

/-- The code point of an escape by letter. -/
def lettered? (c : CodePoint) : Option CodePoint :=
  if c.val = 98 then some (CodePoint.ofNat 8)
  else if c.val = 116 then some (CodePoint.ofNat 9)
  else if c.val = 110 then some (CodePoint.ofNat 10)
  else if c.val = 102 then some (CodePoint.ofNat 12)
  else if c.val = 114 then some (CodePoint.ofNat 13)
  else if c.val = 34 ∨ c.val = 92 then some c
  else none

/-- What follows an escaped end of line: the text after all white space, which has to begin with the
blanks before a line end. -/
def afterLineEscape (t : Text) : Option Text :=
  match skipBlanks t with
  | [] => some []
  | c :: cs => if c.val = 10 then some (cs.dropWhile isSpace) else none

/-- What an escape stands for, after its backslash. -/
def escape (multiline : Bool) : Text → Reading Text
  | [] => none
  | c :: cs =>
    if multiline && isSpace c then (afterLineEscape (c :: cs)).map fun rest => ([], rest)
    else if c.val = 117 then (numbered? 4 cs).map fun r => ([r.1], r.2)
    else if c.val = 85 then (numbered? 8 cs).map fun r => ([r.1], r.2)
    else (lettered? c).map fun p => ([p], cs)

/-- Whether a text begins with three of a code point. -/
def startsTriple (q : CodePoint) : Text → Bool
  | a :: b :: c :: _ => a == q && b == q && c == q
  | _ => false

/-- The double quote. -/
def quote : CodePoint := CodePoint.ofNat 34

/-- The single quote. -/
def apostrophe : CodePoint := CodePoint.ofNat 39

/-- The inside of a basic string and what follows its closing quotes. -/
def basicBody (multiline : Bool) : Nat → Text → Reading Text
  | 0, _ => none
  | _ + 1, [] => none
  | fuel + 1, c :: cs =>
    if c = quote then
      if !multiline then some ([], cs)
      else if startsTriple quote (c :: cs) then some ([], cs.drop 2)
      else (basicBody multiline fuel cs).map fun r => (c :: r.1, r.2)
    else if c.val = 92 then
      match escape multiline cs with
      | none => none
      | some (p, rest) => (basicBody multiline fuel rest).map fun r => (p ++ r.1, r.2)
    else if (if multiline then isIllegalInLines c else isIllegal c) then none
    else (basicBody multiline fuel cs).map fun r => (c :: r.1, r.2)

/-- The inside of a literal string of one line and what follows its closing quote. -/
def literalBody : Text → Reading Text
  | [] => none
  | c :: cs =>
    if c = apostrophe then some ([], cs)
    else if isIllegal c then none
    else (literalBody cs).map fun r => (c :: r.1, r.2)

/-- The inside of a literal string of several lines and what follows its closing quotes. -/
def literalLines : Text → Reading Text
  | [] => none
  | c :: cs =>
    if startsTriple apostrophe (c :: cs) then some ([], cs.drop 2)
    else if isIllegalInLines c then none
    else (literalLines cs).map fun r => (c :: r.1, r.2)

/-- Up to two more quotes that belong to the end of a string of several lines. -/
def moreQuotes (q : CodePoint) : Text × Text → Text × Text
  | (t, a :: b :: rest) =>
    if a = q then if b = q then (t ++ [q, q], rest) else (t ++ [q], b :: rest)
    else (t, a :: b :: rest)
  | (t, [a]) => if a = q then (t ++ [q], []) else (t, [a])
  | r => r

/-- A text without the line end at its start. -/
def dropLineEnd : Text → Text
  | c :: cs => if c.val = 10 then cs else c :: cs
  | [] => []

/-- A string of one line that begins with a quote. -/
def lineString : Text → Reading Text
  | c :: cs =>
    if c = quote then basicBody false (cs.length + 1) cs
    else if c = apostrophe then literalBody cs
    else none
  | [] => none

/-- A string that begins with a quote, of one line or several. -/
def string (t : Text) : Reading Text :=
  if startsTriple quote t then
    let body := dropLineEnd (t.drop 3)
    (basicBody true (body.length + 1) body).map (moreQuotes quote)
  else if startsTriple apostrophe t then
    (literalLines (dropLineEnd (t.drop 3))).map (moreQuotes apostrophe)
  else lineString t

/-! ## Keys -/

/-- The code points of a bare key. -/
def isBare (c : CodePoint) : Bool := c.isLetter || c.isDigit || c.val == 45 || c.val == 95

/-- One part of a key. -/
def keyPart : Text → Reading Text
  | c :: cs =>
    if isBare c then some ((c :: cs).takeWhile isBare, (c :: cs).dropWhile isBare)
    else lineString (c :: cs)
  | [] => none

/-- A key of one or more parts with dots between them. -/
def key : Nat → Text → Reading (List Text)
  | 0, _ => none
  | fuel + 1, t =>
    match keyPart t with
    | none => none
    | some (part, rest) =>
      match skipBlanks rest with
      | c :: cs =>
        if c.val = 46 then (key fuel (skipBlanks cs)).map fun r => (part :: r.1, r.2)
        else some ([part], c :: cs)
      | [] => some ([part], [])

/-! ## Numbers and dates -/

/-- A run of digits of some base, with single underscores between them. -/
def digitRun (isDigit : CodePoint → Bool) : Text → Reading Text
  | [] => none
  | c :: cs => if isDigit c then some (go c cs) else none
where
  /-- The digits after `c`. -/
  go (c : CodePoint) : Text → Text × Text
    | [] => ([c], [])
    | [d] => if isDigit d then ([c, d], []) else ([c], [d])
    | d :: e :: rest =>
      if isDigit d then
        let r := go d (e :: rest)
        (c :: r.1, r.2)
      else if d.val = 95 ∧ isDigit e then
        let r := go e rest
        (c :: r.1, r.2)
      else ([c], d :: e :: rest)

/-- The value of a run of digits in some base. -/
def valueIn (base : Nat) (digits : Text) : Nat :=
  digits.foldl (fun n c => n * base + (Json.hexValue? c).getD 0) 0

/-- Whether a code point is a hexadecimal digit. -/
def isHexDigit (c : CodePoint) : Bool := (Json.hexValue? c).isSome

/-- A whole number in a base that its second code point names. -/
def basedNumber : Text → Reading Json
  | z :: b :: rest =>
    if z.val ≠ 48 then none
    else if b.val = 120 then (digitRun isHexDigit rest).map fun r => (.int (valueIn 16 r.1), r.2)
    else if b.val = 111 then
      (digitRun (fun c => 48 ≤ c.val && c.val ≤ 55) rest).map fun r => (.int (valueIn 8 r.1), r.2)
    else if b.val = 98 then
      (digitRun (fun c => c.val == 48 || c.val == 49) rest).map fun r => (.int (valueIn 2 r.1), r.2)
    else none
  | _ => none

/-- The whole part of a decimal: a single zero, or digits that do not begin with a zero. -/
def wholePart : Text → Reading Text
  | c :: cs => if c.val = 48 then some ([c], cs) else digitRun CodePoint.isDigit (c :: cs)
  | [] => none

/-- The fraction of a decimal. -/
def fractionPart : Text → Reading Text
  | c :: cs => if c.val = 46 then digitRun CodePoint.isDigit cs else none
  | [] => none

/-- The exponent of a decimal. -/
def exponentPart : Text → Reading Int
  | c :: cs =>
    if c.val = 101 ∨ c.val = 69 then
      let (negative, digits) := Numeral.takeSign cs
      (digitRun CodePoint.isDigit digits).map fun r =>
        let n : Int := digitsValue r.1
        (if negative then -n else n, r.2)
    else none
  | [] => none

/-- A decimal number. -/
def decimal (t : Text) : Reading Json :=
  let (negative, body) := Numeral.takeSign t
  match wholePart body with
  | none => none
  | some (whole, rest) =>
    let (fraction, rest) := match fractionPart rest with
      | some (f, rest) => (some f, rest)
      | none => (none, rest)
    let (exponent, rest) := match exponentPart rest with
      | some (e, rest) => (some e, rest)
      | none => (none, rest)
    match Json.numberValue negative whole fraction exponent with
    | .ok v => some (v, rest)
    | .error _ => none

/-- An infinity or a value that is no number. -/
def specialNumber (t : Text) : Reading Json :=
  let (negative, body) := Numeral.takeSign t
  if Text.startsWith body "inf" then
    some (.float (if negative then -positiveInfinity else positiveInfinity), body.drop 3)
  else if Text.startsWith body "nan" then some (.float notANumber, body.drop 3)
  else none

/-- The number of two digits, if it lies between two bounds. -/
def twoDigits (low high : Nat) : Text → Reading Nat
  | a :: b :: rest =>
    if a.isDigit && b.isDigit then
      let n := digitsValue [a, b]
      if low ≤ n ∧ n ≤ high then some (n, rest) else none
    else none
  | _ => none

/-- What follows some code point. -/
def after (n : Nat) : Text → Option Text
  | c :: cs => if c.val = n then some cs else none
  | [] => none

/-- What follows a time of day. -/
def timeOfDay (t : Text) : Option Text := do
  let (_, t) ← twoDigits 0 23 t
  let t ← after 58 t
  let (_, t) ← twoDigits 0 59 t
  let t ← after 58 t
  let (_, t) ← twoDigits 0 59 t
  match t with
  | p :: d :: rest =>
    if p.val = 46 ∧ d.isDigit then some (rest.dropWhile CodePoint.isDigit) else some t
  | _ => some t

/-- What follows the distance from universal time, if there is one. -/
def zone (t : Text) : Text :=
  match t with
  | c :: cs =>
    if c.val = 90 ∨ c.val = 122 then cs
    else if c.val = 43 ∨ c.val = 45 then
      match (do
        let (_, t) ← twoDigits 0 23 cs
        let t ← after 58 t
        let (_, t) ← twoDigits 0 59 t
        some t : Option Text) with
      | some rest => rest
      | none => t
    else t
  | [] => []

/-- The number of days of a month. -/
def daysOf (year month : Nat) : Nat :=
  if month = 2 then
    if year % 4 = 0 ∧ (year % 100 ≠ 0 ∨ year % 400 = 0) then 29 else 28
  else if month = 4 ∨ month = 6 ∨ month = 9 ∨ month = 11 then 30
  else 31

/-- A date without regard to the length of its month, and what follows it. -/
def date? (t : Text) : Option ((Nat × Nat × Nat) × Text) := do
  let (century, t) ← twoDigits 0 99 t
  let (year, t) ← twoDigits 0 99 t
  let t ← after 45 t
  let (month, t) ← twoDigits 1 12 t
  let t ← after 45 t
  let (day, t) ← twoDigits 1 31 t
  some ((century * 100 + year, month, day), t)

/-- What follows the time of a date, if there is one. -/
def dateTime (t : Text) : Text :=
  match t with
  | c :: cs =>
    if c.val = 84 ∨ c.val = 116 ∨ c.val = 32 then
      match timeOfDay cs with
      | some rest => zone rest
      | none => t
    else t
  | [] => []

/-- A date or a time as a value. -/
def moment (t rest : Text) : Json :=
  .moment (t.take (t.length - rest.length))

/-- A date, a time or a number; a date that no calendar has is none of them. -/
def scalar (t : Text) : Reading Json :=
  match date? t with
  | some ((year, month, day), rest) =>
    if 1 ≤ year ∧ day ≤ daysOf year month then some (moment t (dateTime rest), dateTime rest)
    else none
  | none =>
    match timeOfDay t with
    | some rest => some (moment t rest, rest)
    | none =>
      match basedNumber t with
      | some r => some r
      | none =>
        match decimal t with
        | some r => some r
        | none => specialNumber t

/-! ## Tables -/

/-- Changes the table that a path of keys leads to. Tables on the way are made where there are none;
a list on the way stands for its last item if `throughLists`. -/
def modifyTable (throughLists : Bool) (f : Fields → Option Fields) :
    List Text → Fields → Option Fields
  | [], table => f table
  | k :: ks, table =>
    match table.get? k with
    | none => (modifyTable throughLists f ks []).map fun sub => table.set k (.object sub)
    | some (.object sub) =>
      (modifyTable throughLists f ks sub).map fun sub => table.set k (.object sub)
    | some (.list items) =>
      if throughLists then
        match items.getLast? with
        | some (.object sub) =>
          (modifyTable throughLists f ks sub).map fun sub =>
            table.set k (.list (items.dropLast ++ [.object sub]))
        | _ => none
      else none
    | _ => none

/-- Adds a key to a table that does not have it. -/
def addNew (key : Text) (value : Json) (table : Fields) : Option Fields :=
  if table.has key then none else some (table.set key value)

/-- Whether a value is a list or a table, which nothing can be added to later. -/
def isClosed : Json → Bool
  | .list _ => true
  | .object _ => true
  | _ => false

/-- The last part of a key and the parts before it. -/
def splitKey (key : List Text) : List Text × Text := (key.dropLast, key.getLast?.getD [])

mutual

/-- A value. -/
def value : Nat → Text → Reading Json
  | 0, _ => none
  | _ + 1, [] => none
  | fuel + 1, c :: cs =>
    if c = quote ∨ c = apostrophe then (string (c :: cs)).map fun r => (.text r.1, r.2)
    else if Text.startsWith (c :: cs) "true" then some (.bool true, cs.drop 3)
    else if Text.startsWith (c :: cs) "false" then some (.bool false, cs.drop 4)
    else if c.val = 91 then
      match skipSpace cs with
      | some (d :: ds) => if d.val = 93 then some (.list [], ds) else listItems fuel [] (d :: ds)
      | _ => none
    else if c.val = 123 then
      match skipBlanks cs with
      | d :: ds => if d.val = 125 then some (.object [], ds) else inlineFields fuel [] [] (d :: ds)
      | [] => none
    else scalar (c :: cs)

/-- The items of a list up to its closing bracket, after those already read, last first. -/
def listItems : Nat → List Json → Text → Reading Json
  | 0, _, _ => none
  | fuel + 1, items, t =>
    match value fuel t with
    | none => none
    | some (v, rest) =>
      match skipSpace rest with
      | some (c :: cs) =>
        if c.val = 93 then some (.list (v :: items).reverse, cs)
        else if c.val = 44 then
          match skipSpace cs with
          | some (d :: ds) =>
            if d.val = 93 then some (.list (v :: items).reverse, ds)
            else listItems fuel (v :: items) (d :: ds)
          | _ => none
        else none
      | _ => none

/-- A key and its value. -/
def pair : Nat → Text → Reading (List Text × Json)
  | 0, _ => none
  | fuel + 1, t =>
    match key (t.length + 1) t with
    | some (k, e :: rest) =>
      if e.val = 61 then (value fuel (skipBlanks rest)).map fun r => ((k, r.1), r.2) else none
    | _ => none

/-- The fields of an inline table up to its closing brace, after those already read; `closed` are
the keys of those whose value is a list or a table. -/
def inlineFields : Nat → Fields → List (List Text) → Text → Reading Json
  | 0, _, _, _ => none
  | fuel + 1, table, closed, t =>
    match pair fuel t with
    | none => none
    | some ((k, v), rest) =>
      if closed.any (·.isPrefixOf k) then none
      else
        let (parents, stem) := splitKey k
        match modifyTable false (addNew stem v) parents table with
        | none => none
        | some table =>
          match skipBlanks rest with
          | c :: cs =>
            if c.val = 125 then some (.object table, cs)
            else if c.val = 44 then
              inlineFields fuel table (if isClosed v then k :: closed else closed) (skipBlanks cs)
            else none
          | [] => none

end

end KernelJob.Toml

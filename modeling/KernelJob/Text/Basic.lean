/-! # Texts as lists of code points

A `Text` is a list of code points. Unlike `String` it may hold lone surrogates, which an escape in
a JSON document can bring in and which no UTF-8 text can carry. Literals are written as strings and
coerced: `("abc" : Text)`.
-/

namespace KernelJob

/-- A code point: a number below `0x110000`, surrogates included. -/
structure CodePoint where
  /-- The number of the code point. -/
  val : Nat
  isLt : val < 0x110000
deriving DecidableEq, Repr

namespace CodePoint

@[ext] theorem ext {c d : CodePoint} (h : c.val = d.val) : c = d := by
  cases c; cases d; cases h; rfl

/-- Every character is a code point. -/
def ofChar (c : Char) : CodePoint :=
  ⟨c.toNat, by
    have h := c.valid
    have hc : c.toNat = c.val.toNat := rfl
    rcases h with h | h <;> omega⟩

instance : Coe Char CodePoint := ⟨ofChar⟩

@[simp] theorem val_ofChar (c : Char) : (ofChar c).val = c.toNat := rfl

/-- The code point with number `n`, or the replacement character if there is none. -/
def ofNat (n : Nat) : CodePoint :=
  if h : n < 0x110000 then ⟨n, h⟩ else ⟨0xFFFD, by decide⟩

@[simp] theorem val_ofNat {n : Nat} (h : n < 0x110000) : (ofNat n).val = n := by simp [ofNat, h]

/-- Surrogates are the code points that stand for halves of a pair. -/
def isSurrogate (c : CodePoint) : Bool := 0xD800 ≤ c.val && c.val < 0xE000

/-- The code points of ASCII. -/
def isAscii (c : CodePoint) : Bool := c.val < 128

/-- The ASCII decimal digits. -/
def isDigit (c : CodePoint) : Bool := 48 ≤ c.val && c.val ≤ 57

/-- The ASCII letters. -/
def isLetter (c : CodePoint) : Bool :=
  (65 ≤ c.val && c.val ≤ 90) || (97 ≤ c.val && c.val ≤ 122)

/-- The character of a code point; a surrogate has none and becomes the replacement character. -/
def toChar (c : CodePoint) : Char :=
  if c.isSurrogate then '\uFFFD' else Char.ofNat c.val

end CodePoint

/-- A text: a list of code points. -/
abbrev Text := List CodePoint

namespace Text

/-- The code points of a string. -/
def ofString (s : String) : Text := s.toList.map CodePoint.ofChar

instance : Coe String (List CodePoint) := ⟨ofString⟩

/-- The text of a single character. -/
def ofChar (c : Char) : Text := [CodePoint.ofChar c]

/-- The string of a text, with the replacement character for each surrogate. -/
def toString (t : Text) : String := String.ofList (t.map CodePoint.toChar)

/-- The decimal digits of a natural number. -/
def ofNat (n : Nat) : Text := (Nat.toDigits 10 n).map CodePoint.ofChar

/-- A whole number in decimal, with a minus sign if it is negative. -/
def ofInt : Int → Text
  | .ofNat n => ofNat n
  | .negSucc n => CodePoint.ofChar '-' :: ofNat (n + 1)

/-- Texts one after the other. -/
def concat (ts : List Text) : Text := ts.flatten

/-- Texts with a separator between each two of them. -/
def join (sep : Text) : List Text → Text
  | [] => []
  | [t] => t
  | t :: u :: ts => t ++ sep ++ join sep (u :: ts)

@[simp] theorem join_nil (sep : Text) : join sep [] = [] := rfl

@[simp] theorem join_singleton (sep t : Text) : join sep [t] = t := rfl

theorem join_cons_cons (sep t u : Text) (ts : List Text) :
    join sep (t :: u :: ts) = t ++ sep ++ join sep (u :: ts) := rfl

/-- A text cut at every occurrence of one code point; always one piece more than occurrences. -/
def splitOn (sep : CodePoint) : Text → List Text
  | [] => [[]]
  | c :: cs =>
    if c = sep then [] :: splitOn sep cs
    else match splitOn sep cs with
      | [] => [[c]]
      | piece :: rest => (c :: piece) :: rest

theorem splitOn_ne_nil (sep : CodePoint) (t : Text) : splitOn sep t ≠ [] := by
  cases t with
  | nil => simp [splitOn]
  | cons c cs =>
    rw [splitOn]
    split
    · simp
    · split <;> simp

/-- Whether a text begins with another one. -/
def startsWith (t start : Text) : Bool := start.isPrefixOf t

/-- Whether a text ends with another one. -/
def endsWith (t tail : Text) : Bool := tail.isSuffixOf t

/-- Whether `part` occurs in a text. -/
def containsText (part : Text) : Text → Bool
  | [] => part.isEmpty
  | c :: cs => part.isPrefixOf (c :: cs) || containsText part cs

/-- Replaces every occurrence of a non-empty text, from left to right; `fuel` bounds the scan and
the length of the text is always enough. -/
def replaceFuel (old new : Text) : Nat → Text → Text
  | 0, t => t
  | _ + 1, [] => []
  | fuel + 1, c :: cs =>
    if old.isPrefixOf (c :: cs) then new ++ replaceFuel old new fuel ((c :: cs).drop old.length)
    else c :: replaceFuel old new fuel cs

/-- Replaces every occurrence of a non-empty text, from left to right. -/
def replace (old new t : Text) : Text :=
  if old = [] then t else replaceFuel old new (t.length + 1) t

/-- A text with blanks added on its right up to a width. -/
def padRight (width : Nat) (t : Text) : Text :=
  t ++ List.replicate (width - t.length) (CodePoint.ofChar ' ')

/-- A text with blanks added on its left up to a width. -/
def padLeft (width : Nat) (t : Text) : Text :=
  List.replicate (width - t.length) (CodePoint.ofChar ' ') ++ t

/-- Whether all code points of a text are ASCII. -/
def isAscii (t : Text) : Bool := t.all CodePoint.isAscii

/-- Whether a text holds a code point that UTF-8 cannot carry. -/
def hasSurrogate (t : Text) : Bool := t.any CodePoint.isSurrogate

end Text

end KernelJob

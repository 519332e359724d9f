import KernelJob.Text.Quoted

/-! # UTF-8

Encoding of texts as bytes and strict decoding of bytes: shortest forms only, no surrogates, nothing
above the last code point. Failures say where they stand and what is wrong there. Texts that have to
be ASCII fail in the same words.
-/

namespace KernelJob

/-- An encoding of texts. -/
inductive Encoding
  | utf8
  | ascii
deriving DecidableEq, Repr

/-- The name of an encoding. -/
def Encoding.name : Encoding → Text
  | .utf8 => "utf-8"
  | .ascii => "ascii"

/-- Why an encoding cannot carry a code point. -/
def Encoding.refusal : Encoding → Text
  | .utf8 => "surrogates not allowed"
  | .ascii => "ordinal not in range(128)"

/-- A text that an encoding cannot carry: the run of code points from `first` up to and without
`stop`, which begins with `point`. -/
structure EncodeFault where
  encoding : Encoding
  point : CodePoint
  first : Nat
  stop : Nat
deriving DecidableEq, Repr

/-- What is wrong with bytes that are not UTF-8. -/
inductive DecodeCause
  /-- A byte that begins no code point. -/
  | badStart
  /-- A byte that does not continue the code point before it. -/
  | badContinuation
  /-- The bytes end inside a code point. -/
  | unexpectedEnd
deriving DecidableEq, Repr

/-- Bytes that are not UTF-8: `count` bytes from position `first` on, which begin with `byte`. -/
structure DecodeFault where
  byte : UInt8
  first : Nat
  count : Nat
  cause : DecodeCause
deriving DecidableEq, Repr

/-- What the message of an encoding failure says. -/
def EncodeFault.message (f : EncodeFault) : Text :=
  "'" ++ f.encoding.name ++ "' codec can't encode " ++
    (if f.stop = f.first + 1 then
      "character '" ++ Text.escapedPoint f.point ++ "' in position " ++ Text.ofNat f.first
    else
      "characters in position " ++ Text.ofNat f.first ++ "-" ++ Text.ofNat (f.stop - 1)) ++
    ": " ++ f.encoding.refusal

/-- What is wrong, in words. -/
def DecodeCause.message : DecodeCause → Text
  | .badStart => "invalid start byte"
  | .badContinuation => "invalid continuation byte"
  | .unexpectedEnd => "unexpected end of data"

/-- What the message of a decoding failure says. -/
def DecodeFault.message (f : DecodeFault) : Text :=
  (if f.count = 1 then
    "'utf-8' codec can't decode byte 0x" ++ Text.hex 2 f.byte.toNat ++ " in position " ++
      Text.ofNat f.first
  else
    "'utf-8' codec can't decode bytes in position " ++ Text.ofNat f.first ++ "-" ++
      Text.ofNat (f.first + f.count - 1)) ++ ": " ++ f.cause.message

namespace Text

/-- The bytes of a code point; those of a surrogate follow the same scheme. -/
def utf8Point (c : CodePoint) : List UInt8 :=
  if c.val < 0x80 then [UInt8.ofNat c.val]
  else if c.val < 0x800 then [UInt8.ofNat (0xC0 + c.val / 64), UInt8.ofNat (0x80 + c.val % 64)]
  else if c.val < 0x10000 then
    [UInt8.ofNat (0xE0 + c.val / 4096), UInt8.ofNat (0x80 + c.val / 64 % 64),
      UInt8.ofNat (0x80 + c.val % 64)]
  else
    [UInt8.ofNat (0xF0 + c.val / 262144), UInt8.ofNat (0x80 + c.val / 4096 % 64),
      UInt8.ofNat (0x80 + c.val / 64 % 64), UInt8.ofNat (0x80 + c.val % 64)]

/-- The bytes of a text that stands at position `pos`. -/
def utf8From (pos : Nat) : Text → Except EncodeFault (List UInt8)
  | [] => .ok []
  | c :: cs =>
    if c.isSurrogate then
      .error ⟨.utf8, c, pos, pos + 1 + (cs.takeWhile CodePoint.isSurrogate).length⟩
    else (utf8From (pos + 1) cs).map (utf8Point c ++ ·)

/-- The bytes of a text; fails at the first run of surrogates. -/
def utf8 (t : Text) : Except EncodeFault (List UInt8) := utf8From 0 t

/-- Why a text has no bytes, at its first run of surrogates. -/
def utf8Fault? (t : Text) : Option EncodeFault :=
  match utf8 t with
  | .ok _ => none
  | .error fault => some fault

/-- Why a text that stands at position `pos` is not ASCII. -/
def asciiFaultFrom? (pos : Nat) : Text → Option EncodeFault
  | [] => none
  | c :: cs =>
    if c.isAscii then asciiFaultFrom? (pos + 1) cs
    else some ⟨.ascii, c, pos, pos + 1 + (cs.takeWhile fun c => !c.isAscii).length⟩

/-- Why a text is not ASCII, at its first run of other code points. -/
def asciiFault? (t : Text) : Option EncodeFault := asciiFaultFrom? 0 t

/-- Whether a byte continues a code point. -/
def isContinuation (b : UInt8) : Bool := 0x80 ≤ b && b < 0xC0

/-- The six bits that a continuation byte carries. -/
def low6 (b : UInt8) : Nat := b.toNat % 64

/-- Whether `b` may follow the first byte `a` of a code point of three bytes: no longer form than
needed, no surrogate. -/
def continues3 (a b : UInt8) : Bool :=
  isContinuation b && (if b < 0xA0 then a != 0xE0 else a != 0xED)

/-- Whether `b` may follow the first byte `a` of a code point of four bytes: no longer form than
needed, nothing above the last code point. -/
def continues4 (a b : UInt8) : Bool :=
  isContinuation b && (if b < 0x90 then a != 0xF0 else a != 0xF4)

/-- The text of bytes that stand at position `pos`. -/
def ofUtf8From (pos : Nat) : List UInt8 → Except DecodeFault Text
  | [] => .ok []
  | a :: bs =>
    if a < 0x80 then (ofUtf8From (pos + 1) bs).map (CodePoint.ofNat a.toNat :: ·)
    else if a < 0xC2 || 0xF5 ≤ a then .error ⟨a, pos, 1, .badStart⟩
    else if a < 0xE0 then
      match bs with
      | [] => .error ⟨a, pos, 1, .unexpectedEnd⟩
      | b :: bs =>
        if isContinuation b then
          (ofUtf8From (pos + 2) bs).map (CodePoint.ofNat (a.toNat % 32 * 64 + low6 b) :: ·)
        else .error ⟨a, pos, 1, .badContinuation⟩
    else if a < 0xF0 then
      match bs with
      | [] => .error ⟨a, pos, 1, .unexpectedEnd⟩
      | b :: bs =>
        if continues3 a b then
          match bs with
          | [] => .error ⟨a, pos, 2, .unexpectedEnd⟩
          | c :: bs =>
            if isContinuation c then
              (ofUtf8From (pos + 3) bs).map
                (CodePoint.ofNat (a.toNat % 16 * 4096 + low6 b * 64 + low6 c) :: ·)
            else .error ⟨a, pos, 2, .badContinuation⟩
        else .error ⟨a, pos, 1, .badContinuation⟩
    else
      match bs with
      | [] => .error ⟨a, pos, 1, .unexpectedEnd⟩
      | b :: bs =>
        if continues4 a b then
          match bs with
          | [] => .error ⟨a, pos, 2, .unexpectedEnd⟩
          | c :: bs =>
            if isContinuation c then
              match bs with
              | [] => .error ⟨a, pos, 3, .unexpectedEnd⟩
              | d :: bs =>
                if isContinuation d then
                  (ofUtf8From (pos + 4) bs).map
                    (CodePoint.ofNat
                      (a.toNat % 8 * 262144 + low6 b * 4096 + low6 c * 64 + low6 d) :: ·)
                else .error ⟨a, pos, 3, .badContinuation⟩
            else .error ⟨a, pos, 2, .badContinuation⟩
        else .error ⟨a, pos, 1, .badContinuation⟩

/-- The text of UTF-8 bytes. -/
def ofUtf8 (bytes : List UInt8) : Except DecodeFault Text := ofUtf8From 0 bytes

end Text

end KernelJob

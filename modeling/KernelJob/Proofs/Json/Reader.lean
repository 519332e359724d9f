import Mathlib.Data.List.TakeWhile
import KernelJob.Json.Reader

/-! # What the JSON reader takes and why it stops

The parts of the JSON reader take code points from the start of a text and give the rest. Two things
hold of each of them, and they are proved together, by induction on the fuel: the rest is a suffix
of the text, and if the part stops at a whole number of too many digits, then the text has that many
digits in a row and they are more than are read.

* **`HasDigits`** — a text has a number of digits in a row.
* **`Within`** — the two things that hold of a part of the reader.
* **`readsWithin`** — they hold of values, of the fields of an object and of the items of a list.
* **`read_tooManyDigits`** — a text that is not read for its digits has them.
* **`read_of_digits`** — a text of too many digits and nothing else is not read for its digits. -/

namespace KernelJob

namespace Json

/-! ## Digits in a row -/

/-- A text has `n` decimal digits in a row. -/
def HasDigits (n : Nat) (t : Text) : Prop :=
  ∃ digits : Text, digits.length = n ∧ (∀ c ∈ digits, c.isDigit = true) ∧ digits <:+: t

/-- Digits at the end of a text are digits in the text. -/
theorem HasDigits.of_suffix {n : Nat} {t u : Text} (h : HasDigits n u) (hu : u <:+ t) :
    HasDigits n t := by
  obtain ⟨digits, hlength, hdigits, hinfix⟩ := h
  exact ⟨digits, hlength, hdigits, hinfix.trans hu.isInfix⟩

/-! ## The contract of the reader -/

variable {α β : Type}

/-- The contract of a part of the reader that was given the text `t`: what it leaves is a suffix of
`t`, and the digits that it stops at are in `t` and too many. -/
def Within (t : Text) : Reading α → Prop
  | .ok (_, rest) => rest <:+ t
  | .error (.malformed _ _) => True
  | .error (.tooManyDigits n) => digitLimit < n ∧ HasDigits n t

/-- A part that was given the end of a text keeps the contract for the whole text. -/
theorem Within.of_suffix {t u : Text} {r : Reading α} (h : Within u r) (hu : u <:+ t) :
    Within t r := by
  match r, h with
  | .ok (_, _), hrest => exact hrest.trans hu
  | .error (.malformed _ _), _ => trivial
  | .error (.tooManyDigits _), ⟨hmany, hdigits⟩ => exact ⟨hmany, hdigits.of_suffix hu⟩

/-- The contract says nothing about the value that was read. -/
theorem Within.map {t : Text} {r : Reading α} (h : Within t r) (f : α → β) :
    Within t (r.map fun x => (f x.1, x.2)) := by
  match r, h with
  | .ok (_, _), hrest => exact hrest
  | .error (.malformed _ _), _ => trivial
  | .error (.tooManyDigits _), hstop => exact hstop

/-- What a part that succeeded leaves. -/
theorem Within.rest {t rest : Text} {r : Reading α} {a : α} (h : Within t r)
    (hr : r = .ok (a, rest)) : rest <:+ t := by
  rw [hr] at h
  exact h

/-- A failure is passed on. -/
theorem Within.failure {t : Text} {r : Reading α} {stop : Stop} (h : Within t r)
    (hr : r = .error stop) : Within t (.error stop : Reading β) := by
  rw [hr] at h
  cases stop with
  | malformed cause rest => trivial
  | tooManyDigits n => exact h

/-- A text without the white space at its start is a suffix of it. -/
theorem skipSpace_suffix (t : Text) : skipSpace t <:+ t := List.dropWhile_suffix isSpace

/-! ## Strings -/

/-- A code point put before what was read changes nothing. -/
theorem within_prepend {t : Text} {r : Reading Text} (c : CodePoint) (h : Within t r) :
    Within t (prepend c r) := by
  match r, h with
  | .ok (_, _), hrest => exact hrest
  | .error _, hstop => exact hstop

/-- The inside of a string keeps the contract: it ends after its closing quote, or a code point or
an escape was taken and the inside goes on after it. -/
theorem stringBody_within (start t : Text) : Within t (stringBody start t) := by
  fun_induction stringBody start t with
  | case2 c cs => exact List.suffix_cons c cs
  | case7 | case8 | case9 | case10 | case11 | case13 | case16 =>
    have hrest : Within _ (stringBody start _) := ‹_›
    refine within_prepend _ (hrest.of_suffix ?_)
    simp only [List.suffix_cons_iff, List.suffix_rfl, or_true]
  | _ => trivial

/-! ## Numbers -/

/-- The whole part of a number is a run of digits at its start. -/
theorem wholePart?_eq_some {t whole rest : Text} (h : wholePart? t = some (whole, rest)) :
    t = whole ++ rest ∧ ∀ c ∈ whole, c.isDigit = true := by
  cases t with
  | nil => exact nomatch h
  | cons d ds =>
    by_cases hzero : d.val = 48
    · rw [wholePart?, if_pos hzero] at h
      obtain ⟨rfl, rfl⟩ := Prod.mk.inj (Option.some.inj h)
      refine ⟨rfl, fun c hc => ?_⟩
      rw [List.mem_singleton.mp hc, CodePoint.isDigit, hzero]
      rfl
    · rw [wholePart?, if_neg hzero] at h
      by_cases hdigit : d.isDigit = true
      · rw [if_pos hdigit] at h
        obtain ⟨rfl, rfl⟩ := Prod.mk.inj (Option.some.inj h)
        refine ⟨by rw [List.cons_append, List.takeWhile_append_dropWhile], ?_⟩
        rw [List.forall_mem_cons]
        exact ⟨hdigit, List.all_eq_true.mp List.all_takeWhile⟩
      · rw [if_neg hdigit] at h
        exact nomatch h

/-- The fraction of a number leaves a suffix. -/
theorem fraction?_suffix {t fraction rest : Text} (h : fraction? t = some (fraction, rest)) :
    rest <:+ t := by
  match t with
  | [] | [_] => exact nomatch h
  | p :: d :: ds =>
    rw [fraction?] at h
    split at h
    · obtain ⟨-, rfl⟩ := Prod.mk.inj (Option.some.inj h)
      exact (List.dropWhile_suffix _).trans ((List.suffix_cons d ds).trans (List.suffix_cons p _))
    · exact nomatch h

/-- A text without its sign is a suffix of it. -/
theorem takeSign_suffix (t : Text) : (Numeral.takeSign t).2 <:+ t := by
  cases t with
  | nil => exact List.suffix_rfl
  | cons c cs =>
    rw [Numeral.takeSign]
    split
    · exact List.suffix_cons c cs
    · split
      · exact List.suffix_cons c cs
      · exact List.suffix_rfl

/-- The exponent of a number leaves a suffix. -/
theorem exponent?_suffix {t rest : Text} {exponent : Int}
    (h : exponent? t = some (exponent, rest)) : rest <:+ t := by
  cases t with
  | nil => exact nomatch h
  | cons e es =>
    rw [exponent?] at h
    split at h
    · dsimp only at h
      split at h
      · exact nomatch h
      · obtain ⟨-, rfl⟩ := Prod.mk.inj (Option.some.inj h)
        exact (List.dropWhile_suffix _).trans ((takeSign_suffix es).trans (List.suffix_cons e es))
    · exact nomatch h

/-- The value of a number is refused only for the digits of its whole part. -/
theorem numberValue_error {negative : Bool} {whole : Text} {fraction : Option Text}
    {exponent : Option Int} {stop : Stop}
    (h : numberValue negative whole fraction exponent = .error stop) :
    stop = .tooManyDigits whole.length ∧ digitLimit < whole.length := by
  unfold numberValue at h
  split at h
  · split at h
    · exact ⟨(Except.error.inj h).symm, ‹_›⟩
    · exact nomatch h
  · exact nomatch h

/-- A number with the digits `whole` at the start of the text `t` keeps the contract, whatever
follows them. -/
theorem numberValue_within {t whole tail rest : Text} (ht : t = whole ++ tail)
    (hdigits : ∀ c ∈ whole, c.isDigit = true) (hrest : rest <:+ tail) (negative : Bool)
    (fraction : Option Text) (exponent : Option Int) :
    Within t ((numberValue negative whole fraction exponent).map (·, rest)) := by
  cases hvalue : numberValue negative whole fraction exponent with
  | ok v => exact hrest.trans ⟨whole, ht.symm⟩
  | error stop =>
    obtain ⟨rfl, hmany⟩ := numberValue_error hvalue
    exact ⟨hmany, whole, rfl, hdigits, ht ▸ (List.prefix_append whole tail).isInfix⟩

/-- A number keeps the contract. -/
theorem number_within (start : Text) (negative : Bool) (t : Text) :
    Within t (number start negative t) := by
  unfold number
  cases hwhole : wholePart? t with
  | none => trivial
  | some w =>
    obtain ⟨whole, tail⟩ := w
    obtain ⟨ht, hdigits⟩ := wholePart?_eq_some hwhole
    dsimp only
    -- Neither the fraction nor the exponent has to be there.
    cases hfraction : fraction? tail with
    | none =>
      dsimp only
      cases hexponent : exponent? tail with
      | none => exact numberValue_within ht hdigits List.suffix_rfl negative none none
      | some e =>
        exact numberValue_within ht hdigits (exponent?_suffix hexponent) negative none (some e.1)
    | some f =>
      have hf := fraction?_suffix hfraction
      dsimp only
      cases hexponent : exponent? f.2 with
      | none => exact numberValue_within ht hdigits hf negative (some f.1) none
      | some e =>
        exact numberValue_within ht hdigits ((exponent?_suffix hexponent).trans hf) negative
          (some f.1) (some e.1)

/-! ## Values -/

/-- A word at the start of a text leaves a suffix. -/
theorem word?_suffix {t rest : Text} {v : Json} (h : word? t = some (v, rest)) : rest <:+ t := by
  obtain ⟨w, -, hw⟩ := List.exists_of_findSome?_eq_some h
  split at hw
  · obtain ⟨-, rfl⟩ := Prod.mk.inj (Option.some.inj hw)
    exact List.drop_suffix _ _
  · exact nomatch hw

/-- What follows the opening bracket of an object or a list: its closing bracket, or what `inside`
reads. -/
theorem opened_within {t rest : Text} (hrest : rest <:+ t) (close : Nat) (empty : Json)
    {inside : Text → Reading Json} (hinside : ∀ u, Within u (inside u)) :
    Within t (match skipSpace rest with
      | d :: ds => if d.val = close then .ok (empty, ds) else inside (d :: ds)
      | [] => inside []) := by
  have hspace := (skipSpace_suffix rest).trans hrest
  cases hd : skipSpace rest with
  | nil => exact (hinside []).of_suffix List.nil_suffix
  | cons d ds =>
    rw [hd] at hspace
    dsimp only
    split
    · exact (List.suffix_cons d ds).trans hspace
    · exact (hinside (d :: ds)).of_suffix hspace

/-- What follows an item of an object or a list: its closing bracket, or a comma and what `inside`
reads. -/
theorem separated_within {t rest : Text} (hrest : rest <:+ t) (close : Nat) (whole : Json)
    {inside : Text → Reading Json} (hinside : ∀ u, Within u (inside u)) :
    Within t (match skipSpace rest with
      | [] => .error (.malformed .comma [])
      | e :: es =>
        if e.val = close then .ok (whole, es)
        else if e.val = 44 then inside (skipSpace es)
        else .error (.malformed .comma (e :: es))) := by
  have hspace := (skipSpace_suffix rest).trans hrest
  cases he : skipSpace rest with
  | nil => trivial
  | cons e es =>
    rw [he] at hspace
    have hes : es <:+ t := (List.suffix_cons e es).trans hspace
    dsimp only
    split
    · exact hes
    split
    · exact (hinside (skipSpace es)).of_suffix ((skipSpace_suffix es).trans hes)
    · trivial

/-- The contract of the reader of values with some fuel. -/
structure ReadsWithin (fuel : Nat) : Prop where
  value : ∀ t, Within t (value fuel t)
  members : ∀ fields t, Within t (members fuel fields t)
  elements : ∀ items t, Within t (elements fuel items t)

variable {fuel : Nat}

/-- A value keeps the contract if the parts of an object or a list in it do. -/
theorem value_step (h : ReadsWithin fuel) (t : Text) : Within t (value (fuel + 1) t) := by
  cases t with
  | nil => trivial
  | cons c cs =>
    have hcs : cs <:+ c :: cs := List.suffix_cons c cs
    rw [value]
    split
    · exact ((stringBody_within (c :: cs) cs).of_suffix hcs).map Json.text
    split
    · exact opened_within hcs 125 (.object []) (h.members [])
    split
    · exact opened_within hcs 93 (.list []) (h.elements [])
    cases hword : word? (c :: cs) with
    | some w => exact word?_suffix hword
    | none =>
      dsimp only
      split
      · exact (number_within (c :: cs) true cs).of_suffix hcs
      · exact number_within (c :: cs) false (c :: cs)

/-- The fields of an object keep the contract if the value of the first one and the others do. -/
theorem members_step (h : ReadsWithin fuel) (fields : Fields) (t : Text) :
    Within t (members (fuel + 1) fields t) := by
  cases t with
  | nil => trivial
  | cons c cs =>
    have hcs : cs <:+ c :: cs := List.suffix_cons c cs
    rw [members]
    split
    · have hkey := (stringBody_within (c :: cs) cs).of_suffix hcs
      cases hbody : stringBody (c :: cs) cs with
      | error stop => exact hkey.failure hbody
      | ok r =>
        obtain ⟨key, rest⟩ := r
        have hspace := (skipSpace_suffix rest).trans (hkey.rest hbody)
        dsimp only
        cases hd : skipSpace rest with
        | nil => trivial
        | cons d ds =>
          rw [hd] at hspace
          dsimp only
          split
          · have hds : ds <:+ c :: cs := (List.suffix_cons d ds).trans hspace
            have hfield := (h.value (skipSpace ds)).of_suffix ((skipSpace_suffix ds).trans hds)
            cases hvalue : value fuel (skipSpace ds) with
            | error stop => exact hfield.failure hvalue
            | ok r =>
              exact separated_within (hfield.rest hvalue) 125 (.object (fields.set key r.1))
                (h.members (fields.set key r.1))
          · trivial
    · trivial

/-- The items of a list keep the contract if the first one and the others do. -/
theorem elements_step (h : ReadsWithin fuel) (items : List Json) (t : Text) :
    Within t (elements (fuel + 1) items t) := by
  rw [elements]
  cases hvalue : value fuel t with
  | error stop => exact (h.value t).failure hvalue
  | ok r =>
    exact separated_within ((h.value t).rest hvalue) 93 (.list (r.1 :: items).reverse)
      (h.elements (r.1 :: items))

/-- **The reader of values keeps the contract**, whatever its fuel is. -/
theorem readsWithin (fuel : Nat) : ReadsWithin fuel := by
  induction fuel with
  | zero => exact ⟨fun _ => trivial, fun _ _ => trivial, fun _ _ => trivial⟩
  | succ fuel ih => exact ⟨value_step ih, members_step ih, elements_step ih⟩

/-! ## Documents -/

/-- A document is refused for its digits only by the reader of its value. -/
theorem readDocument_tooManyDigits {t : Text} {n : Nat}
    (h : readDocument t = .error (.tooManyDigits n)) :
    value (2 * t.length + 2) (skipSpace t) = .error (.tooManyDigits n) := by
  unfold readDocument at h
  split at h
  · exact nomatch h
  cases hvalue : value (2 * t.length + 2) (skipSpace t) with
  | error stop =>
    rw [hvalue] at h
    exact congrArg _ (Except.error.inj h)
  | ok r =>
    rw [hvalue] at h
    dsimp only at h
    split at h <;> exact nomatch h

/-- **A text that is not read for its digits has them**: it has that many in a row, and they are
more than are read. -/
theorem read_tooManyDigits {t : Text} {n : Nat} (h : read t = .error (.tooManyDigits n)) :
    digitLimit < n ∧ HasDigits n t := by
  have hstop : readDocument t = .error (.tooManyDigits n) := by
    rw [read] at h
    cases hr : readDocument t with
    | ok v =>
      rw [hr] at h
      exact nomatch h
    | error stop =>
      rw [hr] at h
      cases stop with
      | malformed cause rest => exact nomatch h
      | tooManyDigits m => rw [Fault.tooManyDigits.inj (Except.error.inj h)]
  have hwithin := (readsWithin (2 * t.length + 2)).value (skipSpace t)
  rw [readDocument_tooManyDigits hstop] at hwithin
  exact hwithin.of_suffix (r := (.error (.tooManyDigits n) : Reading Json)) (skipSpace_suffix t)

/-- No word begins with a digit. -/
theorem word?_of_isDigit {c : CodePoint} (hc : c.isDigit = true) (cs : Text) :
    word? (c :: cs) = none := by
  have hwords : ∀ w ∈ words, ∃ d ds, w.1 = d :: ds ∧ d.isDigit = false := by
    have hfirst : ∀ t ∈ words.map Prod.fst, ∃ d ∈ t.head?, d.isDigit = false := by decide
    intro w hw
    obtain ⟨d, hd, hdigit⟩ := hfirst w.1 (List.mem_map_of_mem hw)
    obtain ⟨ds, hds⟩ := List.head?_eq_some_iff.mp hd
    exact ⟨d, ds, hds, hdigit⟩
  refine List.findSome?_eq_none_iff.mpr fun w hw => ?_
  obtain ⟨d, ds, hds, hd⟩ := hwords w hw
  have hne : d ≠ c := by
    rintro rfl
    exact absurd hc (Bool.eq_false_iff.mp hd)
  refine if_neg ?_
  rw [hds, List.isPrefixOf_cons_cons, beq_false_of_ne hne]
  exact Bool.false_ne_true

/-- **A text of too many digits and nothing else is not read for its digits.** -/
theorem read_of_digits {d : CodePoint} {ds : Text} (hzero : d.val ≠ 48)
    (hdigits : ∀ c ∈ d :: ds, c.isDigit = true) (hmany : digitLimit < (d :: ds).length) :
    read (d :: ds) = .error (.tooManyDigits (d :: ds).length) := by
  have hd : d.isDigit = true := hdigits d List.mem_cons_self
  have hbounds : 48 ≤ d.val ∧ d.val ≤ 57 := by
    simpa only [CodePoint.isDigit, Bool.and_eq_true, decide_eq_true_eq] using hd
  have hspace : skipSpace (d :: ds) = d :: ds := by
    refine List.dropWhile_cons_of_neg ?_
    simp only [isSpace, Bool.or_eq_true, beq_iff_eq, not_or]
    omega
  have hwhole : wholePart? (d :: ds) = some (d :: ds, []) := by
    have hall : ∀ c ∈ ds, c.isDigit = true := fun c hc => hdigits c (List.mem_cons_of_mem d hc)
    rw [wholePart?, if_neg hzero, if_pos hd, List.takeWhile_eq_self_iff.mpr hall,
      List.dropWhile_eq_nil_iff.mpr hall]
  have hnumber : number (d :: ds) false (d :: ds) =
      .error (.tooManyDigits (d :: ds).length) := by
    rw [number, hwhole]
    dsimp only [fraction?, exponent?, numberValue]
    rw [if_pos hmany]
    rfl
  have hvalue (fuel : Nat) : value (fuel + 1) (d :: ds) =
      .error (.tooManyDigits (d :: ds).length) := by
    rw [value, if_neg (by omega), if_neg (by omega), if_neg (by omega), word?_of_isDigit hd]
    dsimp only
    rw [if_neg (by omega), hnumber]
  have hmark : ¬ (d :: ds).head? = some byteOrderMark := by
    intro h
    have hmark : d = byteOrderMark := Option.some.inj h
    rw [hmark] at hd
    exact absurd hd (by decide)
  rw [read, readDocument, if_neg hmark, hspace, hvalue]
  rfl

end Json

end KernelJob

import KernelJob.Text.Case

/-! # Names in lower case

A text in lower case has no capital of ASCII in it, and only one code point outside ASCII has a
lower case there, the sign of the kelvin, which no text in lower case has either. So a part of a
text in lower case that is a name of ASCII but for letter case is that name.

* **`CodePoint.IsLower`** — what a text in lower case may have in it.
* **`CodePoint.isLower_of_mem_lower`** — the lower case of a code point has nothing else.
* **`Text.eq_of_lower_eq`** — a part of a text in lower case that is a name but for letter case. -/

namespace KernelJob

/-- The number of the sign of the kelvin, whose lower case is a letter of ASCII. -/
def kelvin : Nat := 8490

/-- A code point that a text in lower case may have: no capital of ASCII and not the sign of the
kelvin. -/
def CodePoint.IsLower (c : CodePoint) : Prop := ¬ (65 ≤ c.val ∧ c.val ≤ 90) ∧ c.val ≠ kelvin

instance (c : CodePoint) : Decidable c.IsLower := inferInstanceAs (Decidable (_ ∧ _))

namespace Text

/-- In the table, only the sign of the kelvin goes to ASCII, and nothing goes to it. -/
theorem shift_of_mem_lowerRanges : ∀ r ∈ lowerRanges, 128 ≤ r.last →
    (128 ≤ r.first + r.shift ∨ r.first = kelvin ∧ r.last = kelvin) ∧
    (r.last + r.shift < kelvin ∨ kelvin < r.first + r.shift) ∧ 97 ≤ r.first + r.shift ∧
    r.last + r.shift < 0x110000 := by
  decide +kernel

/-- The sign of the kelvin is in the table. -/
theorem kelvin_covered : (lowerRanges.find? (·.Covers kelvin)).isSome = true := by
  decide +kernel

/-- What the table makes of a code point outside ASCII may be in lower case, and some of it is
outside ASCII too, unless the code point is the sign of the kelvin. -/
theorem caseOf_isLower {c : CodePoint} (hc : 128 ≤ c.val) :
    (∀ d ∈ caseOf lowerRanges lowerExpansions c, d.IsLower) ∧
    (c.val ≠ kelvin → ∃ d ∈ caseOf lowerRanges lowerExpansions c, 128 ≤ d.val) := by
  have hsingle {d : CodePoint} (hd : d.IsLower) (hout : c.val ≠ kelvin → 128 ≤ d.val) :
      (∀ e ∈ [d], e.IsLower) ∧ (c.val ≠ kelvin → ∃ e ∈ [d], 128 ≤ e.val) :=
    ⟨List.forall_mem_singleton.mpr hd, fun h => ⟨d, List.mem_singleton_self d, hout h⟩⟩
  unfold caseOf
  cases hexpansion : lowerExpansions.lookup c.val with
  | some ns =>
    -- one code point has two in its lower case
    have hns : [105, 775] = ns := by
      rw [lowerExpansions, List.lookup_cons] at hexpansion
      split at hexpansion
      · exact Option.some.inj hexpansion
      · exact nomatch hexpansion
    subst hns
    have hlower : ∀ e ∈ [105, 775].map CodePoint.ofNat, e.IsLower := by decide
    exact ⟨hlower, fun _ => ⟨CodePoint.ofNat 775, List.mem_cons_of_mem _ List.mem_cons_self,
      by decide⟩⟩
  | none =>
    dsimp only
    cases hrange : lowerRanges.find? (·.Covers c.val) with
    | none =>
      refine hsingle ⟨by omega, fun heq => ?_⟩ fun _ => hc
      have hcovered := kelvin_covered
      rw [← heq, hrange] at hcovered
      exact nomatch hcovered
    | some r =>
      have hmem := List.mem_of_find?_eq_some hrange
      have hcovers := List.find?_some hrange
      simp only [CaseRange.Covers, Bool.and_eq_true, decide_eq_true_eq] at hcovers
      obtain ⟨⟨hfirst, hlast⟩, -⟩ := hcovers
      obtain ⟨hascii, hkelvin, hlow, hhigh⟩ := shift_of_mem_lowerRanges r hmem (by omega)
      have hval := CodePoint.val_ofNat (n := Int.toNat (c.val + r.shift)) (by omega)
      refine hsingle ⟨?_, ?_⟩ fun hother => ?_
      · rw [hval]
        omega
      · rw [hval]
        omega
      · rw [hval]
        omega

end Text

namespace CodePoint

/-- The lower case of a code point has only such as a text in lower case may have. -/
theorem isLower_of_mem_lower {c d : CodePoint} (h : d ∈ c.lower) : d.IsLower := by
  unfold lower at h
  split at h
  · obtain rfl := List.mem_singleton.mp h
    have hval := val_ofNat (n := c.val + 32) (by omega)
    refine ⟨?_, ?_⟩ <;> rw [hval]
    · omega
    · rw [kelvin]
      omega
  split at h
  · obtain rfl := List.mem_singleton.mp h
    exact ⟨‹_›, by rw [kelvin]; omega⟩
  · exact (Text.caseOf_isLower (by omega)).1 d h

/-- A code point that a text in lower case may have stays as it is, if its lower case is ASCII. -/
theorem lower_eq_self {c : CodePoint} (hc : c.IsLower) (h : ∀ d ∈ c.lower, d.val < 128) :
    c.lower = [c] := by
  by_cases hascii : c.val < 128
  · rw [lower, if_neg hc.1, if_pos hascii]
  · have hlower : c.lower = Text.caseOf Text.lowerRanges Text.lowerExpansions c := by
      rw [lower, if_neg hc.1, if_neg hascii]
    rw [hlower] at h
    obtain ⟨d, hd, hout⟩ := (Text.caseOf_isLower (by omega)).2 hc.2
    exact absurd (h d hd) (by omega)

end CodePoint

namespace Text

/-- **A part of a text in lower case that is a name but for letter case is that name.** -/
theorem eq_of_lower_eq {t name : Text} (ht : ∀ c ∈ t, c.IsLower)
    (hname : ∀ c ∈ name, c.val < 128) (h : t.lower = name) : t = name := by
  subst h
  induction t with
  | nil => rfl
  | cons c cs ih =>
    rw [lower, List.flatMap_cons, List.forall_mem_append] at hname
    rw [List.forall_mem_cons] at ht
    rw [lower, List.flatMap_cons, CodePoint.lower_eq_self ht.1 hname.1, List.singleton_append]
    exact congrArg _ (ih ht.2 hname.2)

end Text

end KernelJob

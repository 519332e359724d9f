import KernelJob.Proofs.Source.Parts
import KernelJob.Source.Document
import Mathlib.Data.List.Forall2
import Mathlib.Data.List.Permutation

/-! # Documents that are lists of parts

A notebook is a list of cells and a note a list of paragraphs. Both are read part by part, up to the
first part that does not fit, and the failure names the index of that part.

* **`readItems`** — parts read one after the other, and what that comes to.
* **`Document.Exact`** — a result that gives units for a list of parts that fit, and for nothing
  else, and that otherwise blames the first part that does not fit.
* **`Document.exact_of_readItems`** — the result of reading the parts one after the other is such a
  result. -/

namespace KernelJob

variable {ε ε' β : Type}

/-! ## Reading part by part -/

/-- **Parts read one after the other**, from some index on. -/
def readItems (read : Nat → Json → Except ε β) (index : Nat) : List Json → Except ε (List β)
  | [] => .ok []
  | v :: vs =>
    match read index v with
    | .error fault => .error fault
    | .ok b => (readItems read (index + 1) vs).map (b :: ·)

/-- Cons reading of the parts: a part that is not read ends the reading. -/
theorem readItems_cons (read : Nat → Json → Except ε β) (index : Nat) (v : Json) (vs : List Json) :
    readItems read index (v :: vs) =
      match read index v with
      | .error fault => .error fault
      | .ok b => (readItems read (index + 1) vs).map (b :: ·) := rfl

/-- The cells of a notebook are read one after the other. -/
theorem Cell.readFrom_eq (index : Nat) (items : List Json) :
    Cell.readFrom index items = readItems Cell.read index items := by
  induction items generalizing index with
  | nil => rfl
  | cons v vs ih =>
    rw [Cell.readFrom, readItems_cons, ih]
    cases Cell.read index v with
    | error fault => rfl
    | ok cell => rfl

/-- So are the paragraphs of a note. -/
theorem Paragraph.readFrom_eq (index : Nat) (items : List Json) :
    Paragraph.readFrom index items = readItems Paragraph.read index items := by
  induction items generalizing index with
  | nil => rfl
  | cons v vs ih =>
    rw [Paragraph.readFrom, readItems_cons, ih]
    cases Paragraph.read index v with
    | error fault => rfl
    | ok paragraph => rfl

/-- Failures that are renamed part by part are renamed as a whole. -/
theorem readItems_mapError {read : Nat → Json → Except ε β} {read' : Nat → Json → Except ε' β}
    {rename : ε → ε'} (h : ∀ index v, read' index v = (read index v).mapError rename) (index : Nat)
    (items : List Json) :
    readItems read' index items = (readItems read index items).mapError rename := by
  induction items generalizing index with
  | nil => rfl
  | cons v vs ih =>
    rw [readItems_cons, readItems_cons, h, ih]
    cases read index v with
    | error fault => rfl
    | ok b =>
      cases readItems read (index + 1) vs with
      | error fault => rfl
      | ok bs => rfl

section

variable {read : Nat → Json → Except ε β} {Reads : Json → β → Prop}

/-- **All parts are read** if and only if each of them is. -/
theorem readItems_eq_ok_iff (h : ∀ index v b, read index v = .ok b ↔ Reads v b) {index : Nat}
    {items : List Json} {bs : List β} :
    readItems read index items = .ok bs ↔ List.Forall₂ Reads items bs := by
  induction items generalizing index bs with
  | nil =>
    rw [List.forall₂_nil_left_iff, readItems, Except.ok.injEq]
    exact eq_comm
  | cons v vs ih =>
    rw [readItems_cons, List.forall₂_cons_left_iff]
    cases hv : read index v with
    | error fault =>
      -- the first part is not read
      refine iff_of_false (fun hok => nomatch hok) ?_
      rintro ⟨b, bs', hb, -, -⟩
      have hread := (h index v b).mpr hb
      rw [hv] at hread
      cases hread
    | ok b =>
      have hb := (h index v b).mp hv
      constructor
      · intro hok
        cases hvs : readItems read (index + 1) vs with
        | error fault =>
          dsimp only at hok
          rw [hvs] at hok
          cases hok
        | ok bs' =>
          dsimp only at hok
          rw [hvs] at hok
          exact ⟨b, bs', hb, ih.mp hvs, (Except.ok.inj hok).symm⟩
      · rintro ⟨b', bs', hb', hvs, rfl⟩
        -- reading gives one thing only, whatever the index is
        have hsame : b = b' := by
          have hread := (h index v b').mpr hb'
          rw [hv] at hread
          exact Except.ok.inj hread
        dsimp only
        rw [ih.mpr hvs, hsame]
        rfl

/-- **The failure is that of the first part that is not read.** -/
theorem exists_of_readItems_eq_error {index : Nat} {items : List Json} {fault : ε}
    (h : readItems read index items = .error fault) :
    ∃ before v after, items = before ++ v :: after ∧
      (∀ u ∈ before, ∃ i b, read i u = .ok b) ∧ read (index + before.length) v = .error fault := by
  induction items generalizing index with
  | nil => cases h
  | cons v vs ih =>
    rw [readItems_cons] at h
    cases hv : read index v with
    | error fault' =>
      rw [hv] at h
      obtain rfl : fault' = fault := Except.error.inj h
      exact ⟨[], v, vs, rfl, by simp, hv⟩
    | ok b =>
      cases hvs : readItems read (index + 1) vs with
      | ok bs =>
        rw [hv, hvs] at h
        cases h
      | error fault' =>
        rw [hv, hvs] at h
        obtain rfl : fault' = fault := Except.error.inj h
        obtain ⟨before, u, after, rfl, hbefore, hu⟩ := ih hvs
        refine ⟨v :: before, u, after, rfl, List.forall_mem_cons.mpr ⟨⟨index, b, hv⟩, hbefore⟩, ?_⟩
        -- the part is one further from the first index
        have hindex : index + (v :: before).length = index + 1 + before.length := by
          rw [List.length_cons]
          omega
        rw [hindex]
        exact hu

end

/-! ## Documents -/

/-- **A fault that names the index of a part**: its message begins with the kind of the part and the
index. -/
def StructureFault.Names (index : Nat) (fault : StructureFault) : Prop :=
  ∃ part why : Text, (part = "Cell " ∨ part = "Code cell " ∨ part = "Paragraph ") ∧
    fault.message = part ++ Text.ofNat index ++ (" " ++ why)

namespace Document

/-- **An exact result for a value that should list parts.** `Fits` says which values are parts, and
`Gives` which units a list of parts gives. -/
structure Exact (Fits : Json → Prop) (Gives : List Json → List CodeUnit → Prop)
    (listed : Option Json) (result : Except DocumentFault (List CodeUnit)) : Prop where
  /-- There are units if and only if the value is a list of parts that fit. -/
  accepts : (∃ units, result = .ok units) ↔
    ∃ items, listed = some (.list items) ∧ ∀ v ∈ items, Fits v
  /-- The units are those that the list gives. -/
  gives : ∀ units, result = .ok units → ∃ items, listed = some (.list items) ∧ Gives items units
  /-- A list that is not accepted lacks a part of the structure, and the fault names the index of
  the first part that does not fit. -/
  rejects : ∀ items fault, listed = some (.list items) → result = .error fault →
    ∃ before v after f, items = before ++ v :: after ∧ (∀ u ∈ before, Fits u) ∧ ¬ Fits v ∧
      fault = .structural f ∧ f.Names before.length

variable {read : Nat → Json → Except ε β} {Reads : Json → β → Prop} {Fits : Json → Prop}
  {Gives : List Json → List CodeUnit → Prop} {listed : Option Json}
  {result : Except DocumentFault (List CodeUnit)}

/-- A list of parts that fit gives units. -/
theorem Exact.of_ok {items : List Json} {us : List CodeUnit} (hlisted : listed = some (.list items))
    (hfits : ∀ v ∈ items, Fits v) (hgives : Gives items us) (hresult : result = .ok us) :
    Exact Fits Gives listed result where
  accepts := iff_of_true ⟨us, hresult⟩ ⟨items, hlisted, hfits⟩
  gives us' hus := by
    rw [hresult] at hus
    obtain rfl := Except.ok.inj hus
    exact ⟨items, hlisted, hgives⟩
  rejects items' fault _ hfault := by
    rw [hresult] at hfault
    cases hfault

/-- A list with a part that does not fit is rejected for the first such part. -/
theorem Exact.of_error {before after : List Json} {v : Json} {f : StructureFault}
    (hlisted : listed = some (.list (before ++ v :: after))) (hbefore : ∀ u ∈ before, Fits u)
    (hv : ¬ Fits v) (hnames : f.Names before.length) (hresult : result = .error (.structural f)) :
    Exact Fits Gives listed result where
  accepts := by
    refine iff_of_false ?_ ?_
    · rintro ⟨us, hus⟩
      rw [hresult] at hus
      cases hus
    · rintro ⟨items, hitems, hfits⟩
      obtain rfl := Json.list.inj (Option.some.inj (hlisted.symm.trans hitems))
      exact hv (hfits v (by simp))
  gives us hus := by
    rw [hresult] at hus
    cases hus
  rejects items fault hitems hfault := by
    obtain rfl := Json.list.inj (Option.some.inj (hlisted.symm.trans hitems))
    rw [hresult] at hfault
    obtain rfl := Except.error.inj hfault
    exact ⟨before, v, after, f, rfl, hbefore, hv, rfl, hnames⟩

/-- A value that is no list gives nothing. -/
theorem Exact.of_unlisted {fault : DocumentFault} (hlisted : ∀ items, listed ≠ some (.list items))
    (hresult : result = .error fault) : Exact Fits Gives listed result where
  accepts := by
    refine iff_of_false ?_ ?_
    · rintro ⟨us, hus⟩
      rw [hresult] at hus
      cases hus
    · rintro ⟨items, hitems, -⟩
      exact hlisted items hitems
  gives us hus := by
    rw [hresult] at hus
    cases hus
  rejects items _ hitems := absurd hitems (hlisted items)

/-- **Reading parts one after the other gives an exact result**, if a part is read exactly if it
fits, and a part that is not read is named. -/
theorem exact_of_readItems (wrap : ε → StructureFault) (units : List β → List CodeUnit)
    (hreads : ∀ index v b, read index v = .ok b ↔ Reads v b) (hfits : ∀ v, Fits v ↔ ∃ b, Reads v b)
    (hnames : ∀ index v e, read index v = .error e → (wrap e).Names index)
    (hgives : ∀ items bs, List.Forall₂ Reads items bs → Gives items (units bs))
    (hlisted : ∀ items, listed = some (.list items) →
      result = ((readItems read 0 items).mapError fun e => .structural (wrap e)).map units)
    (hunlisted : (∀ items, listed ≠ some (.list items)) → ∃ fault, result = .error fault) :
    Exact Fits Gives listed result := by
  by_cases hlist : ∃ items, listed = some (.list items)
  · obtain ⟨items, hitems⟩ := hlist
    have hresult := hlisted items hitems
    cases hread : readItems read 0 items with
    | ok bs =>
      rw [hread] at hresult
      have hall := (readItems_eq_ok_iff hreads).mp hread
      have hfit : List.Forall₂ (fun v b => Fits v ∧ Reads v b) items bs :=
        hall.imp fun v b hb => ⟨(hfits v).mpr ⟨b, hb⟩, hb⟩
      exact .of_ok hitems ((List.forall₂_and_left items bs).mp hfit).1 (hgives items bs hall)
        hresult
    | error e =>
      rw [hread] at hresult
      obtain ⟨before, v, after, rfl, hbefore, hv⟩ := exists_of_readItems_eq_error hread
      have hnamed := hnames _ v e hv
      rw [Nat.zero_add] at hnamed
      refine .of_error hitems ?_ ?_ hnamed hresult
      · intro u hu
        obtain ⟨index, b, hb⟩ := hbefore u hu
        exact (hfits u).mpr ⟨b, (hreads index u b).mp hb⟩
      · -- what fits would have been read, at any index
        intro hfit
        obtain ⟨b, hb⟩ := (hfits v).mp hfit
        have hok := (hreads (0 + before.length) v b).mpr hb
        rw [hv] at hok
        cases hok
  · have hne : ∀ items, listed ≠ some (.list items) := fun items hitems => hlist ⟨items, hitems⟩
    obtain ⟨fault, hfault⟩ := hunlisted hne
    exact .of_unlisted hne hfault

end Document

end KernelJob

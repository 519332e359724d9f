import KernelJob.Json.Misfit

/-! # Uses of JSON values that cannot fail

A use of a value fails with a misfit if the value does not have the shape that the use asks for.
Here are the shapes under which the uses of a document and of a message succeed. -/

namespace KernelJob

/-- An object holds the keys that have a value in it. -/
theorem Fields.has_eq (fs : Fields) (key : Text) : fs.has key = (fs.get? key).isSome := by
  cases h : fs.get? key with
  | none => exact Fields.get?_eq_none_iff.mp h
  | some v =>
    rw [Option.isSome_some, ← Bool.not_eq_false, ← Fields.get?_eq_none_iff, h]
    exact Option.some_ne_none v

namespace Json

/-- A text is the given one if and only if the two are equal. -/
@[simp] theorem isText_text (t u : Text) : (Json.text u).isText t = true ↔ u = t :=
  beq_iff_eq

/-! ## Readings at a shape -/

theorem holds_object (fields : Fields) (key : Text) :
    (object fields).holds key = .ok (fields.has key) := rfl

theorem joined_list (items : List Json) :
    (list items).joined = (joinedFrom 0 items).map .text := rfl

theorem joinedFrom_text_cons (index : Nat) (t : Text) (vs : List Json) :
    joinedFrom index (text t :: vs) = (joinedFrom (index + 1) vs).map (t ++ ·) := rfl

theorem texts?_nil : texts? [] = some [] := rfl

theorem texts?_text_cons (t : Text) (vs : List Json) :
    texts? (text t :: vs) = (texts? vs).map (t :: ·) := rfl

/-! ## Texts and lists of texts -/

/-- A list of texts is joined to one text. -/
theorem joinedFrom_of_texts? {items : List Json} {ts : List Text} (h : texts? items = some ts)
    (index : Nat) : joinedFrom index items = .ok ts.flatten := by
  induction items generalizing ts index with
  | nil =>
    obtain rfl : [] = ts := Option.some.inj h
    rfl
  | cons v vs ih =>
    cases v with
    | text t =>
      obtain ⟨us, hus, rfl⟩ := Option.map_eq_some_iff.mp h
      rw [joinedFrom_text_cons, ih hus]
      rfl
    | _ => cases h

/-- A text or a list of texts is joined to one text. -/
theorem joined_of_sourceText? {v : Json} {t : Text} (h : v.sourceText? = some t) :
    v.joined = .ok (.text t) := by
  cases v with
  | text u =>
    obtain rfl : u = t := Option.some.inj h
    rfl
  | list items =>
    obtain ⟨ts, hts, rfl⟩ := Option.map_eq_some_iff.mp h
    rw [joined_list, joinedFrom_of_texts? hts]
    rfl
  | _ => cases h

/-- A value is a source if it has a source text. -/
theorem isSource_eq (v : Json) : v.isSource = v.sourceText?.isSome := by
  have htexts : ∀ items : List Json, items.all isTextual = (texts? items).isSome := by
    intro items
    induction items with
    | nil => rfl
    | cons item items ih =>
      rw [List.all_cons, ih]
      cases item with
      | text t => simp [isTextual, texts?_text_cons]
      | _ => rfl
  cases v with
  | list items =>
    rw [isSource, htexts, sourceText?, Option.isSome_map]
  | _ => rfl

/-- A list that holds anything but texts is not joined. -/
theorem joined_of_not_isSource {items : List Json} (h : (Json.list items).isSource = false) :
    ∃ m, (Json.list items).joined = .error m := by
  have hfrom : ∀ index, ∃ m, joinedFrom index items = .error m := by
    rw [isSource] at h
    induction items with
    | nil => exact nomatch h
    | cons item items ih =>
      intro index
      cases item with
      | text t =>
        obtain ⟨m, hm⟩ := ih h (index + 1)
        exact ⟨m, by rw [joinedFrom_text_cons, hm]; rfl⟩
      | _ => exact ⟨_, rfl⟩
  obtain ⟨m, hm⟩ := hfrom 0
  exact ⟨m, by rw [joined_list, hm]; rfl⟩

/-- The texts of a list are all that it holds. -/
theorem texts?_eq_some_iff {items : List Json} {ts : List Text} :
    texts? items = some ts ↔ items = ts.map .text := by
  induction items generalizing ts with
  | nil =>
    rw [texts?_nil, Option.some.injEq, eq_comm, eq_comm (a := ([] : List Json)),
      List.map_eq_nil_iff]
  | cons v vs ih =>
    cases ts with
    | nil => cases v <;> simp [texts?]
    | cons t ts =>
      cases v with
      | text u =>
        rw [texts?_text_cons, Option.map_eq_some_iff, List.map_cons, List.cons.injEq,
          Json.text.injEq]
        constructor
        · rintro ⟨us, hus, h⟩
          obtain ⟨rfl, rfl⟩ := List.cons.inj h
          exact ⟨rfl, ih.mp hus⟩
        · rintro ⟨rfl, hvs⟩
          exact ⟨ts, ih.mpr hvs, rfl⟩
      | _ => simp [texts?]

/-- A value is the text of its kind if and only if it is that text. -/
theorem isText_iff {v : Json} {t : Text} : v.isText t = true ↔ v = .text t := by
  cases v <;> simp [isText]

/-! ## Objects -/

variable {fields : Fields} {key : Text} {v : Json}

/-- What is done with a value that an object has. -/
theorem uses_of_get? (h : fields.get? key = some v) :
    (object fields).holds key = .ok true ∧ (object fields).field key = .ok v := by
  refine ⟨?_, ?_⟩
  · rw [holds_object, Fields.has_eq, h]
    rfl
  · simp only [field, h]

/-- A key without a value is not found in an object. -/
theorem holds_of_get?_eq_none (h : fields.get? key = none) :
    (object fields).holds key = .ok false := by
  rw [holds_object, Fields.has_eq, h]
  rfl

end Json

end KernelJob

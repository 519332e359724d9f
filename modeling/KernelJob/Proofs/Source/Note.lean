import KernelJob.Proofs.Source.Items
import KernelJob.Source.Document
import Mathlib.Data.List.TakeWhile

/-! # What a note accepts

The paragraphs of a note have a grammar: every paragraph is an object with a text that is null or a
text, and with a config that is absent, null or an object. A paragraph is documentation by the
editor mode in its config or by the directive at the start of its text.

* **`Text.BeginsWith`**, **`Text.firstWord_eq_iff`** — the first word of a text, as a grammar.
* **`Paragraph.Reads`**, **`Paragraph.WellFormed`** — the grammar of paragraphs.
* **`Note.Gives`** — the units of a list of paragraphs.
* **`Note.parse_paragraphs_exact`** — a note is parsed exactly as its grammar says. -/

namespace KernelJob

/-! ## Words -/

namespace Text

variable {t w : Text}

/-- **A text that begins with a word**: blanks if there are any, the word, and then a blank or the
end of the text. -/
def BeginsWith (w t : Text) : Prop :=
  ∃ blanks rest : Text, t = blanks ++ (w ++ rest) ∧ (∀ c ∈ blanks, c.isBlank = true) ∧
    (rest = [] ∨ ∃ c cs, rest = c :: cs ∧ c.isBlank = true)

/-- The text after the first word is over or goes on with a blank. -/
theorem dropWhile_nonBlank (t : Text) :
    t.dropWhile (fun c => !c.isBlank) = [] ∨
      ∃ c cs, t.dropWhile (fun c => !c.isBlank) = c :: cs ∧ c.isBlank = true := by
  have hhead := List.head?_dropWhile_not (fun c : CodePoint => !c.isBlank) t
  cases h : t.dropWhile fun c => !c.isBlank with
  | nil => exact .inl rfl
  | cons c cs =>
    rw [h] at hhead
    exact .inr ⟨c, cs, rfl, by simpa using hhead⟩

/-- **The first word of a text is the word that it begins with.** -/
theorem firstWord_eq_iff (hw : ∀ c ∈ w, c.isBlank = false) (hne : w ≠ []) :
    t.firstWord = w ↔ BeginsWith w t := by
  constructor
  · rintro rfl
    refine ⟨t.takeWhile CodePoint.isBlank, t.trimLeft.dropWhile fun c => !c.isBlank, ?_, ?_,
      dropWhile_nonBlank _⟩
    · rw [firstWord, List.takeWhile_append_dropWhile, trimLeft, List.takeWhile_append_dropWhile]
    · exact fun c hc => List.mem_takeWhile_imp hc
  · rintro ⟨blanks, rest, rfl, hblanks, hrest⟩
    -- the blanks before the word are trimmed, and no more
    have htrim : trimLeft (blanks ++ (w ++ rest)) = w ++ rest := by
      rw [trimLeft, List.dropWhile_append_of_pos hblanks]
      cases w with
      | nil => exact absurd rfl hne
      | cons c cs => exact List.dropWhile_cons_of_neg (by simp [hw c List.mem_cons_self])
    have hend : rest.takeWhile (fun c => !c.isBlank) = [] := by
      rcases hrest with rfl | ⟨c, cs, rfl, hc⟩
      · rfl
      · exact List.takeWhile_cons_of_neg (by simp [hc])
    rw [firstWord, htrim, List.takeWhile_append_of_pos (by simpa using hw), hend, List.append_nil]

end Text

/-! ## Paragraphs -/

namespace Paragraph

/-- A text has the directive of documentation if it begins with it. -/
theorem hasDirective_iff (t : Text) :
    hasDirective t = true ↔ Text.BeginsWith markdownDirective t := by
  rw [hasDirective, beq_iff_eq]
  exact Text.firstWord_eq_iff (by decide) (by decide)

/-- **What a text field holds**: null holds the empty text. -/
inductive Holds : Json → Text → Prop
  | null : Holds .null []
  | text (t : Text) : Holds (.text t) t

/-- **What a config field configures**: the fields of its object; a config that is absent or null
has none. -/
inductive Configures : Option Json → Fields → Prop
  | absent : Configures none []
  | null : Configures (some .null) []
  | object (config : Fields) : Configures (some (.object config)) config

/-- **What a value is as a paragraph.** It is documentation if its editor mode says so, or if its
text begins with the directive. -/
inductive Reads : Json → Paragraph → Prop
  | intro {fields config : Fields} {v : Json} {p : Paragraph}
      (hastext : fields.get? "text" = some v) (holds : Holds v p.text)
      (configures : Configures (fields.get? "config") config)
      (documentation : p.isDocumentation = true ↔
        config.get? "editorMode" = some (.text markdownMode) ∨
          Text.BeginsWith markdownDirective p.text) : Reads (.object fields) p

/-- **A value that is a paragraph**: an object with a text that is null or a text, and with a config
that is absent, null or an object. -/
def WellFormed (v : Json) : Prop :=
  ∃ (fields config : Fields) (text : Json) (t : Text), v = .object fields ∧
    fields.get? "text" = some text ∧ Holds text t ∧ Configures (fields.get? "config") config

/-- What is well-formed can be read. -/
theorem wellFormed_iff (v : Json) : WellFormed v ↔ ∃ p, Reads v p := by
  classical
  constructor
  · rintro ⟨fields, config, text, t, rfl, htext, hholds, hconfig⟩
    let isDocumentation := decide (config.get? "editorMode" = some (.text markdownMode) ∨
      Text.BeginsWith markdownDirective t)
    exact ⟨⟨t, isDocumentation⟩, .intro htext hholds hconfig decide_eq_true_iff⟩
  · rintro ⟨p, htext, hholds, hconfig, -⟩
    exact ⟨_, _, _, _, rfl, htext, hholds, hconfig⟩

/-- What a text field holds is looked up. -/
theorem heldText?_eq_some_iff {v : Json} {t : Text} : heldText? v = some t ↔ Holds v t := by
  constructor
  · intro h
    cases v with
    | null =>
      obtain rfl : [] = t := Option.some.inj h
      exact .null
    | text u =>
      obtain rfl : u = t := Option.some.inj h
      exact .text u
    | _ => cases h
  · intro h
    cases h <;> rfl

/-- What passes the check of configs configures something. -/
theorem exists_configures {c : Option Json}
    (h : ((c.getD .null).isNull || (c.getD .null).isObject) = true) :
    ∃ config, Configures c config := by
  cases c with
  | none => exact ⟨[], .absent⟩
  | some v =>
    cases v with
    | null => exact ⟨[], .null⟩
    | object config => exact ⟨config, .object config⟩
    | _ => cases h

/-- **What configures something passes the check**, and it marks documentation by the editor mode
that it configures. -/
theorem Configures.checked {c : Option Json} {config : Fields} (h : Configures c config) :
    ((c.getD .null).isNull || (c.getD .null).isObject) = true ∧
      (marksDocumentation (c.getD .null) = true ↔
        config.get? "editorMode" = some (.text markdownMode)) := by
  have hnone : ¬ Fields.get? "editorMode" [] = some (.text markdownMode) := by simp
  cases h with
  | absent => exact ⟨rfl, iff_of_false (by simp [marksDocumentation]) hnone⟩
  | null => exact ⟨rfl, iff_of_false (by simp [marksDocumentation]) hnone⟩
  | object =>
    refine ⟨rfl, ?_⟩
    rw [Option.getD_some, marksDocumentation]
    cases Fields.get? "editorMode" config with
    | none => simp [Json.isText]
    | some mode => simp [Json.isText_iff]

/-- **A paragraph is read exactly as its grammar says**, at any index. -/
theorem inspect_eq_ok_iff (index : Nat) (v : Json) (p : Paragraph) :
    inspect index v = .ok p ↔ Reads v p := by
  constructor
  · intro h
    cases v with
    | object fields =>
      rw [inspect] at h
      split at h
      · cases h
      · rename_i text htext
        split at h
        · cases h
        · rename_i t ht
          rw [inspectConfig] at h
          split at h
          · rename_i hchecked
            obtain ⟨config, hconfig⟩ := exists_configures hchecked
            obtain rfl := Except.ok.inj h
            refine .intro htext (heldText?_eq_some_iff.mp ht) hconfig ?_
            rw [Bool.or_eq_true, hconfig.checked.2, hasDirective_iff]
          · cases h
    | _ => cases h
  · intro h
    cases h with
    | intro htext hholds hconfig hdocumentation =>
      obtain ⟨hchecked, hmarks⟩ := hconfig.checked
      rw [← hmarks, ← hasDirective_iff, ← Bool.or_eq_true] at hdocumentation
      rw [inspect, htext]
      dsimp only
      rw [heldText?_eq_some_iff.mpr hholds]
      dsimp only
      rw [inspectConfig, if_pos hchecked, ← Bool.eq_iff_iff.mpr hdocumentation]

/-- A paragraph that is not read is named by its index. -/
theorem names_of_inspect_eq_error {index : Nat} {v : Json} {fault : NoteFault}
    (h : inspect index v = .error fault) : (StructureFault.note fault).Names index := by
  have hobject (h : .paragraphNotAnObject index = fault) :
      (StructureFault.note fault).Names index := by
    obtain rfl := h
    exact ⟨"Paragraph ", "is not a JSON object", by simp, rfl⟩
  cases v with
  | object fields =>
    rw [inspect] at h
    split at h
    · obtain rfl := Except.error.inj h
      exact ⟨"Paragraph ", "has no text", by simp, rfl⟩
    · split at h
      · obtain rfl := Except.error.inj h
        exact ⟨"Paragraph ", "has a text that is not a string", by simp, rfl⟩
      · rw [inspectConfig] at h
        split at h
        · cases h
        · obtain rfl := Except.error.inj h
          exact ⟨"Paragraph ", "has a config that is not a JSON object", by simp, rfl⟩
  | _ => exact hobject (Except.error.inj h)

/-- The units of paragraphs, place by place. -/
theorem getElem?_unitsFrom (index i : Nat) (ps : List Paragraph) :
    (unitsFrom index ps)[i]? =
      ps[i]?.map fun p => ⟨(index + i : Nat), p.text, p.isDocumentation⟩ := by
  induction ps generalizing index i with
  | nil => rfl
  | cons p ps ih =>
    cases i with
    | zero => rfl
    | succ i =>
      rw [unitsFrom, List.getElem?_cons_succ, List.getElem?_cons_succ, ih,
        Nat.add_right_comm index 1 i, Nat.add_assoc]

/-- There are as many units as paragraphs. -/
theorem length_unitsFrom (index : Nat) (ps : List Paragraph) :
    (unitsFrom index ps).length = ps.length := by
  induction ps generalizing index with
  | nil => rfl
  | cons p ps ih => rw [unitsFrom, List.length_cons, ih, List.length_cons]

end Paragraph

/-! ## Notes -/

namespace Note

/-- **The units that a list of paragraphs gives**: one for each, in order. -/
structure Gives (items : List Json) (units : List CodeUnit) : Prop where
  /-- There are as many units as paragraphs. -/
  length_eq : units.length = items.length
  /-- The unit at an index has that number and the text of the paragraph there, and it is skipped
  if the paragraph is documentation. -/
  unit_eq : ∀ (i : Nat) (v : Json), items[i]? = some v → ∃ p, Paragraph.Reads v p ∧
    units[i]? = some ⟨i, p.text, p.isDocumentation⟩

/-- What the paragraphs are read as gives their units. -/
theorem gives_of_reads {items : List Json} {ps : List Paragraph}
    (h : List.Forall₂ Paragraph.Reads items ps) : Gives items (Paragraph.unitsFrom 0 ps) where
  length_eq := by rw [Paragraph.length_unitsFrom, h.length_eq]
  unit_eq i v hv := by
    obtain ⟨hi, rfl⟩ := List.getElem?_eq_some_iff.mp hv
    have hi' : i < ps.length := h.length_eq ▸ hi
    have hreads : Paragraph.Reads items[i] ps[i] := h.get hi hi'
    refine ⟨ps[i], hreads, ?_⟩
    rw [Paragraph.getElem?_unitsFrom, List.getElem?_eq_getElem hi', Option.map_some, Nat.zero_add]

/-- **A note is parsed exactly as its grammar says.** It gives units if and only if it has a list of
paragraphs that are well-formed; there is one unit for each of them; and if it has a list of
paragraphs and is not accepted, the failure names the first paragraph that is not well-formed. -/
theorem parse_paragraphs_exact {t : Text} {fields : Fields}
    (hread : Json.read t = .ok (.object fields)) :
    Document.Exact Paragraph.WellFormed Gives (fields.get? "paragraphs")
      ((Document.ofText .note t).map Document.units) := by
  have hparsed : (Document.ofText .note t).map Document.units =
      (((ofFields fields).mapError (Document.unreadFault .note)).map Document.note).map
        Document.units := by
    rw [Document.ofText, Document.readNote, hread]
  refine Document.exact_of_readItems .note (Paragraph.unitsFrom 0) Paragraph.inspect_eq_ok_iff
    Paragraph.wellFormed_iff (fun _ _ _ => Paragraph.names_of_inspect_eq_error)
    (fun _ _ => gives_of_reads) ?_ ?_
  · intro items hitems
    rw [hparsed, ofFields, hitems]
    dsimp only
    rw [Paragraph.readFrom_eq, readItems_mapError Paragraph.read_eq]
    cases readItems Paragraph.inspect 0 items with
    | error fault => rfl
    | ok ps => rfl
  · intro hunlisted
    have hfields : ofFields fields = .error (.lacking .noParagraphs) := by
      unfold ofFields
      split
      · rename_i items hitems
        exact absurd hitems (hunlisted items)
      · rfl
    rw [hparsed, hfields]
    exact ⟨_, rfl⟩

/-- A note with a paragraph of documentation and one of code. -/
def mixed : Text :=
  "\x7b\"paragraphs\": [\x7b\"text\": \" %md\"\x7d, \x7b\"text\": \"%mdb\"\x7d]\x7d"

/-- What that note holds. -/
def mixedFields : Fields :=
  [("paragraphs", .list [.object [("text", .text " %md")], .object [("text", .text "%mdb")]])]

theorem parse_paragraphs_exact_mixed : Json.read mixed = .ok (.object mixedFields) ∧
    Document.Exact Paragraph.WellFormed Gives (mixedFields.get? "paragraphs")
      ((Document.ofText .note mixed).map Document.units) ∧
    (Document.ofText .note mixed).map Document.units =
      .ok [⟨0, " %md", true⟩, ⟨1, "%mdb", false⟩] := by
  have hread : Json.read mixed = .ok (.object mixedFields) := by cbv
  refine ⟨hread, parse_paragraphs_exact hread, ?_⟩
  rw [Document.ofText, Document.readNote, hread]
  rfl

end Note

end KernelJob

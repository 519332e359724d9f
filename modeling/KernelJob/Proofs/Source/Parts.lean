import KernelJob.Proofs.Json.Access
import KernelJob.Source.Note
import KernelJob.Source.Notebook

/-! # Parts of documents

A cell or a paragraph is checked before it is used, and a use of a value of another shape would be a
failure of its own. The checks rule that out: what reading a part comes to can be told from its
fields, and it is never a misfit.

* **`Cell.inspect`**, **`Cell.read_eq`** — what reading a cell comes to.
* **`Paragraph.inspect`**, **`Paragraph.read_eq`** — what reading a paragraph comes to.
* **`Notebook.ofCells_checked`**, **`Note.ofFields_checked`** — a document whose parts are not read
  lacks something. -/

namespace KernelJob

namespace Unread

variable {α β γ : Type}

/-- Every value in a part is used as what it is: all that the part fails for is something that it
lacks. -/
def Checked (r : Except (Unread α) β) : Prop := ∀ m, r ≠ .error (.misfit m)

/-- What is made of a part that was read changes nothing. -/
theorem Checked.map {r : Except (Unread α) β} (h : Checked r) (f : β → γ) : Checked (r.map f) := by
  intro m hm
  cases r with
  | error e => exact h m (congrArg _ (Except.error.inj hm))
  | ok b => exact nomatch hm

end Unread

open Unread

/-! ## Cells -/

namespace Cell

/-- What reading the source of a cell of code comes to. -/
def inspectSource (index : Nat) (fields : Fields) : Except NotebookFault Cell :=
  match fields.get? "source" with
  | none => .error (.noSource index)
  | some source =>
    match source.sourceText? with
    | some t => .ok (.code t)
    | none => .error (.sourceNotText index)

/-- **What reading a cell comes to**, told from its fields. -/
def inspect (index : Nat) : Json → Except NotebookFault Cell
  | .object fields =>
    match Fields.get? "cell_type" fields with
    | none => .error (.noCellType index)
    | some type => if type.isText "code" then inspectSource index fields else .ok .other
  | _ => .error (.cellNotAnObject index)

/-- The source of a cell of code is used only if it is a text or a list of texts. -/
theorem readSource_eq (index : Nat) (fields : Fields) :
    (do
      require (← use ((Json.object fields).holds "source")) (.noSource index)
      require (← use ((Json.object fields).field "source")).isSource (.sourceNotText index)
      let source ← useText (← use (sourceOf (.object fields)))
      return .code source) = (inspectSource index fields).mapError Unread.lacking := by
  cases hsource : fields.get? "source" with
  | none =>
    have hinspect : inspectSource index fields = .error (.noSource index) := by
      rw [inspectSource, hsource]
    rw [Json.holds_of_get?_eq_none hsource, use_ok_bind, require_false_bind, hinspect]
    rfl
  | some source =>
    obtain ⟨hholds, hfield⟩ := Json.uses_of_get? hsource
    rw [hholds, use_ok_bind, require_true_bind, hfield, use_ok_bind, Json.isSource_eq]
    cases htext : source.sourceText? with
    | none =>
      have hinspect : inspectSource index fields = .error (.sourceNotText index) := by
        simp only [inspectSource, hsource, htext]
      rw [Option.isSome_none, require_false_bind, hinspect]
      rfl
    | some t =>
      have hinspect : inspectSource index fields = .ok (.code t) := by
        simp only [inspectSource, hsource, htext]
      have hjoined : sourceOf (.object fields) = .ok (.text t) := by
        rw [sourceOf, hfield]
        exact Json.joined_of_sourceText? htext
      rw [Option.isSome_some, require_true_bind, hjoined, use_ok_bind, hinspect]
      rfl

/-- **Reading a cell never uses a value as what it is not.** -/
theorem read_eq (index : Nat) (cell : Json) :
    read index cell = (inspect index cell).mapError .lacking := by
  cases cell with
  | object fields =>
    have hobject : (Json.object fields).isObject = true := rfl
    rw [read, hobject, require_true_bind]
    cases htype : Fields.get? "cell_type" fields with
    | none =>
      have hinspect : inspect index (.object fields) = .error (.noCellType index) := by
        rw [inspect, htype]
      rw [Json.holds_of_get?_eq_none htype, use_ok_bind, require_false_bind, hinspect]
      rfl
    | some type =>
      have hinspect : inspect index (.object fields) =
          if type.isText "code" then inspectSource index fields else .ok .other := by
        rw [inspect, htype]
      obtain ⟨hholds, hfield⟩ := Json.uses_of_get? htype
      rw [hholds, use_ok_bind, require_true_bind, typeOf, hfield, use_ok_bind, hinspect]
      split
      · exact readSource_eq index fields
      · rfl
  | _ => rfl

/-- Nor does reading the cells from some index on. -/
theorem readFrom_checked (index : Nat) (cells : List Json) : Checked (readFrom index cells) := by
  induction cells generalizing index with
  | nil => exact fun m h => nomatch h
  | cons cell cells ih =>
    rw [readFrom, read_eq]
    cases inspect index cell with
    | error fault => exact fun m h => nomatch h
    | ok c => exact (ih (index + 1)).map (c :: ·)

end Cell

/-! ## Paragraphs -/

namespace Paragraph

/-- The text that the text field of a paragraph stands for: null is empty. -/
def heldText? : Json → Option Text
  | .null => some []
  | .text t => some t
  | _ => none

/-- Whether a config says that its paragraph is documentation. -/
def marksDocumentation : Json → Bool
  | .object config => ((Fields.get? "editorMode" config).getD .null).isText markdownMode
  | _ => false

/-- What reading a paragraph with the text `t` comes to, told from its config. -/
def inspectConfig (index : Nat) (t : Text) (config : Json) : Except NoteFault Paragraph :=
  if config.isNull || config.isObject then .ok ⟨t, marksDocumentation config || hasDirective t⟩
  else .error (.configNotAnObject index)

/-- **What reading a paragraph comes to**, told from its fields; a missing config is one that is
null. -/
def inspect (index : Nat) : Json → Except NoteFault Paragraph
  | .object fields =>
    match Fields.get? "text" fields with
    | none => .error (.noText index)
    | some v =>
      match heldText? v with
      | none => .error (.textNotText index)
      | some t => inspectConfig index t ((Fields.get? "config" fields).getD .null)
  | _ => .error (.paragraphNotAnObject index)

/-! ### The text and the config -/

variable {v : Json} {t : Text} {fields : Fields}

/-- The check of the text field lets through what stands for a text. -/
theorem textChecked_eq (v : Json) : (v.isNull || v.isTextual) = (heldText? v).isSome := by
  cases v <;> rfl

/-- What stands for a text is used as that text. -/
theorem presentOr_of_heldText? (h : heldText? v = some t) : presentOr v = .text t := by
  cases v with
  | null =>
    obtain rfl : [] = t := Option.some.inj h
    rfl
  | text u =>
    obtain rfl : u = t := Option.some.inj h
    cases u with
    | nil => rfl
    | cons c cs => rfl
  | _ => cases h

/-- A text that is not empty is told from any other value also after an absent one was replaced. -/
theorem presentOr_isText (ht : t ≠ []) (v : Json) : (presentOr v).isText t = v.isText t := by
  by_cases hv : v.isPresent = true
  · rw [presentOr, if_pos hv]
  · rw [presentOr, if_neg hv]
    cases v with
    | text u =>
      obtain rfl : u = [] := by simpa [Json.isPresent] using hv
      rfl
    | _ => exact beq_false_of_ne ht.symm

/-- The text of a paragraph is what its text field stands for. -/
theorem textOf_eq (hv : fields.get? "text" = some v) (ht : heldText? v = some t) :
    textOf (.object fields) = .ok (.text t) := by
  rw [textOf, (Json.uses_of_get? hv).2, ← presentOr_of_heldText? ht]
  rfl

/-- The editor mode of a paragraph can be looked at if its config is null or an object. -/
theorem editorModeOf_eq {config : Json} (hconfig : (fields.get? "config").getD .null = config)
    (hchecked : (config.isNull || config.isObject) = true) :
    ∃ mode, editorModeOf (.object fields) = .ok mode ∧
      mode.isText markdownMode = marksDocumentation config := by
  have hread : (Json.object fields).fieldOr "config" .null = .ok config := by
    rw [Json.fieldOr, hconfig]
  cases config with
  | null =>
    refine ⟨.text [], ?_, by decide⟩
    rw [editorModeOf, hread]
    rfl
  | object config =>
    by_cases hempty : config = []
    · refine ⟨.text [], ?_, ?_⟩
      · rw [editorModeOf, hread, hempty]
        rfl
      · rw [hempty]
        decide
    · have hpresent : (Json.object config).isPresent = true := by
        simpa [Json.isPresent] using hempty
      refine ⟨presentOr ((Fields.get? "editorMode" config).getD .null), ?_,
        presentOr_isText (by decide) _⟩
      rw [editorModeOf, hread]
      exact if_pos hpresent
  | _ => cases hchecked

/-- Whether a paragraph is documentation can be told if its text and its config passed their
checks. -/
theorem isDocumentationOf_eq {config : Json} (hv : fields.get? "text" = some v)
    (ht : heldText? v = some t) (hconfig : (fields.get? "config").getD .null = config)
    (hchecked : (config.isNull || config.isObject) = true) :
    isDocumentationOf (.object fields) = .ok (marksDocumentation config || hasDirective t) := by
  obtain ⟨mode, hmode, hmarks⟩ := editorModeOf_eq hconfig hchecked
  have hread : (Json.object fields).fieldOr "text" .null = pure v := by
    rw [Json.fieldOr, hv]
    rfl
  rw [← hmarks, isDocumentationOf, hmode]
  by_cases h : mode.isText markdownMode = true
  · rw [h]
    exact if_pos h
  · refine (if_neg h).trans ?_
    rw [hread, pure_bind, presentOr_of_heldText? ht, Bool.eq_false_iff.mpr h]
    rfl

/-! ### Reading -/

/-- The uses of a paragraph whose text and config passed their checks. -/
theorem readChecked_eq {config : Json} (hv : fields.get? "text" = some v)
    (ht : heldText? v = some t) (hconfig : (fields.get? "config").getD .null = config)
    (hchecked : (config.isNull || config.isObject) = true) :
    (do
      let text ← useText (← use (textOf (.object fields)))
      let isDocumentation ← use (isDocumentationOf (.object fields))
      return ⟨text, isDocumentation⟩ : Except (Unread NoteFault) Paragraph) =
      .ok ⟨t, marksDocumentation config || hasDirective t⟩ := by
  rw [textOf_eq hv ht, use_ok_bind, isDocumentationOf_eq hv ht hconfig hchecked]
  rfl

/-- The config of a paragraph is used only if it is null or an object. -/
theorem readConfig_eq (index : Nat) {config : Json} (hv : fields.get? "text" = some v)
    (ht : heldText? v = some t) (hconfig : (fields.get? "config").getD .null = config) :
    (do
      if !config.isNull then
        require (← use ((Json.object fields).field "config")).isObject (.configNotAnObject index)
      let text ← useText (← use (textOf (.object fields)))
      let isDocumentation ← use (isDocumentationOf (.object fields))
      return ⟨text, isDocumentation⟩) =
      (inspectConfig index t config).mapError Unread.lacking := by
  cases hnull : config.isNull with
  | true =>
    have hchecked : (config.isNull || config.isObject) = true := by
      rw [hnull]
      rfl
    rw [inspectConfig, if_pos hchecked]
    exact readChecked_eq hv ht hconfig hchecked
  | false =>
    -- A config that is not null is there, so looking it up again gives it.
    have hthere : Fields.get? "config" fields = some config := by
      cases hc : Fields.get? "config" fields with
      | none =>
        rw [← hconfig, hc] at hnull
        exact Bool.noConfusion hnull
      | some c =>
        rw [← hconfig, hc]
        rfl
    rw [(Json.uses_of_get? hthere).2, inspectConfig, hnull]
    dsimp only
    rw [if_pos Bool.not_false, use_ok_bind]
    cases hobject : config.isObject with
    | true => exact readChecked_eq hv ht hconfig (by rw [hobject, Bool.or_true])
    | false => rfl

/-- **Reading a paragraph never uses a value as what it is not.** -/
theorem read_eq (index : Nat) (paragraph : Json) :
    read index paragraph = (inspect index paragraph).mapError .lacking := by
  cases paragraph with
  | object fields =>
    have hobject : (Json.object fields).isObject = true := rfl
    rw [read, hobject, require_true_bind]
    cases hv : Fields.get? "text" fields with
    | none =>
      have hinspect : inspect index (.object fields) = .error (.noText index) := by
        rw [inspect, hv]
      rw [Json.holds_of_get?_eq_none hv, use_ok_bind, require_false_bind, hinspect]
      rfl
    | some v =>
      obtain ⟨hholds, hfield⟩ := Json.uses_of_get? hv
      rw [hholds, use_ok_bind, require_true_bind, hfield, use_ok_bind, textChecked_eq]
      cases ht : heldText? v with
      | none =>
        have hinspect : inspect index (.object fields) = .error (.textNotText index) := by
          simp only [inspect, hv, ht]
        rw [Option.isSome_none, require_false_bind, hinspect]
        rfl
      | some t =>
        obtain ⟨config, hconfig⟩ : ∃ config, (Fields.get? "config" fields).getD .null = config :=
          ⟨_, rfl⟩
        have hinspect : inspect index (.object fields) = inspectConfig index t config := by
          simp only [inspect, hv, ht, hconfig]
        have hread : (Json.object fields).fieldOr "config" .null = .ok config := by
          rw [Json.fieldOr, hconfig]
        rw [Option.isSome_some, require_true_bind, hread, use_ok_bind, hinspect]
        exact readConfig_eq index hv ht hconfig
  | _ => rfl

/-- Nor does reading the paragraphs from some index on. -/
theorem readFrom_checked (index : Nat) (paragraphs : List Json) :
    Checked (readFrom index paragraphs) := by
  induction paragraphs generalizing index with
  | nil => exact fun m h => nomatch h
  | cons paragraph paragraphs ih =>
    rw [readFrom, read_eq]
    cases inspect index paragraph with
    | error fault => exact fun m h => nomatch h
    | ok p => exact (ih (index + 1)).map (p :: ·)

end Paragraph

/-! ## Documents -/

/-- **A notebook whose cells are not read lacks something**, whatever its cells are. -/
theorem Notebook.ofCells_checked (cells : Option Json) : Checked (Notebook.ofCells cells) := by
  unfold Notebook.ofCells
  split
  · exact (Cell.readFrom_checked 0 _).map Notebook.mk
  · exact fun m h => nomatch h

/-- **A note that is not read lacks something**, whatever its fields are. -/
theorem Note.ofFields_checked (fields : Fields) : Checked (Note.ofFields fields) := by
  unfold Note.ofFields
  split
  · exact (Paragraph.readFrom_checked 0 _).map Note.mk
  · exact fun m h => nomatch h

end KernelJob

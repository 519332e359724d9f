import KernelJob.Proofs.Json.Displayed
import KernelJob.Proofs.Source.Parts
import KernelJob.Source.Document

/-! # What is said of documents

A document may hold surrogates, but what is said of a document that is not read holds none: it names
kinds and keys, counts, and quotes what it shows.

* **`OldNotebook.Worded`** — a step on the way from an older version succeeds or is refused in clean
  words.
* **`Notebook.cellsOf_worded`** — so is the whole way.
* **`Document.yields_read`** — whatever the bytes are, what is said of them is clean. -/

namespace KernelJob

/-! ## Faults -/

@[simp] theorem Numeral.Fault.clean_message (f : Numeral.Fault) : f.message.Clean := by
  cases f with
  | malformed t =>
    have ht := (Text.clean_quoted t).take 200
    simp [Numeral.Fault.message, ht]
  | tooManyDigits n => simp [Numeral.Fault.message]

@[simp] theorem Json.Fault.clean_message (f : Json.Fault) : f.message.Clean := by
  cases f with
  | malformed cause position =>
    have hcause : cause.message.Clean := by cases cause <;> exact Text.clean_ofString _
    simp [Json.Fault.message, hcause]
  | tooManyDigits n => exact (Numeral.Fault.tooManyDigits n).clean_message

@[simp] theorem StructureFault.clean_message (f : StructureFault) : f.message.Clean := by
  cases f with
  | notebook fault => cases fault <;> simp [StructureFault.message, NotebookFault.message]
  | note fault => cases fault <;> simp [StructureFault.message, NoteFault.message]

/-- What is said of a step from a version is clean if the version is displayed so. -/
def UpgradeStage.Clean : UpgradeStage → Prop
  | .reading => True
  | .step version _ => version.display.Clean

/-- What is said of a notebook of an older version is clean. -/
def UpgradeFault.Clean : UpgradeFault → Prop
  | .version fault => fault.message.Clean
  | .breakdown b => b.message.Clean

namespace UpgradeFault

theorem clean_unfit (cause : Unfit) (h : cause.message.Clean) : (unfit cause).Clean :=
  Text.clean_append.mpr ⟨Text.clean_ofString _, h⟩

theorem clean_ofMisfit {m : Misfit} (h : m.Clean) : (ofMisfit m).Clean :=
  clean_unfit (.shape m) h

theorem clean_ofKind {m : Misfit} {kind : Text} (hm : m.words = [kind]) (h : kind.Clean) :
    (ofMisfit m).Clean :=
  clean_ofMisfit (Misfit.clean_of_kind hm h)

theorem clean_incomplete {stage : UpgradeStage} {gap : Gap} (hstage : stage.Clean)
    (hgap : gap.message.Clean) : (incomplete stage gap).Clean := by
  cases stage with
  | reading => exact Text.clean_append.mpr ⟨Text.clean_ofString _, hgap⟩
  | step version next =>
    have hversion : version.display.Clean := hstage
    simp [incomplete, UpgradeFault.Clean, Breakdown.message, hversion, hgap]

end UpgradeFault

/-- A missing part is said to be missing in clean words if it has a clean name. -/
theorem Gap.clean_of (v : Json) {name : Text} (h : name.Clean) : (Gap.of v name).message.Clean := by
  have hpart (v : Json) : (Gap.part v.kindName name).message.Clean :=
    Misfit.clean_noOperation v.clean_kindName h
  cases v with
  | object fields => exact h
  | _ => exact hpart _

/-! ## Older notebooks -/

namespace OldNotebook

variable {α : Type} {stage : UpgradeStage} {fields : Fields}

/-- **A step on the way to the current form** succeeds or is refused in clean words. -/
abbrev Worded (r : Except UpgradeFault α) : Prop := Yields r (fun _ => True) UpgradeFault.Clean

@[simp] theorem clean_kindName (v : Json) : (kindName v).Clean := by
  cases v <;> exact Text.clean_ofString _

theorem clean_reading : UpgradeStage.reading.Clean := trivial

theorem clean_lastStep : lastStep.Clean := Text.clean_ofInt 3

/-- A step for every item of a list. -/
theorem mapM_worded {β : Type} {f : β → Except UpgradeFault α} {items : List β}
    (h : ∀ b, Worded (f b)) : Worded (items.mapM f) :=
  (Yields.mapM fun b _ => h b).mono (fun _ _ => trivial) fun _ h => h

/-! ### Parts -/

theorem part_worded (hstage : stage.Clean) (v : Json) {key : Text} (hkey : key.Clean) :
    Worded (part stage v key) := by
  unfold part
  split
  · trivial
  · exact UpgradeFault.clean_incomplete hstage (Gap.clean_of v hkey)

theorem parts_worded (hstage : stage.Clean) (v : Json) {key : Text} (hkey : key.Clean) :
    Worded (parts stage v key) := by
  have hpart := part_worded hstage v hkey
  unfold parts
  split
  · exact ((Json.yields_items _).mapError fun _ h => UpgradeFault.clean_ofMisfit h).mono
      (fun _ _ => trivial) fun _ h => h
  · rename_i fault hfault
    rw [hfault] at hpart
    exact hpart

theorem clean_noOperation (hstage : stage.Clean) (v : Json) {name : Text} (hname : name.Clean) :
    (noOperation stage v name).Clean := by
  unfold noOperation
  split
  · exact UpgradeFault.clean_ofKind rfl (clean_kindName _)
  · exact UpgradeFault.clean_incomplete hstage (Gap.clean_of v hname)

theorem linesFrom_worded (index : Nat) (items : List Json) : Worded (linesFrom index items) := by
  have hitem (v : Json) (index : Nat) :
      (UpgradeFault.ofMisfit (.itemNotText index (kindName v))).Clean :=
    UpgradeFault.clean_ofKind rfl (clean_kindName _)
  induction items generalizing index with
  | nil => trivial
  | cons v vs ih =>
    cases v with
    | text t => exact (ih (index + 1)).mapped
    | _ => exact hitem _ index

/-- Lines become one text, or they are refused in clean words. -/
def Joining.Worded (join : Joining) : Prop := ∀ lines, OldNotebook.Worded (join lines)

theorem joinApart_worded : Joining.Worded joinApart :=
  fun lines => (linesFrom_worded 0 lines).mapped

theorem joinLines_worded : Joining.Worded joinLines := by
  intro lines
  unfold joinLines
  split
  · trivial
  · exact (linesFrom_worded 0 _).mapped
  · exact clean_noOperation clean_reading _ (Text.clean_ofString _)

variable {join : Joining}

theorem joinUnder_worded (hjoin : join.Worded) (key : Text) (fields : Fields) :
    Worded (joinUnder join key fields) := by
  unfold joinUnder
  split
  · exact (hjoin _).mapped
  · trivial

/-! ### Outputs -/

theorem readOutput_worded (hjoin : join.Worded) (output : Json) :
    Worded (readOutput join output) := by
  have hother (v : Json) : (UpgradeFault.incomplete .reading (.part v.kindName "get")).Clean :=
    UpgradeFault.clean_incomplete clean_reading
      (Misfit.clean_noOperation v.clean_kindName (Text.clean_ofString _))
  cases output with
  | object fields =>
    exact Yields.foldlM (fun fields key _ _ => joinUnder_worded hjoin key fields) trivial
  | _ => exact hother _

theorem checkImage_worded (output : Fields) (key : Text) : Worded (checkImage output key) := by
  unfold checkImage
  split
  · trivial
  · split
    · trivial
    · rename_i fault _
      exact UpgradeFault.clean_unfit (.image fault) fault.clean_message
  · exact clean_noOperation clean_reading _ (Text.clean_ofString _)

theorem upgradeMetadata_worded (v : Json) : Worded (upgradeMetadata v) := by
  unfold upgradeMetadata
  split
  · trivial
  · split
    · exact UpgradeFault.clean_incomplete clean_lastStep
        (Misfit.clean_noOperation (Text.clean_ofString _) (Text.clean_ofString _))
    · trivial
  · split
    · exact UpgradeFault.clean_ofKind rfl (Text.clean_ofString _)
    · trivial
  · exact UpgradeFault.clean_ofKind rfl (Json.clean_kindName _)

theorem checkContents_worded (contents : Fields) : Worded (checkContents contents) := by
  unfold checkContents
  split
  · trivial
  · split
    · trivial
    · rename_i fault _
      exact UpgradeFault.clean_unfit (.contents fault) fault.clean_message
  · exact UpgradeFault.clean_ofKind rfl (clean_kindName _)

theorem upgradeShown_worded (output : Fields) : Worded (upgradeShown output) := by
  unfold upgradeShown
  refine (upgradeMetadata_worded _).bind fun _ _ => ?_
  exact (checkContents_worded _).bind fun _ _ => trivial

theorem upgradeOutput_worded (output : Fields) : Worded (upgradeOutput output) := by
  unfold upgradeOutput
  split
  · exact UpgradeFault.clean_ofMisfit (Text.clean_quoted _)
  · exact UpgradeFault.clean_ofKind rfl (Text.clean_ofString _)
  · exact UpgradeFault.clean_ofKind rfl (clean_kindName _)
  · split
    · exact upgradeShown_worded _
    split
    · exact upgradeShown_worded _
    split
    · trivial
    split <;> trivial

/-! ### Cells -/

theorem readCell_worded (hjoin : join.Worded) (cell : Json) : Worded (readCell join cell) := by
  unfold readCell
  refine (part_worded clean_reading cell (Text.clean_ofString _)).bind fun type _ => ?_
  dsimp only
  split
  · refine (joinUnder_worded hjoin _ _).bind fun _ _ => ?_
    refine (parts_worded clean_reading cell (Text.clean_ofString _)).bind fun outputs _ => ?_
    exact (mapM_worded (readOutput_worded hjoin)).bind fun _ _ => trivial
  · refine (joinUnder_worded hjoin _ _).bind fun _ _ => ?_
    exact (joinUnder_worded hjoin _ _).bind fun _ _ => trivial

theorem readCells_worded (hjoin : join.Worded) (fields : Fields) :
    Worded (readCells join fields) := by
  unfold readCells
  refine (parts_worded clean_reading _ (Text.clean_ofString _)).bind fun sheets _ => ?_
  refine Yields.bind (mapM_worded fun sheet => ?_) fun _ _ => trivial
  refine (parts_worded clean_reading sheet (Text.clean_ofString _)).bind fun cells _ => ?_
  exact mapM_worded (readCell_worded hjoin)

theorem checkImages_worded (cell : SheetCell) : Worded (checkImages cell) :=
  Yields.forM fun output _ => Yields.forM fun key _ => checkImage_worded output key

theorem codeMetadata_worded (fields : Fields) : Worded (codeMetadata fields) := by
  unfold codeMetadata
  dsimp only
  split
  · trivial
  · split
    · trivial
    · exact UpgradeFault.clean_ofMisfit (Text.clean_ofString _)
    · exact UpgradeFault.clean_ofKind rfl (Json.clean_kindName _)

theorem checkLevel_worded (v : Json) : Worded (checkLevel v) := by
  unfold checkLevel
  split
  · trivial
  · split
    · exact Text.clean_ofString _
    split
    · exact Text.clean_nil
    · trivial
  · exact UpgradeFault.clean_ofKind rfl (clean_kindName _)

theorem headingLine_worded (fields : Fields) : Worded (headingLine fields) := by
  unfold headingLine
  refine (checkLevel_worded _).bind fun _ _ => ?_
  split
  · trivial
  · exact clean_noOperation clean_lastStep _ (Text.clean_ofString _)

theorem upgradeCell_worded (cell : SheetCell) : Worded (upgradeCell cell) := by
  unfold upgradeCell upgradeCode upgradeText
  split
  · refine (codeMetadata_worded _).bind fun _ _ => ?_
    exact (mapM_worded upgradeOutput_worded).bind fun _ _ => trivial
  · dsimp only
    split
    · exact (headingLine_worded _).bind fun _ _ => trivial
    split <;> trivial

/-! ### Documents -/

theorem checkForm_worded (form : Formed) : Worded (checkForm form) := by
  have hother (v : Json) : (cellTypeMessage v).Clean := by
    cases v <;> simp [cellTypeMessage]
  unfold checkForm
  split
  · trivial
  · rename_i type _
    exact UpgradeFault.clean_unfit (.cellType type) (hother type)
  · trivial

theorem upgradeCells_worded (fields : Fields) (cells : List SheetCell) :
    Worded (upgradeCells fields cells) := by
  have hminor : Worded (checkMinorVersion fields) := by
    unfold checkMinorVersion
    split
    · split
      · exact UpgradeFault.clean_unfit .minorVersion (Text.clean_ofString _)
      · trivial
    · split
      · exact UpgradeFault.clean_unfit .minorVersion (Text.clean_ofString _)
      · trivial
    · exact Text.clean_nil
  have hform : Worded (checkThirdForm fields) := by
    unfold checkThirdForm
    split
    · split
      · trivial
      · exact checkForm_worded _
    · exact checkForm_worded _
  unfold upgradeCells
  refine hminor.bind fun _ _ => hform.bind fun _ _ => ?_
  refine (part_worded clean_lastStep _ (Text.clean_ofString _)).bind fun metadata _ => ?_
  split
  · refine (mapM_worded upgradeCell_worded).bind fun _ _ => ?_
    exact (checkForm_worded _).bind fun _ _ => trivial
  · exact UpgradeFault.clean_incomplete clean_lastStep
      (Misfit.clean_noOperation (Json.clean_kindName _) (Text.clean_ofString _))

/-! ### The first version -/

theorem checkPrompt_worded (v : Json) : Worded (checkPrompt v) := by
  unfold checkPrompt
  split
  · split
    · trivial
    · exact WholeFault.infinite.clean_message
    · exact UpgradeFault.clean_unfit .promptNotANumber (Text.clean_ofString _)
  · split
    · trivial
    · rename_i fault _
      exact UpgradeFault.clean_unfit (.prompt fault) fault.clean_message
  · exact UpgradeFault.clean_ofKind rfl (Text.clean_ofString _)
  · exact UpgradeFault.clean_ofKind rfl (clean_kindName _)
  · trivial

theorem listedCell?_worded (hstage : stage.Clean) (cell : Json) :
    Worded (listedCell? stage cell) := by
  unfold listedCell?
  refine (part_worded hstage cell (Text.clean_ofString _)).bind fun type _ => ?_
  dsimp only
  split
  · exact (checkPrompt_worded _).bind fun _ _ => trivial
  split <;> trivial

theorem listedCells_worded (hstage : stage.Clean) (started : Bool) (cells : List Json) :
    Worded (listedCells stage started cells) := by
  induction cells generalizing started with
  | nil => trivial
  | cons v vs ih =>
    rw [listedCells]
    refine (listedCell?_worded hstage v).bind fun cell? _ => ?_
    cases cell? with
    | none =>
      dsimp only
      split
      · exact (ih true).bind fun _ _ => trivial
      · exact Text.clean_ofString _
    | some cell => exact (ih true).bind fun _ _ => trivial

theorem firstCells_worded {version : Json} (hversion : version.display.Clean) (fields : Fields) :
    Worded (firstCells version fields) := by
  have hstage : (UpgradeStage.step version 2).Clean := hversion
  unfold firstCells
  refine (parts_worded hstage _ (Text.clean_ofString _)).bind fun cells _ => ?_
  exact (listedCells_worded hstage false cells).bind fun _ _ => trivial

end OldNotebook

open OldNotebook in
/-- **The way from an older version** to the current form succeeds or is refused in clean words, if
the version is displayed as a clean text. -/
theorem Notebook.cellsOf_worded {fields : Fields}
    (hversion : ((fields.get? "nbformat").getD (.int 4)).display.Clean) :
    Worded (Notebook.cellsOf fields) := by
  unfold Notebook.cellsOf
  dsimp only
  split
  · exact Text.clean_append.mpr ⟨Text.clean_ofString _, hversion⟩
  split
  · trivial
  split
  · refine Yields.mapped ?_
    exact (readCells_worded joinLines_worded fields).bind fun _ _ => upgradeCells_worded _ _
  split
  · refine Yields.mapped ?_
    refine (readCells_worded joinApart_worded fields).bind fun _ _ => ?_
    refine (Yields.forM fun cell _ => checkImages_worded cell).bind fun _ _ => ?_
    exact upgradeCells_worded _ _
  split
  · exact (firstCells_worded hversion fields).mapped
  · exact Text.clean_append.mpr ⟨Text.clean_ofString _, hversion⟩

/-! ## Documents -/

namespace Document

theorem clean_jsonFault {wrap : Json.Fault → FormatFault}
    (hwrap : ∀ fault, (wrap fault).message.Clean) (fault : Json.Fault) :
    (jsonFault wrap fault).message.Clean := by
  cases fault with
  | malformed cause position => exact hwrap _
  | tooManyDigits n => exact (Json.Fault.tooManyDigits n).clean_message

theorem clean_upgradeFault {fault : UpgradeFault} (h : fault.Clean) :
    (upgradeFault fault).message.Clean := by
  cases fault with
  | version fault => exact h
  | breakdown b => exact h

/-- A document of which a part lacks something is refused in clean words. -/
theorem yields_of_checked {α β : Type} {r : Except (Unread α) β} (h : Unread.Checked r)
    (wrap : α → StructureFault) :
    Yields (r.mapError (unreadFault wrap)) (fun _ => True) fun fault => fault.message.Clean := by
  cases r with
  | ok b => trivial
  | error unread =>
    cases unread with
    | lacking fault => exact (wrap fault).clean_message
    | misfit m => exact absurd rfl (h m)

theorem yields_readNotebook (t : Text) :
    Yields (readNotebook t) (fun _ => True) fun fault => fault.message.Clean := by
  unfold readNotebook
  cases hread : Json.read t with
  | error fault =>
    exact clean_jsonFault (fun fault => by simp [FormatFault.message]) fault
  | ok v =>
    cases v with
    | object fields =>
      -- the version may be any value and is quoted; what is read from a text is displayed cleanly
      have hversion : ((Fields.get? "nbformat" fields).getD (.int 4)).display.Clean := by
        cases hget : Fields.get? "nbformat" fields with
        | none => exact Text.clean_ofInt 4
        | some v =>
          exact Json.clean_display_of_mem (Json.clean_display_of_read hread)
            (Fields.mem_of_get? hget)
      have hcells := Notebook.cellsOf_worded hversion
      dsimp only
      cases hresult : Notebook.cellsOf fields with
      | error fault =>
        rw [hresult] at hcells
        exact clean_upgradeFault hcells
      | ok cells => exact yields_of_checked (Notebook.ofCells_checked cells) .notebook
    | _ => exact (StructureFault.notebook .notAnObject).clean_message

theorem yields_readNote (t : Text) :
    Yields (readNote t) (fun _ => True) fun fault => fault.message.Clean := by
  unfold readNote
  cases hread : Json.read t with
  | error fault =>
    exact clean_jsonFault (fun fault => by simp [FormatFault.message]) fault
  | ok v =>
    cases v with
    | object fields => exact yields_of_checked (Note.ofFields_checked fields) .note
    | _ => exact (StructureFault.note .notAnObject).clean_message

/-- **What is said of a document that is not read is clean**, whatever the bytes are. -/
theorem yields_read (format : SourceFormat) (bytes : List UInt8) :
    Yields (read format bytes) (fun _ => True) fun fault => fault.message.Clean := by
  have hname : format.name.Clean := by cases format <;> exact Text.clean_ofString _
  unfold read
  cases Text.ofUtf8 bytes with
  | error fault => simp [DocumentFault.message, FormatFault.message, hname]
  | ok t =>
    cases format with
    | text => trivial
    | plainFile => trivial
    | notebook => exact (yields_readNotebook t).mapped
    | note => exact (yields_readNote t).mapped

end Document

end KernelJob

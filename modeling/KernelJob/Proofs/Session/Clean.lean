import KernelJob.Proofs.Artifact.Apart
import KernelJob.Proofs.Clean

/-! # Clean sessions

A clean kernel brings no surrogate into a run: what is captured of a unit is clean, and so is what
is said of every failure.

* **`ArtifactStore.yields_save`** — files are saved under clean names.
* **`Session.collectRich_clean`** — an output in several types is captured cleanly.
* **`Session.handleMessage_clean`** — so is whatever a clean message brings. -/

namespace KernelJob

open KernelJob.Action

/-! ## Saving outputs -/

namespace ArtifactStore

/-- What an output offers of some types is found, or the output is a misfit. -/
theorem yields_preferred (data : Json) (types : List ArtifactType) :
    Yields (preferred data types) (fun _ => True) Misfit.Clean := by
  induction types with
  | nil => trivial
  | cons type types ih =>
    have hholds := data.yields_holds type.mime
    rw [preferred]
    cases hheld : data.holds type.mime with
    | error m =>
      rw [hheld] at hholds
      exact hholds
    | ok held =>
      cases held with
      | false => exact ih
      | true => exact (data.yields_field type.mime).map fun _ _ => trivial

/-- Contents that cannot be taken are refused in clean words, where the kind of the value is at
fault. -/
theorem clean_of_content {type : ArtifactType} {v : Json} {m : Misfit}
    (h : content type v = .error (.misfit m)) : m.Clean := by
  have hkind : ∀ w : Json, Misfit.Clean (.notDecodable w.kindName) ∧
      Misfit.Clean (.notWritable w.kindName) := fun w =>
    ⟨Misfit.clean_of_kind rfl w.clean_kindName, Misfit.clean_of_kind rfl w.clean_kindName⟩
  cases v with
  | text t =>
    unfold content at h
    dsimp only at h
    split at h
    · cases hdecode : Base64.decode t <;> rw [hdecode] at h <;> cases h
    · cases h
  | _ =>
    unfold content at h
    dsimp only at h
    split at h
    · cases h
      exact (hkind _).1
    · cases h
      exact (hkind _).2

/-- Writing a file fails for reasons other than the kind of a value. -/
theorem writeContent_ne_misfit (files : FileTree) (path : Path)
    (encoded : Except EncodeFault (List UInt8)) (m : Misfit) :
    (writeContent files path encoded).2 ≠ .error (.misfit m) := by
  unfold writeContent
  split
  · split <;> exact nofun
  · split <;> exact nofun

/-- The name of an artifact is clean. -/
theorem clean_artifactName (unit : Int) (index : Nat) {type : ArtifactType}
    (h : type ∈ artifactTypes) : (artifactName unit index type.suffix).Clean := by
  have hsuffix : ∀ type ∈ artifactTypes, type.suffix.Clean := by decide
  simp [artifactName, hsuffix type h]

/-- A file of some type is saved under a clean name, or refused in clean words if it is a misfit. -/
theorem yields_saveAs (s : ArtifactStore) (files : FileTree) (unit : Int) {type : ArtifactType}
    (htype : type ∈ artifactTypes) (data : Json) :
    Yields (s.saveAs files unit type data).2.2 (fun path => path.name.Clean)
      (fun fault => ∀ m, fault = .misfit m → m.Clean) := by
  have hjoined := data.yields_joined
  unfold saveAs
  cases hdata : data.joined with
  | error m =>
    rw [hdata] at hjoined
    rintro m' ⟨⟩
    exact hjoined
  | ok payload =>
    dsimp only
    split
    · rintro m ⟨⟩
    · split
      · rename_i fault hcontent
        rintro m rfl
        exact clean_of_content hcontent
      · split
        · show Text.Clean (Path.name _)
          rw [Path.name_child (isPlain_artifactName _ _ htype)]
          exact clean_artifactName _ _ htype
        · rename_i fault hwrite
          rintro m rfl
          exact absurd (congrArg Prod.snd hwrite) (writeContent_ne_misfit _ _ _ m)

/-- **A file is saved under a clean name**, and an output that is a misfit is refused in clean
words. -/
theorem yields_save (s : ArtifactStore) (files : FileTree) (unit : Int) (data : Json) :
    Yields (s.save files unit data).2.2 (fun path? => ∀ path, path? = some path → path.name.Clean)
      (fun fault => ∀ m, fault = .misfit m → m.Clean) := by
  have hpreferred := yields_preferred data artifactTypes
  unfold save
  cases hchoice : preferred data artifactTypes with
  | error m =>
    rw [hchoice] at hpreferred
    rintro m' ⟨⟩
    exact hpreferred
  | ok choice =>
    cases choice with
    | none => exact nofun
    | some choice =>
      obtain ⟨type, v⟩ := choice
      refine (s.yields_saveAs files unit (mem_of_preferred hchoice) v).map ?_
      rintro path hname _ ⟨⟩
      exact hname

end ArtifactStore

/-! ## Capturing output -/

/-- What was captured of a unit is clean. -/
structure Session.Captured.Clean (c : Session.Captured) : Prop where
  collector : c.collector.Clean
  fault : ∀ f, c.fault = some f → f.message.Clean

namespace Session

variable {x : Execution} {c : Captured} {w : World}

/-- A clean capture in a clean world. -/
def Captured.CleanIn (c : Captured) (w : World) : Prop := c.Clean ∧ w.Clean

/-- What is captured is still clean when clean output is collected. -/
theorem collect_clean (hs : x.sink.Prints) {step : OutputStep} (hstep : step.Clean)
    (hc : c.CleanIn w) : (collect x step c).Ensures w Captured.CleanIn Failure.CleanIn := by
  unfold collect
  refine (emitAll_clean hs _ hc.2).bind fun _ w' hw' => ?_
  exact ⟨⟨hc.1.collector.step hstep, hc.1.fault⟩, hw'⟩

/-- Clean output is collected up to here. -/
theorem collectFlush_clean (hs : x.sink.Prints) (hc : c.CleanIn w) :
    (collect x .flush c).Ensures w Captured.CleanIn Failure.CleanIn := collect_clean hs trivial hc

/-- A value that a message should hold is there, or the message is refused in clean words. -/
theorem ofMisfit_clean {α : Type} {r : Except Misfit α} {P : α → Prop}
    (hr : Yields r P Misfit.Clean) (hw : w.Clean) :
    (ofExcept (r.mapError Failure.misfit)).Ensures w (fun a w' => P a ∧ w' = w)
      Failure.CleanIn := by
  cases r with
  | ok a => exact ⟨hr, rfl⟩
  | error m => exact ⟨Failure.clean_misfit hr, hw⟩

/-- An output is saved under a clean name. -/
theorem saveArtifact_clean (x : Execution) (data : Json) (hw : w.Clean) :
    (saveArtifact x data).Ensures w
      (fun name? w' => (∀ name, name? = some name → name.Clean) ∧ w'.Clean) Failure.CleanIn := by
  unfold saveArtifact
  rw [ensures_bind, ensures_world]
  split
  · exact ⟨nofun, hw⟩
  · rename_i store _
    have hsave := store.yields_save w.files x.unit data
    rw [ensures_bind, ensures_change]
    cases hresult : (store.save w.files x.unit data).2.2 with
    | ok path? =>
      rw [hresult] at hsave
      cases path? with
      | none => exact ⟨nofun, hw.kernel, hw.progress⟩
      | some path =>
        refine ⟨?_, hw.kernel, hw.progress⟩
        rintro name ⟨⟩
        exact hsave path rfl
    | error fault =>
      rw [hresult] at hsave
      dsimp only
      split
      · exact ⟨nofun, hw.kernel, hw.progress⟩
      · rename_i hrecoverable
        cases fault with
        | misfit m => exact ⟨.of_message (hsave m rfl) rfl, hw.kernel, hw.progress⟩
        | _ => exact absurd rfl hrecoverable

/-- The plain text of a clean output is collected. -/
theorem collectPlain_clean (hs : x.sink.Prints) {data : Json} (hdata : data.Clean)
    (hc : c.CleanIn w) :
    (collectPlain x data c).Ensures w Captured.CleanIn Failure.CleanIn := by
  have hkind : ∀ v : Json, Misfit.Clean (.noOperation v.kindName "splitlines") := fun v =>
    Misfit.clean_noOperation v.clean_kindName (Text.clean_ofString _)
  unfold collectPlain
  refine (ofMisfit_clean (data.yields_fieldOr .null _) hc.2).bind ?_
  rintro plain _ ⟨hplain, rfl⟩
  split
  · refine (ofMisfit_clean plain.yields_joined hc.2).bind ?_
    rintro joined _ ⟨hjoined, rfl⟩
    have hclean := hjoined (hplain hdata .null)
    split
    · exact collect_clean hs hclean.of_text hc
    · refine (collectFlush_clean hs hc).bind fun _ w' hc' => ?_
      exact ⟨Failure.clean_misfit (hkind _), hc'.2⟩
  · exact hc

/-- A clean output in several types is saved or its plain text is collected. -/
theorem collectRich_clean (hs : x.sink.Prints) {content : Json} (hcontent : content.Clean)
    (hc : c.CleanIn w) :
    (collectRich x content c).Ensures w Captured.CleanIn Failure.CleanIn := by
  unfold collectRich
  refine (ofMisfit_clean (content.yields_fieldOr _ _) hc.2).bind ?_
  rintro data _ ⟨hdata, rfl⟩
  have hclean := hdata hcontent (.object nofun nofun)
  refine (saveArtifact_clean x data hc.2).bind ?_
  rintro name? w' ⟨hname, hw'⟩
  cases name? with
  | none => exact collectPlain_clean hs hclean ⟨hc.1, hw'⟩
  | some name =>
    refine collect_clean hs ?_ ⟨hc.1, hw'⟩
    simp [OutputStep.Clean, hname name rfl]

/-- The lines of a clean traceback are collected one after the other. -/
theorem collectTraceback_clean (hs : x.sink.Prints) {items : List Json}
    (hitems : ∀ v ∈ items, v.Clean) (hc : c.CleanIn w) :
    (collectTraceback x items c).Ensures w Captured.CleanIn Failure.CleanIn := by
  have hkind : ∀ v : Json, Misfit.Clean (.notScannable v.kindName) := fun v =>
    Misfit.clean_of_kind rfl v.clean_kindName
  induction items generalizing c w with
  | nil => exact hc
  | cons item items ih =>
    obtain ⟨hitem, hrest⟩ := List.forall_mem_cons.mp hitems
    cases item with
    | text t =>
      have ht : OutputStep.Clean (.block (Text.stripColours t)) := hitem.of_text.stripColours
      exact (collect_clean hs ht hc).bind fun _ _ hc' => ih hrest hc'
    | _ => exact ⟨Failure.clean_misfit (hkind _), hc.2⟩

/-- A clean error is a clean fault of the code. -/
theorem yields_faultOf (content : Json) :
    Yields (faultOf content) (fun f => content.Clean → f.message.Clean ∧ f.traceback.Clean)
      Misfit.Clean := by
  unfold faultOf
  refine (content.yields_fieldOr _ _).bind fun name hname => ?_
  refine (content.yields_fieldOr _ _).bind fun value hvalue => ?_
  refine (content.yields_fieldOr _ _).bind fun traceback htraceback hcontent => ⟨?_, ?_⟩
  · have hn := (hname hcontent (.text (Text.clean_ofString _))).shown
    have hv := (hvalue hcontent (.text Text.clean_nil)).shown
    simp [CodeFault.message, hn, hv]
  · exact htraceback hcontent (.list (List.forall_mem_nil _))

/-! ## Messages -/

/-- What has come of a message is clean. -/
def Progressed.CleanIn : Progressed → World → Prop
  | .more c, w => c.CleanIn w
  | .idle c, w => c.CleanIn w

/-- A clean message about the request is taken into account, or refused in clean words. -/
theorem handleOwn_clean (hs : x.sink.Prints) (type : Json) {content : Json}
    (hcontent : content.Clean) (hc : c.CleanIn w) :
    (handleOwn x type content c).Ensures w Progressed.CleanIn Failure.CleanIn := by
  have happend : ∀ v : Json, Misfit.Clean (.notAppendable v.kindName) := fun v =>
    Misfit.clean_of_kind rfl v.clean_kindName
  unfold handleOwn
  split
  · refine (ofMisfit_clean (content.yields_fieldOr _ _) hc.2).bind ?_
    rintro text _ ⟨htext, rfl⟩
    have hclean := htext hcontent (.text Text.clean_nil)
    split
    · have ht : OutputStep.Clean (.text _) := hclean.of_text
      exact (collect_clean hs ht hc).bind fun _ _ hc' => hc'
    · exact ⟨Failure.clean_misfit (happend _), hc.2⟩
  split
  · exact (collectRich_clean hs hcontent hc).bind fun _ _ hc' => hc'
  split
  · refine (ofMisfit_clean (yields_faultOf content) hc.2).bind ?_
    rintro fault _ ⟨hfault, rfl⟩
    obtain ⟨hmessage, htraceback⟩ := hfault hcontent
    refine (ofMisfit_clean fault.traceback.yields_items hc.2).bind ?_
    rintro items _ ⟨hitems, rfl⟩
    have hfaulty : Captured.Clean { c with fault := some fault } :=
      ⟨hc.1.collector, fun _ hf => Option.some.inj hf ▸ hmessage⟩
    exact (collectTraceback_clean hs (hitems htraceback) ⟨hfaulty, hc.2⟩).bind fun _ _ hc' => hc'
  split
  · refine (ofMisfit_clean (content.yields_fieldOr _ _) hc.2).bind ?_
    rintro state _ ⟨-, rfl⟩
    split
    · exact (collectFlush_clean hs hc).bind fun _ _ hc' => hc'
    · exact hc
  · exact hc

/-- A clean message is taken into account, or refused in clean words. -/
theorem handleMessage_clean (hs : x.sink.Prints) {message : Json} (hmessage : message.Clean)
    (hc : c.CleanIn w) :
    (handleMessage x message c).Ensures w Progressed.CleanIn Failure.CleanIn := by
  have habout : Yields (isAbout x.request message) (fun _ => True) Misfit.Clean := by
    unfold isAbout
    refine (message.yields_fieldOr _ _).bind fun parent _ => ?_
    exact (parent.yields_fieldOr _ _).bind fun _ _ => trivial
  unfold handleMessage
  refine (ofMisfit_clean habout hc.2).bind ?_
  rintro about _ ⟨-, rfl⟩
  split
  · refine (ofMisfit_clean (message.yields_field _) hc.2).bind ?_
    rintro header _ ⟨-, rfl⟩
    refine (ofMisfit_clean (header.yields_field _) hc.2).bind ?_
    rintro type _ ⟨-, rfl⟩
    refine (ofMisfit_clean (message.yields_fieldOr _ _) hc.2).bind ?_
    rintro content _ ⟨hcontent, rfl⟩
    exact handleOwn_clean hs type (hcontent hmessage (.object nofun nofun)) hc
  · exact hc

end Session

end KernelJob

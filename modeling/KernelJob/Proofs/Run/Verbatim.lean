import KernelJob.Proofs.Run.Submitted
import KernelJob.Proofs.Text.Utf8.Valid

/-! # Code reaches the kernel as it stands

A source that is code and nothing else has one unit, which holds the whole of it. Code in a file is
decoded, and inline code is encoded and decoded again; neither changes it.

* **`Document.KeepsCode`** — bytes that are read as the code that they stand for, if they are valid.
* **`Run.KeepsInline`** — inline code that stays as it is on its way to the kernel.
* **`Run.code_verbatim`** — both hold, whatever the bytes, the code and the run are. -/

namespace KernelJob

/-! ## Documents of code -/

/-- **A format that takes code as it stands.** -/
def SourceFormat.IsCode (format : SourceFormat) : Prop := format = .text ∨ format = .plainFile

namespace Document

variable {format : SourceFormat} {bytes : List UInt8} {units : List CodeUnit}

/-- **Bytes that are read as the code that they stand for.** -/
structure KeepsCode (format : SourceFormat) (bytes : List UInt8) : Prop where
  /-- They are read if and only if they are valid. -/
  accepts : (∃ units, parse format bytes = .ok units) ↔ bytes.toByteArray.IsValidUTF8
  /-- There is one unit then, which is executed and has just these bytes as its source. -/
  keeps : ∀ units, parse format bytes = .ok units →
    ∃ t, units = [⟨0, t, false⟩] ∧ Text.utf8 t = .ok bytes

/-- Bytes of code are decoded, and what comes of it is the source of a single unit. -/
theorem parse_code (hformat : format.IsCode) : parse format bytes = .ok units ↔
    ∃ t, units = [⟨0, t, false⟩] ∧ Text.utf8 t = .ok bytes := by
  simp only [← Text.ofUtf8_eq_ok_iff]
  unfold parse read
  cases Text.ofUtf8 bytes with
  | error fault =>
    refine iff_of_false (fun h => nomatch h) ?_
    rintro ⟨t, -, h⟩
    exact nomatch h
  | ok t =>
    have htext : ofText format t = .ok (.code t) := by
      rcases hformat with rfl | rfl
      · rfl
      · rfl
    dsimp only
    rw [htext]
    constructor
    · intro h
      exact ⟨t, (Except.ok.inj h).symm, rfl⟩
    · rintro ⟨t', rfl, h⟩
      obtain rfl := Except.ok.inj h
      rfl

/-- **Code is read as it stands.** -/
theorem keepsCode (hformat : format.IsCode) (bytes : List UInt8) : KeepsCode format bytes := by
  refine ⟨?_, fun units h => (parse_code hformat).mp h⟩
  rw [← Text.exists_ofUtf8_eq_iff]
  constructor
  · rintro ⟨units, h⟩
    obtain ⟨t, -, ht⟩ := (parse_code hformat).mp h
    exact ⟨t, Text.ofUtf8_of_utf8 ht⟩
  · rintro ⟨t, ht⟩
    exact ⟨_, (parse_code hformat).mpr ⟨t, rfl, Text.utf8_of_ofUtf8 ht⟩⟩

end Document

/-! ## Inline code -/

namespace Run

variable {config : RunConfig} {files : FileTree}

/-- **Inline code that stays as it is** on its way to the kernel. -/
structure KeepsInline (s : Setting) (config : RunConfig) (w : World) : Prop where
  /-- Encoded and read again it is the source of a single unit, if it can be encoded at all. -/
  unit : config.source.hasSurrogate = false →
    ∃ bytes, Text.utf8 config.source = .ok bytes ∧
      Document.parse .text bytes = .ok [⟨0, config.source, false⟩]
  /-- Whatever a run submits is this code. -/
  submitted : ∀ source ∈ World.submittedSince w (run s config w).2, source = config.source

/-- Inline code has no unit but the code itself. -/
theorem source_of_mem_dueUnits (hmode : config.mode = .inline)
    (hformat : config.effectiveFormat = .text) {unit : CodeUnit}
    (h : unit ∈ dueUnits files config) : unit.source = config.source := by
  have hloaded : unit ∈ loadedUnits files config := (List.mem_filter.mp h).1
  rw [loadedUnits, sourceBytes, hmode, hformat] at hloaded
  dsimp only at hloaded
  cases hbytes : Text.utf8 config.source with
  | error fault =>
    rw [hbytes] at hloaded
    exact absurd hloaded List.not_mem_nil
  | ok bytes =>
    -- what was encoded is decoded as the same code
    have hread : Document.read .text bytes = .ok (.code config.source) := by
      unfold Document.read
      rw [Text.ofUtf8_of_utf8 hbytes]
      rfl
    rw [hbytes, Except.toOption] at hloaded
    dsimp only at hloaded
    rw [hread] at hloaded
    obtain rfl := List.mem_singleton.mp hloaded
    rfl

/-- **Inline code stays as it is.** -/
theorem keepsInline (hmode : config.mode = .inline) (hformat : config.effectiveFormat = .text)
    (s : Setting) (w : World) : KeepsInline s config w := by
  constructor
  · intro hsource
    obtain ⟨bytes, hbytes⟩ := Text.exists_utf8From_eq hsource 0
    refine ⟨bytes, hbytes, ?_⟩
    exact (Document.parse_code (.inl rfl)).mpr ⟨_, rfl, hbytes⟩
  · intro source hsource
    have hmem : source ∈ (dueUnits w.files config).map CodeUnit.source :=
      (run_submits s config w).subset hsource
    obtain ⟨unit, hunit, rfl⟩ := List.mem_map.mp hmem
    exact source_of_mem_dueUnits hmode hformat hunit

/-- **Code reaches the kernel unchanged**: bytes of code are read as they stand if they are valid,
and a run of inline code submits this code and no other. -/
theorem code_verbatim {format : SourceFormat} (hcode : format.IsCode) (bytes : List UInt8)
    (hmode : config.mode = .inline) (hformat : config.effectiveFormat = .text) (s : Setting)
    (w : World) : Document.KeepsCode format bytes ∧ KeepsInline s config w :=
  ⟨Document.keepsCode hcode bytes, keepsInline hmode hformat s w⟩

/-- The bytes of an umlaut are read as they stand, and a run of a single line submits it. -/
theorem code_verbatim_oneLine :
    (Document.KeepsCode .plainFile [0xC3, 0xBC] ∧
      KeepsInline ⟨{}, .ignoring⟩ oneLine { handle := { config := oneLine } }) ∧
    World.submittedSince { handle := { config := oneLine } }
      (run ⟨{}, .ignoring⟩ oneLine { handle := { config := oneLine } }).2 = [oneLine.source] :=
  ⟨code_verbatim (.inr rfl) _ rfl rfl _ _, by decide +kernel⟩

end Run

end KernelJob

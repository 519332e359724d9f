import Mathlib.Data.List.Forall2
import KernelJob.Job
import KernelJob.Proofs.Action
import KernelJob.Proofs.FileTree
import KernelJob.Proofs.Json.RoundTrip
import KernelJob.Proofs.Json.Written
import KernelJob.Proofs.Text.Utf8

/-! # The report file

A report is stored as indented JSON. The text is read back as an object with the fields of the
report, so a report can be told from its text; the bytes of the file are those of the text.

* **`Report.Storable`** — no text holds a surrogate, no number has more digits than are read.
* **`Report.ToldBy`**, **`UnitResult.ToldBy`** — the fields of an object tell a report, or a result.
* **`Report.file_tells`** — the file that is written tells the report and no other one. -/

namespace KernelJob

/-! ## What the fields of an object tell -/

/-- The fields of an object tell a result: these keys in this order, each with its value. -/
structure UnitResult.ToldBy (r : UnitResult) (fields : Fields) : Prop where
  keys : fields.map Prod.fst =
    (["sequence_number", "output_text", "truncated", "elapsed_ms", "outcome", "error"] : List Text)
  sequenceNumber : fields.get? "sequence_number" = some (.int r.sequenceNumber)
  output : fields.get? "output_text" = some (.text r.output)
  truncated : fields.get? "truncated" = some (.bool r.truncated)
  elapsed : fields.get? "elapsed_ms" = some (.int r.elapsed)
  outcome : fields.get? "outcome" = some (.text (if r.succeeded then "success" else "fault"))
  error : fields.get? "error" = some (.text r.error)

/-- The fields of an object tell a report: these keys in this order, each with its value. The
results and the diagnostics are lists in the order of the report. -/
structure Report.ToldBy (r : Report) (fields : Fields) : Prop where
  keys : fields.map Prod.fst = (["overall_outcome", "per_unit_results", "diagnostic_messages",
    "kernel", "server_name", "task"] : List Text)
  outcome : fields.get? "overall_outcome" =
    some (.text (if r.succeeded then "success" else "failure"))
  results : ∃ items, fields.get? "per_unit_results" = some (.list items) ∧
    List.Forall₂ (fun result item => ∃ fs, item = .object fs ∧ result.ToldBy fs) r.results items
  diagnostics : fields.get? "diagnostic_messages" = some (.list (r.diagnostics.map .text))
  kernel : fields.get? "kernel" = some (.text r.kernel)
  serverName : fields.get? "server_name" = some (.text r.serverName)
  task : fields.get? "task" = some (.text r.task)

/-- Which of two different texts was chosen tells the choice. -/
theorem choice_inj {a b : Bool} {s t : Text} (hne : s ≠ t)
    (h : (if a then s else t) = if b then s else t) : a = b := by
  cases a <;> cases b
  · rfl
  · exact absurd h.symm hne
  · exact absurd h hne
  · rfl

/-- Fields tell at most one result. -/
theorem UnitResult.ToldBy.unique {r r' : UnitResult} {fields : Fields} (h : r.ToldBy fields)
    (h' : r'.ToldBy fields) : r = r' := by
  have hnumber : r.sequenceNumber = r'.sequenceNumber :=
    Json.int.inj (Option.some.inj (h.sequenceNumber.symm.trans h'.sequenceNumber))
  have houtput : r.output = r'.output :=
    Json.text.inj (Option.some.inj (h.output.symm.trans h'.output))
  have htruncated : r.truncated = r'.truncated :=
    Json.bool.inj (Option.some.inj (h.truncated.symm.trans h'.truncated))
  have helapsed : r.elapsed = r'.elapsed :=
    Json.int.inj (Option.some.inj (h.elapsed.symm.trans h'.elapsed))
  have herror : r.error = r'.error :=
    Json.text.inj (Option.some.inj (h.error.symm.trans h'.error))
  have houtcome : r.outcome = r'.outcome := by
    have hname := Json.text.inj (Option.some.inj (h.outcome.symm.trans h'.outcome))
    have hsame : r.succeeded = r'.succeeded := choice_inj (by decide) hname
    rw [succeeded, succeeded] at hsame
    cases hr : r.outcome <;> cases hr' : r'.outcome <;> rw [hr, hr'] at hsame
    · exact nomatch hsame
    · exact nomatch hsame
  show (⟨r.sequenceNumber, r.output, r.truncated, r.elapsed, r.outcome, r.error⟩ : UnitResult) = r'
  rw [hnumber, houtput, htruncated, helapsed, houtcome, herror]

/-- Fields tell at most one report. -/
theorem Report.ToldBy.unique {r r' : Report} {fields : Fields} (h : r.ToldBy fields)
    (h' : r'.ToldBy fields) : r = r' := by
  have hsucceeded : r.succeeded = r'.succeeded :=
    choice_inj (by decide) (Json.text.inj (Option.some.inj (h.outcome.symm.trans h'.outcome)))
  have hresults : r.results = r'.results := by
    obtain ⟨items, hitems, hall⟩ := h.results
    obtain ⟨items', hitems', hall'⟩ := h'.results
    obtain rfl := Json.list.inj (Option.some.inj (hitems.symm.trans hitems'))
    refine List.left_unique_forall₂' ?_ hall hall'
    rintro a b item ⟨fs, rfl, ha⟩ ⟨fs', hfs', hb⟩
    obtain rfl := Json.object.inj hfs'
    exact ha.unique hb
  have hdiagnostics : r.diagnostics = r'.diagnostics :=
    List.map_injective_iff.mpr (fun _ _ => Json.text.inj)
      (Json.list.inj (Option.some.inj (h.diagnostics.symm.trans h'.diagnostics)))
  have hkernel : r.kernel = r'.kernel :=
    Json.text.inj (Option.some.inj (h.kernel.symm.trans h'.kernel))
  have hserver : r.serverName = r'.serverName :=
    Json.text.inj (Option.some.inj (h.serverName.symm.trans h'.serverName))
  have htask : r.task = r'.task := Json.text.inj (Option.some.inj (h.task.symm.trans h'.task))
  show (⟨r.succeeded, r.results, r.diagnostics, r.kernel, r.serverName, r.task⟩ : Report) = r'
  rw [hsucceeded, hresults, hdiagnostics, hkernel, hserver, htask]

/-! ## Reports that can be stored -/

/-- The texts of a result. -/
def UnitResult.texts (r : UnitResult) : List Text := [r.output, r.error]

/-- The numbers of a result. -/
def UnitResult.numbers (r : UnitResult) : List Int := [r.sequenceNumber, r.elapsed]

namespace Report

/-- The texts of a report. -/
def texts (r : Report) : List Text :=
  r.results.flatMap UnitResult.texts ++ r.diagnostics ++ [r.kernel, r.serverName, r.task]

/-- The numbers of a report. -/
def numbers (r : Report) : List Int := r.results.flatMap UnitResult.numbers

/-- **A report that can be stored**: no text holds a surrogate, and no number has more digits than
are read. -/
structure Storable (r : Report) : Prop where
  texts : ∀ t ∈ r.texts, t.hasSurrogate = false
  numbers : ∀ n ∈ r.numbers, n.natAbs < 10 ^ digitLimit

end Report

/-! ## The value of a report -/

/-- The value of a result is an object that tells it. -/
theorem UnitResult.toJson_eq (r : UnitResult) : ∃ fs, r.toJson = .object fs ∧ r.ToldBy fs := by
  refine ⟨_, rfl, rfl, rfl, rfl, rfl, rfl, ?_, rfl⟩
  obtain ⟨_, _, _, _, outcome, _⟩ := r
  cases outcome <;> rfl

/-- The value of a report is an object that tells it. -/
theorem Report.toJson_eq (r : Report) : ∃ fs, r.toJson = .object fs ∧ r.ToldBy fs := by
  refine ⟨_, rfl, rfl, ?_, ⟨_, rfl, ?_⟩, rfl, rfl, rfl, rfl⟩
  · obtain ⟨succeeded, _⟩ := r
    cases succeeded <;> rfl
  · rw [List.forall₂_map_right_iff, List.forall₂_same]
    exact fun result _ => result.toJson_eq

namespace Report

variable {r : Report}

/-- The value of a storable result is read back. -/
theorem Storable.plain_result (hr : r.Storable) {result : UnitResult} (h : result ∈ r.results) :
    result.toJson.Plain := by
  have hnumbers : ∀ n ∈ result.numbers, n.natAbs < 10 ^ digitLimit := fun n hn =>
    hr.numbers n (List.mem_flatMap_of_mem h hn)
  refine .object (by simp only [List.map]; decide) ?_
  simp only [List.forall_mem_cons, List.not_mem_nil, false_implies, implies_true, and_true]
  exact ⟨.int (hnumbers _ (by simp [UnitResult.numbers])), .text _, .bool _,
    .int (hnumbers _ (by simp [UnitResult.numbers])), .text _, .text _⟩

/-- The value of a storable report is read back. -/
theorem Storable.plain (hr : r.Storable) : r.toJson.Plain := by
  refine .object (by simp only [List.map]; decide) ?_
  simp only [List.forall_mem_cons, List.not_mem_nil, false_implies, implies_true, and_true]
  refine ⟨.text _, .list ?_, .list ?_, .text _, .text _, .text _⟩
  · intro v hv
    obtain ⟨result, hresult, rfl⟩ := List.mem_map.mp hv
    exact hr.plain_result hresult
  · intro v hv
    obtain ⟨message, -, rfl⟩ := List.mem_map.mp hv
    exact .text message

/-- The value of a report is clean if its texts are. -/
theorem clean_toJson (hr : ∀ t ∈ r.texts, t.Clean) : r.toJson.Clean := by
  simp only [Report.texts, List.forall_mem_append, List.forall_mem_cons, List.mem_flatMap] at hr
  obtain ⟨⟨hresults, hdiagnostics⟩, hkernel, hserver, htask, -⟩ := hr
  have hresult : ∀ result ∈ r.results, result.toJson.Clean := by
    intro result hmem
    have hin : ∀ t ∈ result.texts, t.Clean := fun t ht => hresults t ⟨result, hmem, ht⟩
    simp only [UnitResult.texts, List.forall_mem_cons] at hin
    have hname : result.outcome.name.Clean := by
      cases result.outcome <;> exact Text.clean_ofString _
    simp [UnitResult.toJson, Json.Clean.int, Json.Clean.bool, hin, hname]
  have hname : r.outcomeName.Clean := by
    unfold outcomeName
    split <;> exact Text.clean_ofString _
  have hlist : (Json.list (r.results.map UnitResult.toJson)).Clean :=
    .list (List.forall_mem_map.mpr hresult)
  have hmessages : (Json.list (r.diagnostics.map Json.text)).Clean :=
    .list (List.forall_mem_map.mpr fun t ht => .text (hdiagnostics t ht))
  simp [toJson, hname, hlist, hmessages, hkernel, hserver, htask]

/-- **A clean report is written as a clean text.** -/
theorem fileText_of_clean (hr : ∀ t ∈ r.texts, t.Clean) : ∃ t, r.fileText = .ok t ∧ t.Clean :=
  (clean_toJson hr).written

/-- **A report is read from its text**, and no other report has that text. -/
theorem Storable.read_fileText (hr : r.Storable) :
    ∃ t, r.fileText = .ok t ∧ ∃ fields, Json.read t = .ok (.object fields) ∧ r.ToldBy fields := by
  obtain ⟨fields, hfields, htold⟩ := r.toJson_eq
  have hclean : r.toJson.Clean := clean_toJson fun t ht => Text.clean_iff.mpr (hr.texts t ht)
  refine ⟨r.toJson.indented 0, ?_, fields, ?_, htold⟩
  · rw [fileText, Json.written, hclean.encodeFault?_eq_none]
  · rw [Json.read_indented hr.plain, hfields]

/-- **Writing a report stores the bytes of its text.** -/
theorem write_stores (r : Report) (path : Path) (w : World) :
    (r.write path).Ensures w
      (fun _ w' => ∃ t bytes, r.fileText = .ok t ∧ Text.utf8 t = .ok bytes ∧
        w'.files.read path = .ok bytes)
      (fun _ _ => True) := by
  unfold write
  simp only [Action.ensures_bind, Action.ensures_world, Action.ensures_change]
  cases (w.files.makeDirectories path.parent).2 with
  | error fault => trivial
  | ok _ =>
    dsimp only
    rw [Action.ensures_bind, Action.ensures_ofExcept]
    cases htext : r.fileText with
    | error fault => trivial
    | ok t =>
      dsimp only [Except.mapError]
      cases hbytes : Text.utf8 t with
      | error fault =>
        -- the file is left empty, which is a failure
        rw [ArtifactStore.writeContent]
        cases hwrite : (w.files.makeDirectories path.parent).1.write path [] <;> trivial
      | ok bytes =>
        rw [ArtifactStore.writeContent]
        cases hwrite : (w.files.makeDirectories path.parent).1.write path bytes with
        | error fault => trivial
        | ok files => exact ⟨t, bytes, rfl, hbytes, FileTree.read_of_write hwrite⟩

/-- **A report file tells its report.** The text of a storable report is read as an object whose
fields are those of the report, in order and with equal values; no other storable report has that
text; and a file to which the report has been written holds the bytes of that text, and so is read
as the same object. -/
theorem file_tells {r : Report} (hr : r.Storable) :
    ∃ t fields, r.fileText = .ok t ∧ Json.read t = .ok (.object fields) ∧ r.ToldBy fields ∧
      (∀ r' : Report, r'.Storable → r'.fileText = .ok t → r' = r) ∧
      ∀ (path : Path) (w : World), (r.write path w).1 = .ok () →
        ∃ bytes, (r.write path w).2.files.read path = .ok bytes ∧ Text.ofUtf8 bytes = .ok t := by
  obtain ⟨t, htext, fields, hread, htold⟩ := hr.read_fileText
  refine ⟨t, fields, htext, hread, htold, ?_, ?_⟩
  · intro r' hr' htext'
    obtain ⟨t', ht', fields', hread', htold'⟩ := hr'.read_fileText
    obtain rfl : t = t' := Except.ok.inj (htext'.symm.trans ht')
    obtain rfl : fields = fields' := Json.object.inj (Except.ok.inj (hread.symm.trans hread'))
    exact htold'.unique htold
  · intro path w hwrite
    have hstored := (Action.ensures_iff.mp (r.write_stores path w)).1 () hwrite
    obtain ⟨t', bytes, ht', hbytes, hfile⟩ := hstored
    obtain rfl : t = t' := Except.ok.inj (htext.symm.trans ht')
    exact ⟨bytes, hfile, Text.ofUtf8_of_utf8 hbytes⟩

/-- A report of a failure whose texts need every kind of escape. -/
def escapes : Report where
  succeeded := false
  results := [⟨-3, "say \"no\"\n\tC:\\\x1b[0m", true, 12, .fault, "naïve: 🙂"⟩]
  diagnostics := ["boom", ""]
  kernel := "python3"

theorem file_tells_escapes :
    escapes.Storable ∧ ∃ t fields, escapes.fileText = .ok t ∧
      Json.read t = .ok (.object fields) ∧ escapes.ToldBy fields := by
  have hlimit : 10 ^ 2 ≤ 10 ^ digitLimit := Nat.pow_le_pow_right (by decide) (by decide)
  have hstorable : escapes.Storable := by
    refine ⟨by decide, fun n hn => ?_⟩
    have hsmall : ∀ n ∈ escapes.numbers, n.natAbs < 10 ^ 2 := by decide
    exact Nat.lt_of_lt_of_le (hsmall n hn) hlimit
  obtain ⟨t, fields, htext, hread, htold, -⟩ := file_tells hstorable
  exact ⟨hstorable, t, fields, htext, hread, htold⟩

end Report

end KernelJob

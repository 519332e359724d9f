import KernelJob.Proofs.Source.Items

/-! # What a notebook accepts

The cells of a notebook have a grammar: every cell is an object with a type, and a cell of code has
a source that is a text or a list of texts. Nothing else is asked of a cell.

* **`Json.Spells`** — what a source spells: a text itself, a list of texts what they make together.
* **`Cell.Reads`**, **`Cell.WellFormed`** — the grammar of cells.
* **`Notebook.Gives`** — the units of a list of cells.
* **`Notebook.parse_cells_exact`** — a notebook of the current form is parsed exactly as its grammar
  says. -/

namespace KernelJob

/-! ## Sources -/

/-- **What a source spells**: a text spells itself, and a list of texts what they make one after the
other. -/
inductive Json.Spells : Json → Text → Prop
  | text (t : Text) : Spells (.text t) t
  | lines (ts : List Text) : Spells (.list (ts.map .text)) ts.flatten

/-- The text of a source is what it spells. -/
theorem Json.sourceText?_eq_some_iff {v : Json} {t : Text} :
    v.sourceText? = some t ↔ v.Spells t := by
  constructor
  · intro h
    cases v with
    | text u =>
      obtain rfl : u = t := Option.some.inj h
      exact .text u
    | list items =>
      obtain ⟨ts, hts, rfl⟩ := Option.map_eq_some_iff.mp h
      rw [Json.texts?_eq_some_iff.mp hts]
      exact .lines ts
    | _ => cases h
  · intro h
    cases h with
    | text => rfl
    | lines ts =>
      rw [sourceText?, Json.texts?_eq_some_iff.mpr rfl]
      rfl

/-! ## Cells -/

namespace Cell

/-- **What a value is as a cell**: a cell of code with what its source spells, or any other cell. -/
inductive Reads : Json → Cell → Prop
  | code {fields : Fields} {source : Json} {t : Text}
      (hastype : fields.get? "cell_type" = some (.text "code"))
      (hassource : fields.get? "source" = some source) (spells : source.Spells t) :
      Reads (.object fields) (.code t)
  | other {fields : Fields} {type : Json} (hastype : fields.get? "cell_type" = some type)
      (notCode : type ≠ .text "code") : Reads (.object fields) .other

/-- **A value that is a cell**: an object with a type, and with a source if the type is code. -/
def WellFormed (v : Json) : Prop :=
  ∃ (fields : Fields) (type : Json), v = .object fields ∧ fields.get? "cell_type" = some type ∧
    (type = .text "code" → ∃ source t, fields.get? "source" = some source ∧ source.Spells t)

/-- What is well-formed can be read. -/
theorem wellFormed_iff (v : Json) : WellFormed v ↔ ∃ cell, Reads v cell := by
  constructor
  · rintro ⟨fields, type, rfl, htype, hsource⟩
    by_cases hcode : type = .text "code"
    · obtain ⟨source, t, hfield, hspells⟩ := hsource hcode
      exact ⟨.code t, .code (hcode ▸ htype) hfield hspells⟩
    · exact ⟨.other, .other htype hcode⟩
  · rintro ⟨cell, hcell⟩
    cases hcell with
    | code htype hfield hspells => exact ⟨_, _, rfl, htype, fun _ => ⟨_, _, hfield, hspells⟩⟩
    | other htype hother => exact ⟨_, _, rfl, htype, fun hcode => absurd hcode hother⟩

/-- The source of a cell of code is read if it spells something. -/
theorem inspectSource_eq_ok_iff {index : Nat} {fields : Fields} {cell : Cell} :
    inspectSource index fields = .ok cell ↔
      ∃ source t, fields.get? "source" = some source ∧ source.Spells t ∧ cell = .code t := by
  unfold inspectSource
  cases hsource : fields.get? "source" with
  | none => simp
  | some source =>
    dsimp only
    cases htext : source.sourceText? with
    | none =>
      refine iff_of_false (fun h => nomatch h) ?_
      rintro ⟨source', t, hsame, hspells, -⟩
      obtain rfl := Option.some.inj hsame
      rw [Json.sourceText?_eq_some_iff.mpr hspells] at htext
      cases htext
    | some t =>
      have hspells := Json.sourceText?_eq_some_iff.mp htext
      constructor
      · intro h
        exact ⟨source, t, rfl, hspells, (Except.ok.inj h).symm⟩
      · rintro ⟨source', t', hsame, hspells', rfl⟩
        obtain rfl := Option.some.inj hsame
        rw [Json.sourceText?_eq_some_iff.mpr hspells'] at htext
        rw [Option.some.inj htext]

/-- **A cell is read exactly as its grammar says**, at any index. -/
theorem inspect_eq_ok_iff (index : Nat) (v : Json) (cell : Cell) :
    inspect index v = .ok cell ↔ Reads v cell := by
  constructor
  · intro h
    cases v with
    | object fields =>
      rw [inspect] at h
      split at h
      · cases h
      · rename_i type htype
        split at h
        · rename_i hcode
          obtain ⟨source, t, hfield, hspells, rfl⟩ := inspectSource_eq_ok_iff.mp h
          rw [Json.isText_iff.mp hcode] at htype
          exact .code htype hfield hspells
        · rename_i hother
          obtain rfl := Except.ok.inj h
          exact .other htype fun hcode => hother (Json.isText_iff.mpr hcode)
    | _ => cases h
  · intro h
    cases h with
    | code htype hfield hspells =>
      rw [inspect, htype]
      exact inspectSource_eq_ok_iff.mpr ⟨_, _, hfield, hspells, rfl⟩
    | other htype hother =>
      rw [inspect, htype]
      exact if_neg fun hcode => hother (Json.isText_iff.mp hcode)

/-- A cell that is not read is named by its index. -/
theorem names_of_inspect_eq_error {index : Nat} {v : Json} {fault : NotebookFault}
    (h : inspect index v = .error fault) : (StructureFault.notebook fault).Names index := by
  have hsource {fields : Fields} (h : inspectSource index fields = .error fault) :
      (StructureFault.notebook fault).Names index := by
    unfold inspectSource at h
    split at h
    · obtain rfl := Except.error.inj h
      exact ⟨"Code cell ", "has no source", by simp, rfl⟩
    · split at h
      · cases h
      · obtain rfl := Except.error.inj h
        exact ⟨"Code cell ", "has a source that is not text", by simp, rfl⟩
  have hobject (h : .cellNotAnObject index = fault) :
      (StructureFault.notebook fault).Names index := by
    obtain rfl := h
    exact ⟨"Cell ", "is not a JSON object", by simp, rfl⟩
  cases v with
  | object fields =>
    rw [inspect] at h
    split at h
    · obtain rfl := Except.error.inj h
      exact ⟨"Cell ", "has no cell type", by simp, rfl⟩
    · split at h
      · exact hsource h
      · cases h
  | _ => exact hobject (Except.error.inj h)

/-- The source of a cell of code. -/
def source? : Cell → Option Text
  | .code t => some t
  | .other => none

end Cell

/-! ## Units -/

namespace Notebook

/-- **The units of cells**: one for each cell of code, in order, numbered by the place of the
cell. -/
def codeUnits (cells : List Cell) : List CodeUnit :=
  cells.zipIdx.filterMap fun (cell, index) => cell.source?.map fun t => ⟨index, t, false⟩

/-- The units of the cells from some index on. -/
theorem unitsFrom_eq (index : Nat) (cells : List Cell) :
    Cell.unitsFrom index cells =
      (cells.zipIdx index).filterMap fun (cell, i) => cell.source?.map fun t => ⟨i, t, false⟩ := by
  induction cells generalizing index with
  | nil => rfl
  | cons cell cells ih =>
    cases cell with
    | code t => simp [Cell.unitsFrom, Cell.source?, ih]
    | other => simp [Cell.unitsFrom, Cell.source?, ih]

/-- Numbers of units are places of cells. -/
theorem mem_unitsFrom {index : Nat} {cells : List Cell} {u : CodeUnit}
    (h : u ∈ Cell.unitsFrom index cells) :
    (index : Int) ≤ u.sequenceNumber ∧ u.sequenceNumber < index + cells.length := by
  induction cells generalizing index with
  | nil => cases h
  | cons cell cells ih =>
    have hrest (h : u ∈ Cell.unitsFrom (index + 1) cells) :
        (index : Int) ≤ u.sequenceNumber ∧
          u.sequenceNumber < index + (cell :: cells).length := by
      have hu := ih h
      push_cast at hu
      rw [List.length_cons]
      omega
    cases cell with
    | code t =>
      rcases List.mem_cons.mp h with rfl | h
      · rw [List.length_cons]
        dsimp only
        omega
      · exact hrest h
    | other => exact hrest h

/-- Later cells have larger numbers. -/
theorem pairwise_unitsFrom (index : Nat) (cells : List Cell) :
    (Cell.unitsFrom index cells).Pairwise fun u v => u.sequenceNumber < v.sequenceNumber := by
  induction cells generalizing index with
  | nil => exact .nil
  | cons cell cells ih =>
    cases cell with
    | code t =>
      refine .cons ?_ (ih (index + 1))
      intro u hu
      have hlow := (mem_unitsFrom hu).1
      push_cast at hlow
      dsimp only
      omega
    | other => exact ih (index + 1)

/-- The sources of the units are those of the cells of code. -/
theorem sources_unitsFrom (index : Nat) (cells : List Cell) :
    (Cell.unitsFrom index cells).map CodeUnit.source = cells.filterMap Cell.source? := by
  induction cells generalizing index with
  | nil => rfl
  | cons cell cells ih =>
    cases cell with
    | code t =>
      rw [Cell.unitsFrom, List.map_cons, ih]
      rfl
    | other => rw [Cell.unitsFrom, ih, List.filterMap_cons_none rfl]

/-- **The units that a list of cells gives.** -/
structure Gives (items : List Json) (units : List CodeUnit) : Prop where
  /-- There is one unit for each cell of code, with the index of the cell and what its source
  spells, and it is not skipped; whatever else is in the cells does not matter, nor whether a source
  is one text or a list. -/
  units_eq : ∃ cells, List.Forall₂ Cell.Reads items cells ∧ units = codeUnits cells ∧
    units.map CodeUnit.source = cells.filterMap Cell.source?
  /-- The numbers of the units increase. -/
  increasing : units.Pairwise fun u v => u.sequenceNumber < v.sequenceNumber
  /-- The numbers of the units are places of cells. -/
  places : ∀ u ∈ units, 0 ≤ u.sequenceNumber ∧ u.sequenceNumber < items.length

/-- What the cells are read as gives their units. -/
theorem gives_of_reads {items : List Json} {cells : List Cell}
    (h : List.Forall₂ Cell.Reads items cells) : Gives items (Cell.unitsFrom 0 cells) where
  units_eq := ⟨cells, h, unitsFrom_eq 0 cells, sources_unitsFrom 0 cells⟩
  increasing := pairwise_unitsFrom 0 cells
  places u hu := by
    obtain ⟨hlow, hhigh⟩ := mem_unitsFrom hu
    rw [h.length_eq]
    omega

/-! ## Parsing -/

/-- **A document of the current form**: it names no version, or one that is at least 4. -/
def IsCurrent (fields : Fields) : Prop :=
  fields.get? "nbformat" = none ∨ ∃ n : Int, fields.get? "nbformat" = some (.int n) ∧ 4 ≤ n

/-- The cells of a document of the current form are those that it lists. -/
theorem cellsOf_of_isCurrent {fields : Fields} (h : IsCurrent fields) :
    cellsOf fields = .ok (fields.get? "cells") := by
  unfold cellsOf
  rcases h with hnone | ⟨n, hn, hcurrent⟩
  · rw [hnone]
    rfl
  · rw [hn]
    exact if_pos hcurrent

/-- **A notebook of the current form is parsed exactly as its grammar says.** It gives units if and
only if it has a list of cells that are well-formed; the units are those of its cells of code; and
if it has a list of cells and is not accepted, the failure names the first cell that is not
well-formed. -/
theorem parse_cells_exact {t : Text} {fields : Fields} (hread : Json.read t = .ok (.object fields))
    (hcurrent : IsCurrent fields) :
    Document.Exact Cell.WellFormed Gives (fields.get? "cells")
      ((Document.ofText .notebook t).map Document.units) := by
  have hparsed : (Document.ofText .notebook t).map Document.units =
      (((ofCells (fields.get? "cells")).mapError (Document.unreadFault .notebook)).map
        Document.notebook).map Document.units := by
    rw [Document.ofText, Document.readNotebook, hread]
    dsimp only
    rw [cellsOf_of_isCurrent hcurrent]
  refine Document.exact_of_readItems .notebook (Cell.unitsFrom 0) Cell.inspect_eq_ok_iff
    Cell.wellFormed_iff (fun _ _ _ => Cell.names_of_inspect_eq_error) (fun _ _ => gives_of_reads)
    ?_ ?_
  · intro items hitems
    rw [hparsed, hitems, ofCells, Cell.readFrom_eq, readItems_mapError Cell.read_eq]
    cases readItems Cell.inspect 0 items with
    | error fault => rfl
    | ok cells => rfl
  · intro hunlisted
    have hcells : ofCells (fields.get? "cells") = .error (.lacking .noCells) := by
      unfold ofCells
      split
      · rename_i items hitems
        exact absurd hitems (hunlisted items)
      · rfl
    rw [hparsed, hcells]
    exact ⟨_, rfl⟩

/-- A notebook with a cell of text, and a cell of code whose source is a list. -/
def mixed : Text :=
  "\x7b\"cells\": [\x7b\"cell_type\": \"markdown\"\x7d, " ++
    "\x7b\"cell_type\": \"code\", \"source\": [\"a\\n\", \"b\"]\x7d]\x7d"

/-- What that notebook holds. -/
def mixedFields : Fields :=
  [("cells", .list [.object [("cell_type", .text "markdown")],
    .object [("cell_type", .text "code"), ("source", .list [.text "a\n", .text "b"])]])]

theorem parse_cells_exact_mixed :
    Json.read mixed = .ok (.object mixedFields) ∧ IsCurrent mixedFields ∧
    Document.Exact Cell.WellFormed Gives (mixedFields.get? "cells")
      ((Document.ofText .notebook mixed).map Document.units) ∧
    (Document.ofText .notebook mixed).map Document.units = .ok [⟨1, "a\nb", false⟩] := by
  have hread : Json.read mixed = .ok (.object mixedFields) := by cbv
  have hcurrent : IsCurrent mixedFields := .inl rfl
  refine ⟨hread, hcurrent, parse_cells_exact hread hcurrent, ?_⟩
  rw [Document.ofText, Document.readNotebook, hread]
  rfl

end Notebook

end KernelJob

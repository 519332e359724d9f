import KernelJob.Proofs.Artifact.Apart
import KernelJob.Proofs.Output.Collected

/-! # Output that is saved

An output in several types is saved as a file if there is a place for artifacts, and a line names
the file. If it cannot be saved, its plain text is shown instead: that the directories cannot be
made, that the data are broken, or that the file cannot be written does no harm. A payload of the
preferred type that is neither a text nor a list of texts is another matter, for there is no way to
save it.

* **`Archive.Unfit`** — such a payload comes up; `Archive.result_misfit_iff` — these are the outputs
  with which a store breaks down.
* **`Message.Rich`** — a message with an output in several types, of which one is plain text.
* **`Session.Harmless`** — taking it into account shows the name of the file that was saved or the
  plain text, and nothing fails but the receiver.
* **`Session.harmless_iff`** — this is so if and only if no unfit payload comes up. -/

namespace KernelJob

/-- The store in use and the files among which it saves. -/
def World.archive? (w : World) : Option Archive := w.handle.artifacts.map fun s => ⟨s, w.files⟩

/-- The world with another store and files, and with more log records. -/
def World.archived (w : World) (a : Archive) (records : List LogRecord) : World :=
  { w with
    files := a.files
    handle := { w.handle with artifacts := some a.store }
    trace := w.trace ++ records.map .record }

/-- Log records are no lines. -/
@[simp] theorem World.lines_archived (w : World) (a : Archive) (records : List LogRecord) :
    (w.archived a records).lines = w.lines := by
  rw [World.lines, World.lines, archived, List.filterMap_append, List.filterMap_map]
  simp [Function.comp_def, Event.line?]

namespace Archive

open ArtifactStore

variable {a : Archive} {data : Fields}

/-- **An unfit payload** comes up: the preferred type of some data comes with a value that is
neither a text nor a list of texts. A value other than a list shows as unfit only when the
directories have been made. -/
def Unfit (a : Archive) (data : Fields) : Prop :=
  ∃ type v, preferred (.object data) artifactTypes = .ok (some (type, v)) ∧ v.isSource = false ∧
    ((∃ items, v = .list items) ∨ (a.files.makeDirectories a.store.directory).2 = .ok ())

/-- The directory of a store is the one above its files. -/
theorem parent_nextPath {type : ArtifactType} (h : type ∈ artifactTypes) (a : Archive)
    (unit : Int) : (a.nextPath unit type).parent = a.store.directory :=
  Path.parent_child (isPlain_artifactName unit _ h) _

/-- What a call gives that offers something is a misfit if the attempt to write is. -/
theorem result_misfit_iff_of_offer {c : SaveCall} {type : ArtifactType} {payload : Json}
    (h : offer? c.data = some (type, payload)) :
    (∃ m, a.result c = .error (.misfit m)) ↔
      ∃ m, (writeAt a.files (a.nextPath c.unit type) type payload).2 = .error (.misfit m) := by
  rw [(save_of_offer a h).1]
  cases (writeAt a.files (a.nextPath c.unit type) type payload).2 with
  | error fault => simp [Except.map]
  | ok _ => simp [Except.map]

/-- **A store breaks down** at an unfit payload and nowhere else. -/
theorem result_misfit_iff (unit : Int) :
    (∃ m, a.result ⟨unit, .object data⟩ = .error (.misfit m)) ↔ a.Unfit data := by
  cases hpreferred : preferred (.object data) artifactTypes with
  | error m =>
    rw [preferred_object] at hpreferred
    exact nomatch hpreferred
  | ok found =>
    rcases found with _ | ⟨type, v⟩
    · -- nothing is offered
      have hnone : a.result ⟨unit, .object data⟩ = .ok none := by
        unfold result ArtifactStore.save
        rw [hpreferred]
      rw [hnone, Unfit, hpreferred]
      simp
    have hunfit : a.Unfit data ↔ v.isSource = false ∧ ((∃ items, v = .list items) ∨
        (a.files.makeDirectories a.store.directory).2 = .ok ()) := by
      rw [Unfit, hpreferred]
      constructor
      · rintro ⟨type', v', hfound, hv⟩
        obtain ⟨rfl, rfl⟩ := Prod.mk.inj (Option.some.inj (Except.ok.inj hfound))
        exact hv
      · exact fun hv => ⟨type, v, rfl, hv⟩
    rw [hunfit]
    have htype := mem_of_preferred hpreferred
    have hoffer : ∀ payload, v.joined = .ok payload →
        offer? (.object data) = some (type, payload) :=
      fun payload hjoined => offer?_eq_some_iff.mpr ⟨v, hpreferred, hjoined⟩
    cases hsource : v.isSource with
    | true =>
      rw [Json.isSource_eq, Option.isSome_iff_exists] at hsource
      obtain ⟨t, ht⟩ := hsource
      rw [result_misfit_iff_of_offer (hoffer _ (Json.joined_of_sourceText? ht))]
      refine iff_of_false ?_ fun h => nomatch h.1
      rintro ⟨m, hm⟩
      exact writeAt_text_ne_misfit t m hm
    | false =>
      by_cases hlist : ∃ items, v = .list items
      · obtain ⟨items, rfl⟩ := hlist
        obtain ⟨m, hm⟩ := Json.joined_of_not_isSource hsource
        refine iff_of_true ⟨m, ?_⟩ ⟨rfl, .inl ⟨items, rfl⟩⟩
        unfold result ArtifactStore.save
        rw [hpreferred]
        dsimp only
        rw [saveAs, hm]
        rfl
      · have hjoined : v.joined = .ok v := by
          cases v with
          | list items => exact absurd ⟨items, rfl⟩ hlist
          | _ => rfl
        have htextual : v.isTextual = false := by
          cases v with
          | text t => exact nomatch hsource
          | _ => rfl
        rw [result_misfit_iff_of_offer (hoffer _ hjoined), writeAt_misfit_iff htextual,
          parent_nextPath htype]
        simp [hlist]

end Archive

/-- **A message with an output in several types**, which is about a request. One type is plain
text. -/
structure Message.Rich (request : Text) (m : Message) (data : Fields) (plain : Text) : Prop where
  about : m.isAbout request = true
  type : m.type = "execute_result" ∨ m.type = "display_data"
  offered : m.content.get? "data" = some (.object data)
  plain : data.get? "text/plain" = some (.text plain)

namespace Session

open KernelJob.Action

variable {x : Execution} {w : World} {c : Captured} {a : Archive}

/-- The line that names a file. -/
def savedLine (path : Path) : Text := "[saved " ++ path.name ++ "]"

/-- **What is shown of an output** when the attempt to save it has ended: the file that was saved,
or else the plain text unless it is empty. -/
def shownOf (result : Except SaveFault (Option Path)) (plain : Text) : List OutputStep :=
  match savedPath? result with
  | some path => [.block (savedLine path)]
  | none => if plain = [] then [] else [.block plain]

/-! ## The attempt to save -/

/-- **The attempt to save an output** changes the store, the files and the log. A misfit ends the
execution, any other failure does not. -/
theorem saveArtifact_apply (hstore : w.archive? = some a) (data : Json) :
    ∃ records, saveArtifact x data w =
      (match a.result ⟨x.unit, data⟩ with
        | .error (.misfit m) => .error (.save (.misfit m))
        | result => .ok ((savedPath? result).map Path.name),
        w.archived (a.save ⟨x.unit, data⟩) records) := by
  obtain ⟨store, hartifacts, rfl⟩ := Option.map_eq_some_iff.mp hstore
  have hresult : ∀ result, (store.save w.files x.unit data).2.2 = result →
      Archive.result ⟨store, w.files⟩ ⟨x.unit, data⟩ = result := fun _ h => h
  have hquiet : { w with
      files := (store.save w.files x.unit data).2.1
      handle := { w.handle with artifacts := some (store.save w.files x.unit data).1 } } =
        w.archived (Archive.save ⟨store, w.files⟩ ⟨x.unit, data⟩) [] := by
    simp [World.archived, Archive.save]
  unfold saveArtifact
  rw [bind_apply, world_apply]
  dsimp only
  rw [hartifacts]
  dsimp only
  rw [bind_apply, change_apply]
  dsimp only
  cases hsave : (store.save w.files x.unit data).2.2 with
  | ok saved =>
    rw [hresult _ hsave]
    cases saved with
    | none => exact ⟨[], by rw [← hquiet]; rfl⟩
    | some path => exact ⟨[_], rfl⟩
  | error fault =>
    rw [hresult _ hsave]
    cases fault with
    | misfit m => exact ⟨[], by rw [← hquiet]; rfl⟩
    | _ => exact ⟨[_], rfl⟩

/-! ## Receivers -/

/-- Collecting fails only after a line has been given to the receiver. -/
theorem collect_fails_late (x : Execution) (step : OutputStep) (c : Captured) (w : World) :
    (collect x step c).Ensures w (fun _ _ => True) (fun _ w' => w'.lines ≠ w.lines) := by
  have hstart : w.lines = w.lines ++ [] := (List.append_nil _).symm
  unfold collect
  refine (ensures_emitAll_lines (P := fun ls v => v.lines = w.lines ++ ls) ?_ ?_ hstart _).bind
    fun _ _ _ => trivial
  · intro ls v line hv
    rw [World.lines_emitted, hv, List.append_assoc]
  · intro ls v _ line _ hv _ hsame
    rw [hv] at hsame
    simp at hsame

/-- A receiver that never fails lets all steps be collected. -/
theorem collectAll_completes (hs : x.sink.NeverFails) (steps : List OutputStep) (c : Captured)
    (w : World) : ∃ d w', collectAll x steps c w = (.ok d, w') := by
  induction steps generalizing c w with
  | nil => exact ⟨c, w, rfl⟩
  | cons step steps ih =>
    have hstep : (collect x step c).Ensures w (fun _ _ => True) (fun _ _ => False) := by
      unfold collect
      have hemit : (emitAll x.sink ((c.collector.step step).since c.collector)).Ensures w
          (fun _ _ => True) (fun _ _ => True ∧ ¬ x.sink.NeverFails) :=
        ensures_emitAll (fun _ _ _ => trivial) _ trivial
      exact (hemit.of_neverFails hs).bind fun _ _ _ => trivial
    unfold collectAll
    rw [bind_apply]
    unfold Ensures at hstep
    rcases hend : collect x step c w with ⟨e | d, w'⟩
    · rw [hend] at hstep
      exact hstep.elim
    · exact ih d w'

/-! ## What becomes of an output -/

/-- **An output that does no harm.** Taking it into account is an attempt to save it, and then the
name of the file or its plain text is shown. -/
structure Harmless (x : Execution) (message : Json) (data : Fields) (plain : Text) (c : Captured)
    (w : World) (a : Archive) : Prop where
  /-- What is done is collecting what is shown. -/
  handled : ∃ records, handleMessage x message c w =
    (Progressed.more <$> collectAll x (shownOf (a.result ⟨x.unit, .object data⟩) plain) c)
      (w.archived (a.save ⟨x.unit, .object data⟩) records)
  /-- Nothing fails but a receiver of lines. -/
  completes : x.sink.NeverFails → ∃ d w', handleMessage x message c w = (.ok (.more d), w')
  /-- If a file is named, it is the only one that was saved, it holds what the output offered, and
  its name makes a single line. -/
  saved : ∀ path, a.result ⟨x.unit, .object data⟩ = .ok (some path) →
    (a.save ⟨x.unit, .object data⟩).store.saved = a.store.saved ++ [path] ∧
    (∃ type payload bytes, ArtifactStore.offer? (.object data) = some (type, payload) ∧
      ArtifactStore.content type payload = .ok (.ok bytes) ∧
        (a.save ⟨x.unit, .object data⟩).files.read path = .ok bytes) ∧
    Text.lines (savedLine path) = [savedLine path]
  /-- Otherwise nothing was saved. -/
  unsaved : savedPath? (a.result ⟨x.unit, .object data⟩) = none →
    (a.save ⟨x.unit, .object data⟩).store.saved = a.store.saved

/-- The name of a file that was saved makes a single line. -/
theorem lines_savedLine {call : SaveCall} {path : Path} (h : a.result call = .ok (some path)) :
    Text.lines (savedLine path) = [savedLine path] := by
  obtain ⟨type, payload, bytes, hoffer, rfl, -⟩ := Archive.saves a h
  have htype := ArtifactStore.mem_of_offer? hoffer
  have hname : (a.nextPath call.unit type).name =
      ArtifactStore.artifactName call.unit (a.store.count call.unit + 1) type.suffix :=
    Path.name_child (ArtifactStore.isPlain_artifactName _ _ htype) _
  have hunbroken : (savedLine (a.nextPath call.unit type)).Unbroken := by
    have hwords : Text.Unbroken "[saved " ∧ Text.Unbroken "]" := by decide
    rw [savedLine, hname]
    intro c hc
    rcases List.mem_append.mp hc with hc | hc
    · rcases List.mem_append.mp hc with hc | hc
      · exact hwords.1 c hc
      · exact ArtifactStore.unbroken_artifactName _ _ htype c hc
    · exact hwords.2 c hc
  have hne : savedLine (a.nextPath call.unit type) ≠ [] :=
    List.append_ne_nil_of_right_ne_nil _ (by decide)
  rw [Text.lines_of_unbroken hunbroken, if_neg hne]

section

variable {v : Json} {m : Message} {data : Fields} {plain : Text}

/-- A message with an output in several types is taken into account as such. -/
theorem handleMessage_rich (hv : Message.ofJson? v = some m) (hm : m.Rich x.request data plain)
    (c : Captured) :
    handleMessage x v c = Progressed.more <$> collectRich x (.object m.content) c := by
  rw [handleMessage_of_ofJson? hv, if_pos hm.about, handleOwn_rich hm.type]

/-- **With a misfit** the execution ends, and no line has been given to the receiver. -/
theorem handleMessage_of_misfit (hstore : w.archive? = some a)
    (hv : Message.ofJson? v = some m) (hm : m.Rich x.request data plain) {misfit : Misfit}
    (h : a.result ⟨x.unit, .object data⟩ = .error (.misfit misfit)) (c : Captured) :
    ∃ records, handleMessage x v c w = (.error (.save (.misfit misfit)),
      w.archived (a.save ⟨x.unit, .object data⟩) records) := by
  have hdata : (m.content.get? "data").getD (.object []) = .object data := by rw [hm.offered]; rfl
  obtain ⟨records, hsave⟩ := saveArtifact_apply (x := x) hstore (.object data)
  rw [h] at hsave
  refine ⟨records, ?_⟩
  rw [handleMessage_rich hv hm, map_apply, collectRich_apply hdata, hsave]
  rfl

/-- **With any other result** of the attempt to save it, the output is shown. -/
theorem handleMessage_of_fit (hstore : w.archive? = some a)
    (hv : Message.ofJson? v = some m) (hm : m.Rich x.request data plain)
    (h : ∀ misfit, a.result ⟨x.unit, .object data⟩ ≠ .error (.misfit misfit)) (c : Captured) :
    ∃ records, handleMessage x v c w =
      (Progressed.more <$> collectAll x (shownOf (a.result ⟨x.unit, .object data⟩) plain) c)
        (w.archived (a.save ⟨x.unit, .object data⟩) records) := by
  have hdata : (m.content.get? "data").getD (.object []) = .object data := by rw [hm.offered]; rfl
  have hplain : collectPlain x (.object data) c =
      collectAll x (if plain = [] then [] else [.block plain]) c := by
    rw [collectPlain_of_get? hm.plain rfl]
    cases plain <;> rfl
  obtain ⟨records, hsave⟩ := saveArtifact_apply (x := x) hstore (.object data)
  refine ⟨records, ?_⟩
  have hrich : collectRich x (.object m.content) c w =
      collectAll x (shownOf (a.result ⟨x.unit, .object data⟩) plain) c
        (w.archived (a.save ⟨x.unit, .object data⟩) records) := by
    rw [collectRich_apply hdata, hsave]
    rcases hresult : a.result ⟨x.unit, .object data⟩ with fault | path
    · cases fault with
      | misfit misfit => exact absurd hresult (h misfit)
      | _ => exact congrFun hplain _
    · cases path with
      | none => exact congrFun hplain _
      | some path =>
        show collect x (.block (savedLine path)) c _ = collectAll x [.block (savedLine path)] c _
        rw [collectAll_singleton]
  rw [handleMessage_rich hv hm, map_apply, map_apply, hrich]

/-- The plain text of an output is not collected with a failure that leaves no line behind. -/
theorem collectAll_plain_ne (c : Captured) (v : World) {e : Failure} {v' : World}
    (hlines : v'.lines = v.lines) :
    (Progressed.more <$> collectAll x (if plain = [] then [] else [.block plain]) c) v ≠
      (.error e, v') := by
  intro h
  by_cases hplain : plain = []
  · rw [if_pos hplain] at h
    exact nomatch h
  · rw [if_neg hplain, collectAll_singleton, map_apply] at h
    have hlate := collect_fails_late x (.block plain) c v
    unfold Ensures at hlate
    rcases hend : collect x (.block plain) c v with ⟨f | d, u⟩
    · rw [hend] at h hlate
      obtain ⟨-, rfl⟩ := Prod.mk.inj h
      exact hlate hlines
    · rw [hend] at h
      exact nomatch h

/-- **An output does no harm** if and only if no unfit payload comes up. This is so for all files
and for all values under the types that are saved. -/
theorem harmless_iff (hstore : w.archive? = some a) (hv : Message.ofJson? v = some m)
    (hm : m.Rich x.request data plain) (c : Captured) :
    Harmless x v data plain c w a ↔ ¬ a.Unfit data := by
  rw [← Archive.result_misfit_iff x.unit]
  constructor
  · rintro h ⟨misfit, hmisfit⟩
    obtain ⟨records, hends⟩ := handleMessage_of_misfit hstore hv hm hmisfit c
    obtain ⟨records', hshown⟩ := h.handled
    rw [hends, hmisfit] at hshown
    refine collectAll_plain_ne c _ ?_ hshown.symm
    rw [World.lines_archived, World.lines_archived]
  · intro hfit
    have hhandled := handleMessage_of_fit hstore hv hm (fun m hm => hfit ⟨m, hm⟩) c
    refine ⟨hhandled, fun hs => ?_, fun path hpath => ?_, fun hnone => ?_⟩
    · obtain ⟨records, hhandled⟩ := hhandled
      obtain ⟨d, w', hcollect⟩ := collectAll_completes hs
        (shownOf (a.result ⟨x.unit, .object data⟩) plain) c
        (w.archived (a.save ⟨x.unit, .object data⟩) records)
      refine ⟨d, w', hhandled.trans ?_⟩
      rw [map_apply, hcollect]
      rfl
    · obtain ⟨type, payload, bytes, hoffer, -, hcontent, hread⟩ := Archive.saves a hpath
      refine ⟨?_, ⟨type, payload, bytes, hoffer, hcontent, hread⟩, lines_savedLine hpath⟩
      rw [Archive.saved_save, hpath]
      rfl
    · rw [Archive.saved_save, hnone]
      exact List.append_nil _

end

/-- The data of a figure with some picture. -/
def figure (picture : Json) : Fields :=
  [("image/png", picture), ("text/plain", .text "<Figure>")]

/-- A message that brings them. -/
def display (picture : Json) : Json :=
  .object [("header", .object [("msg_type", .text "display_data")]),
    ("parent_header", .object [("msg_id", .text "msg-1")]),
    ("content", .object [("data", .object (figure picture))])]

/-- An empty album. -/
def album : Archive := ⟨.new (.ofText "/out") "t", {}⟩

/-- A connection that saves to it. -/
def gallery : World := { quiet with handle := { quiet.handle with artifacts := some album.store } }

/-- A picture that is no base 64 does no harm: the plain text of the figure is shown. -/
theorem harmless_brokenPicture :
    Harmless noting (display (.text "A")) (figure (.text "A")) "<Figure>"
      { collector := { limit := 10 } } gallery album ∧
    shownOf (album.result ⟨noting.unit, .object (figure (.text "A"))⟩) "<Figure>" =
      [.block "<Figure>"] := by
  have hrich : Message.Rich noting.request
      ⟨"display_data", [("msg_id", .text "msg-1")], [("data", .object (figure (.text "A")))]⟩
      (figure (.text "A")) "<Figure>" := ⟨rfl, .inr rfl, rfl, rfl⟩
  refine ⟨(harmless_iff rfl rfl hrich _).mpr ?_, rfl⟩
  rintro ⟨type, v, hpreferred, hsource, -⟩
  obtain ⟨-, rfl⟩ := Prod.mk.inj (Option.some.inj (Except.ok.inj hpreferred))
  exact nomatch hsource

/-- A number for a picture does harm: the execution ends with it. -/
theorem not_harmless_numberForPicture :
    ¬ Harmless noting (display (.int 5)) (figure (.int 5)) "<Figure>"
      { collector := { limit := 10 } } gallery album := by
  intro h
  obtain ⟨d, w', hcompletes⟩ := h.completes fun _ _ => rfl
  have hfails : (handleMessage noting (display (.int 5)) { collector := { limit := 10 } }
      gallery).1 = .error (.save (.misfit (.notDecodable "int"))) := by rfl
  rw [hcompletes] at hfails
  exact nomatch hfails

end Session

end KernelJob

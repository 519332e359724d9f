import KernelJob.Proofs.Agree
import KernelJob.Proofs.Json.Access
import KernelJob.Proofs.Session.Message

/-! # What is captured of a message

Taking a message into account is collecting the steps of output that it brings and noting the error
that it reports. This is an equation between actions, so it holds whatever the receiver of lines
does with them.

* **`Session.collectAll`** — output collected step by step.
* **`Message.steps`** — the steps of output that a message asks for.
* **`Session.collectRich_apply`** — an output in several types is saved, or else its plain text is
  collected.
* **`Session.handleMessage_of_ofJson?`** — messages about other requests are passed over.
* **`Session.handleMessage_capture`** — where no artifacts are saved, taking a message into account
  is collecting its steps. -/

namespace KernelJob

namespace Message

/-- **The steps of output that a message asks for**: one that says that the kernel is idle ends the
open line. -/
def steps (m : Message) : List OutputStep :=
  m.output?.getD [] ++ if m.isIdle then [.flush] else []

/-- The steps of a message that does not say that the kernel is idle are those of its output. -/
theorem steps_of_not_isIdle {m : Message} (h : m.isIdle = false) : m.steps = m.output?.getD [] := by
  rw [steps, h]
  exact List.append_nil _

/-- The message that the kernel is idle again ends the open line, and asks for nothing else. -/
theorem steps_of_isIdle {m : Message} (h : m.isIdle = true) : m.steps = [.flush] := by
  rw [steps, (of_isIdle h).1, h]
  rfl

/-- The parts of a value are found where a message is taken into account. -/
theorem fields_of_ofJson? {v : Json} {m : Message} (h : ofJson? v = some m) :
    (∀ request, Session.isAbout request v = .ok (m.isAbout request)) ∧
    (∃ header, v.field "header" = .ok header ∧ header.field "msg_type" = .ok (.text m.type)) ∧
    v.fieldOr "content" (.object []) = .ok (.object m.content) := by
  unfold ofJson? at h
  split at h
  · rename_i fields
    split at h
    · rename_i header parent content hheader hparent hcontent
      split at h
      · rename_i type htype
        obtain rfl : ⟨type, parent, content⟩ = m := Option.some.inj h
        refine ⟨fun request => ?_, ⟨.object header, ?_, ?_⟩, ?_⟩
        · simp only [Session.isAbout, Json.fieldOr, hparent]
          rfl
        · simp only [Json.field, hheader]
        · simp only [Json.field, htype]
        · simp only [Json.fieldOr, hcontent]
      · cases h
    · cases h
  · cases h

end Message

namespace Session

open KernelJob.Action

/-- **Output collected step by step**; the lines that are kept go to the receiver at once. -/
def collectAll (x : Execution) : List OutputStep → Captured → Action Captured
  | [], c => return c
  | step :: steps, c => do
    let c ← collect x step c
    collectAll x steps c

variable {x : Execution} {w : World} {c : Captured}

/-- A single step. -/
theorem collectAll_singleton (x : Execution) (step : OutputStep) (c : Captured) :
    collectAll x [step] c = collect x step c := bind_pure _

/-! ## Messages and their types -/

/-- **Messages about other requests are passed over**; of the others the type and the content are
looked at. -/
theorem handleMessage_of_ofJson? {v : Json} {m : Message} (hv : Message.ofJson? v = some m)
    (c : Captured) :
    handleMessage x v c =
      if m.isAbout x.request then handleOwn x (.text m.type) (.object m.content) c
      else return .more c := by
  obtain ⟨habout, ⟨header, hheader, htype⟩, hcontent⟩ := Message.fields_of_ofJson? hv
  unfold handleMessage
  rw [habout]
  show (if m.isAbout x.request then _ else _) = _
  split
  · rw [hheader]
    show ofExcept ((header.field "msg_type").mapError Failure.misfit) >>= _ = _
    rw [htype]
    show ofExcept ((v.fieldOr "content" (.object [])).mapError Failure.misfit) >>= _ = _
    rw [hcontent]
    rfl
  · rfl

/-- Streamed text is collected as such. -/
theorem handleOwn_stream {m : Message} {t : Text} (htype : m.type = "stream")
    (ht : (m.content.get? "text").getD (.text []) = .text t) :
    handleOwn x (.text m.type) (.object m.content) c =
      Progressed.more <$> collect x (.text t) c := by
  unfold handleOwn
  rw [if_pos (by rw [htype]; decide), Json.fieldOr, ht]
  rfl

/-- An output in several types is saved or its plain text is collected. -/
theorem handleOwn_rich {m : Message} (hrich : m.type = "execute_result" ∨ m.type = "display_data") :
    handleOwn x (.text m.type) (.object m.content) c =
      Progressed.more <$> collectRich x (.object m.content) c := by
  unfold handleOwn
  rw [if_neg, if_pos]
  · rfl
  · rcases hrich with h | h <;> rw [h] <;> decide
  · rcases hrich with h | h <;> rw [h] <;> decide

/-- An error is noted, and its traceback is collected. -/
theorem handleOwn_error {m : Message} {fault : CodeFault} {items : List Json}
    (hfault : m.fault? = some fault)
    (hitems : (m.content.get? "traceback").getD (.list []) = .list items) :
    handleOwn x (.text m.type) (.object m.content) c =
      Progressed.more <$> collectTraceback x items { c with fault := some fault } := by
  have htype : m.type = "error" := by
    by_contra hne
    rw [Message.fault?_of_ne hne] at hfault
    cases hfault
  rw [Message.fault?, if_pos htype, hitems] at hfault
  obtain rfl := Option.some.inj hfault
  have hread : faultOf (.object m.content) =
      .ok ⟨(m.content.get? "ename").getD (.text "Error"),
        (m.content.get? "evalue").getD (.text []), .list items⟩ := by
    rw [← hitems]
    rfl
  unfold handleOwn
  rw [if_neg (by rw [htype]; decide), if_neg (by rw [htype]; decide),
    if_pos (by rw [htype]; decide), hread]
  rfl

/-- A state of the kernel ends the wait if the kernel is idle again. -/
theorem handleOwn_status {m : Message} (htype : m.type = "status") :
    handleOwn x (.text m.type) (.object m.content) c =
      if m.isIdle then Progressed.idle <$> collect x .flush c else return .more c := by
  have hidle : m.isIdle = ((m.content.get? "execution_state").getD .null).isText "idle" := by
    rw [Message.isIdle, decide_eq_true htype, Bool.true_and]
  unfold handleOwn
  rw [if_neg (by rw [htype]; decide), if_neg (by rw [htype]; decide),
    if_neg (by rw [htype]; decide), if_pos (by rw [htype]; decide), Json.fieldOr, hidle]
  rfl

/-- A message of any other type changes nothing. -/
theorem handleOwn_other {m : Message} (hstream : m.type ≠ "stream")
    (hrich : ¬ (m.type = "execute_result" ∨ m.type = "display_data")) (herror : m.type ≠ "error")
    (hstatus : m.type ≠ "status") :
    handleOwn x (.text m.type) (.object m.content) c = return .more c := by
  unfold handleOwn
  simp only [Bool.or_eq_true, Json.isText_text]
  rw [if_neg hstream, if_neg hrich, if_neg herror, if_neg hstatus]

/-! ## Output -/

/-- The lines of a traceback are collected block by block. -/
theorem collectTraceback_of_texts? {items : List Json} {ts : List Text}
    (h : Json.texts? items = some ts) (c : Captured) :
    collectTraceback x items c = collectAll x (ts.map fun t => .block t.stripColours) c := by
  induction items generalizing ts c with
  | nil =>
    obtain rfl : [] = ts := Option.some.inj h
    rfl
  | cons v vs ih =>
    cases v with
    | text t =>
      obtain ⟨us, hus, rfl⟩ := Option.map_eq_some_iff.mp h
      rw [collectTraceback, List.map_cons, collectAll]
      congr 1
      funext c
      exact ih hus c
    | _ => cases h

/-- The plain text of an output is a block, unless it is empty. -/
theorem collectPlain_of_get? {data : Fields} {v : Json} {t : Text}
    (hv : data.get? "text/plain" = some v) (ht : v.sourceText? = some t) (c : Captured) :
    collectPlain x (.object data) c = collectAll x (if v.isPresent then [.block t] else []) c := by
  unfold collectPlain
  rw [Json.fieldOr, hv, Option.getD_some]
  show (if v.isPresent then _ else _) = _
  split
  · rw [Json.joined_of_sourceText? ht, collectAll_singleton]
    rfl
  · rfl

/-- Without plain text an output brings nothing. -/
theorem collectPlain_of_get?_eq_none {data : Fields} (h : data.get? "text/plain" = none)
    (c : Captured) : collectPlain x (.object data) c = return c := by
  unfold collectPlain
  rw [Json.fieldOr, h]
  rfl

/-- Without a place for artifacts nothing is saved. -/
theorem saveArtifact_of_unsaved (h : w.handle.artifacts = none) (data : Json) :
    saveArtifact x data w = (.ok none, w) := by
  unfold saveArtifact
  rw [bind_apply, world_apply]
  dsimp only
  rw [h]
  rfl

/-- What is done with an output after the attempt to save it. -/
def afterSave (x : Execution) (data : Json) (c : Captured) :
    Except Failure (Option Text) × World → Except Failure Captured × World
  | (.ok (some name), w) => collect x (.block ("[saved " ++ name ++ "]")) c w
  | (.ok none, w) => collectPlain x data c w
  | (.error e, w) => (.error e, w)

/-- The data of an output are saved, or else their plain text is collected. -/
theorem collectRich_apply {content data : Fields}
    (hdata : (content.get? "data").getD (.object []) = .object data) (c : Captured) (w : World) :
    collectRich x (.object content) c w =
      afterSave x (.object data) c (saveArtifact x (.object data) w) := by
  unfold collectRich
  rw [Json.fieldOr, hdata, Except.mapError, ofExcept_ok_bind, bind_apply]
  rcases saveArtifact x (.object data) w with ⟨e | saved, w'⟩
  · rfl
  · cases saved <;> rfl

/-- Where no artifacts are saved, an output in several types brings its plain text. -/
theorem collectRich_of_unsaved {m : Message} {steps : List OutputStep}
    (hunsaved : w.handle.artifacts = none)
    (hrich : m.type = "execute_result" ∨ m.type = "display_data")
    (hsteps : m.output? = some steps) (c : Captured) :
    collectRich x (.object m.content) c w = collectAll x steps c w := by
  have hstream : m.type ≠ "stream" := by
    rcases hrich with h | h <;> rw [h] <;> decide
  rw [Message.output?, if_neg hstream, if_pos hrich] at hsteps
  split at hsteps
  · rename_i data hdata
    rw [collectRich_apply hdata, saveArtifact_of_unsaved hunsaved, afterSave]
    split at hsteps
    · rename_i hplain
      obtain rfl : [] = steps := Option.some.inj hsteps
      rw [collectPlain_of_get?_eq_none hplain]
      rfl
    · rename_i v hplain
      obtain ⟨t, ht, rfl⟩ := Option.map_eq_some_iff.mp hsteps
      rw [collectPlain_of_get? hplain ht]
  · cases hsteps

/-! ## Messages -/

/-- A captured message leaves the wait to go on, unless it says that the kernel is idle. -/
def progressed (idle : Bool) (c : Captured) : Progressed := if idle then .idle c else .more c

/-- **A message about the request** has its steps collected and its error noted. -/
theorem handleOwn_capture {m : Message} (hunsaved : w.handle.artifacts = none)
    (hm : m.output?.isSome = true) (c : Captured) :
    handleOwn x (.text m.type) (.object m.content) c w =
      (progressed m.isIdle <$>
        collectAll x m.steps { c with fault := m.fault?.or c.fault }) w := by
  obtain ⟨steps, hsteps⟩ := Option.isSome_iff_exists.mp hm
  by_cases hstatus : m.type = "status"
  · have hfault : m.fault? = none := Message.fault?_of_ne (by rw [hstatus]; decide)
    rw [handleOwn_status hstatus, hfault, Option.none_or]
    cases hidle : m.isIdle with
    | true =>
      rw [Message.steps_of_isIdle hidle, collectAll_singleton]
      rfl
    | false =>
      have houtput : m.output? = some [] := by
        refine Message.output?_of_ne ?_ ?_ ?_ <;> rw [hstatus] <;> decide
      rw [Message.steps_of_not_isIdle hidle, houtput]
      rfl
  -- no other message ends the wait
  have hidle : m.isIdle = false := Message.isIdle_of_ne hstatus
  have hmore : m.steps = steps := by rw [Message.steps_of_not_isIdle hidle, hsteps]; rfl
  rw [hidle, hmore]
  by_cases herror : m.type = "error"
  · have hout := hsteps
    rw [Message.output?, if_neg (by rw [herror]; decide), if_neg (by rw [herror]; decide),
      if_pos herror] at hout
    split at hout
    · rename_i items htraceback
      obtain ⟨ts, hts, rfl⟩ := Option.map_eq_some_iff.mp hout
      obtain ⟨fault, hfault⟩ : ∃ fault, m.fault? = some fault := by
        rw [Message.fault?, if_pos herror]
        exact ⟨_, rfl⟩
      rw [handleOwn_error hfault htraceback, collectTraceback_of_texts? hts, hfault]
      rfl
    · cases hout
  rw [Message.fault?_of_ne herror, Option.none_or]
  by_cases hstream : m.type = "stream"
  · have hout := hsteps
    rw [Message.output?, if_pos hstream] at hout
    split at hout
    · rename_i t ht
      obtain rfl : [.text t] = steps := Option.some.inj hout
      rw [handleOwn_stream hstream ht, collectAll_singleton]
      rfl
    · cases hout
  by_cases hrich : m.type = "execute_result" ∨ m.type = "display_data"
  · rw [handleOwn_rich hrich, map_apply, map_apply, collectRich_of_unsaved hunsaved hrich hsteps]
    exact rfl
  · have hnone := Message.output?_of_ne hstream hrich herror
    obtain rfl : [] = steps := Option.some.inj (hnone.symm.trans hsteps)
    rw [handleOwn_other hstream hrich herror hstatus]
    rfl

/-- **A message is captured**: where no artifacts are saved, its steps are collected and its error
is noted if it is about the request, and nothing is done otherwise. -/
theorem handleMessage_capture {v : Json} {m : Message} (hunsaved : w.handle.artifacts = none)
    (hv : Message.ofJson? v = some m) (hm : m.output?.isSome = true) (c : Captured) :
    handleMessage x v c w =
      (if m.isAbout x.request then
        progressed m.isIdle <$> collectAll x m.steps { c with fault := m.fault?.or c.fault }
      else return .more c : Action Progressed) w := by
  rw [handleMessage_of_ofJson? hv]
  split
  · exact handleOwn_capture hunsaved hm c
  · rfl

end Session

end KernelJob

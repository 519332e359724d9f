import KernelJob.Proofs.Json.Reader
import KernelJob.Proofs.Source.Parts
import KernelJob.Source.Document

/-! # The failures of documents

Bytes that are no document of the declared format are to fail for their format or for a part that
they lack, and for nothing else. Two more failures leave the parser: a text is not read as JSON for
a whole number of too many digits, and a notebook of an older version does not reach the current
form. Apart from these two, whatever the bytes are, the failure is one of the two kinds that are
declared.

* **`Document.Declares`** — what is read, or a failure of one of the two declared kinds.
* **`Document.Oversized`**, **`Document.BreaksDown`** — the two other failures.
* **`Document.parse_declares_iff`** — when parsing comes to nothing else than is declared. -/

namespace KernelJob

/-- The kinds of failures that are declared: of the format and of the structure. -/
inductive DocumentFault.Declared : DocumentFault → Prop
  | format (fault : FormatFault) : Declared (.format fault)
  | structural (fault : StructureFault) : Declared (.structural fault)

namespace Document

variable {α β : Type}

/-- A step of parsing gives its result or fails in a declared way. -/
def Declares : Except DocumentFault α → Prop
  | .ok _ => True
  | .error fault => fault.Declared

/-- What is made of the result changes nothing. -/
theorem declares_map {r : Except DocumentFault α} (f : α → β) :
    Declares (r.map f) ↔ Declares r := by
  cases r with
  | ok a => exact Iff.rfl
  | error fault => exact Iff.rfl

/-! ## The steps of parsing -/

/-- A JSON failure is one of the format, except that for too many digits. -/
theorem jsonFault_declared (wrap : Json.Fault → FormatFault) (fault : Json.Fault) :
    (jsonFault wrap fault).Declared ↔ ¬ ∃ n, fault = .tooManyDigits n := by
  cases fault with
  | malformed cause position =>
    refine iff_of_true (.format _) ?_
    rintro ⟨n, hn⟩
    exact nomatch hn
  | tooManyDigits n =>
    refine iff_of_false (fun h => nomatch h) ?_
    exact not_not_intro ⟨n, rfl⟩

/-- The failure of a notebook of an older version is one of the format, except a breakdown. -/
theorem upgradeFault_declared (fault : UpgradeFault) :
    (upgradeFault fault).Declared ↔ ¬ ∃ b, fault = .breakdown b := by
  cases fault with
  | version fault =>
    refine iff_of_true (.format _) ?_
    rintro ⟨b, hb⟩
    exact nomatch hb
  | breakdown b =>
    refine iff_of_false (fun h => nomatch h) ?_
    exact not_not_intro ⟨b, rfl⟩

/-- A document whose parts are used as what they are fails for what it lacks. -/
theorem declares_of_checked {r : Except (Unread α) β} (h : Unread.Checked r)
    (wrap : α → StructureFault) : Declares (r.mapError (unreadFault wrap)) := by
  cases r with
  | ok b => trivial
  | error unread =>
    cases unread with
    | lacking fault => exact .structural (wrap fault)
    | misfit m => exact absurd rfl (h m)

/-- **The failures of a note** are declared, except that for too many digits. -/
theorem readNote_declares_iff (t : Text) :
    Declares (readNote t) ↔ ¬ ∃ n, Json.read t = .error (.tooManyDigits n) := by
  unfold readNote
  cases hread : Json.read t with
  | error fault =>
    rw [Declares, jsonFault_declared]
    exact not_congr (exists_congr fun n => (Except.error.injEq _ _).symm.to_iff)
  | ok v =>
    refine iff_of_true ?_ (fun ⟨n, hn⟩ => nomatch hn)
    cases v with
    | object fields => exact declares_of_checked (Note.ofFields_checked fields) .note
    | _ => exact .structural _

/-- **The failures of a notebook** are declared, except that for too many digits and the breakdown
of a notebook of an older version. -/
theorem readNotebook_declares_iff (t : Text) :
    Declares (readNotebook t) ↔ (¬ ∃ n, Json.read t = .error (.tooManyDigits n)) ∧
      ¬ ∃ fields b, Json.read t = .ok (.object fields) ∧
        Notebook.cellsOf fields = .error (.breakdown b) := by
  unfold readNotebook
  cases hread : Json.read t with
  | error fault =>
    rw [Declares, jsonFault_declared]
    constructor
    · intro h
      refine ⟨?_, fun ⟨_, _, hobject, _⟩ => nomatch hobject⟩
      rintro ⟨n, hn⟩
      exact h ⟨n, Except.error.inj hn⟩
    · rintro ⟨h, -⟩ ⟨n, rfl⟩
      exact h ⟨n, rfl⟩
  | ok v =>
    rw [and_iff_right (fun ⟨n, hn⟩ => nomatch hn)]
    cases v with
    | object fields =>
      dsimp only
      cases hcells : Notebook.cellsOf fields with
      | error fault =>
        rw [Declares, upgradeFault_declared]
        constructor
        · rintro h ⟨fields', b, hfields, hb⟩
          obtain rfl := Json.object.inj (Except.ok.inj hfields)
          rw [hcells] at hb
          exact h ⟨b, Except.error.inj hb⟩
        · rintro h ⟨b, rfl⟩
          exact h ⟨fields, b, rfl, hcells⟩
      | ok cells =>
        refine iff_of_true (declares_of_checked (Notebook.ofCells_checked cells) .notebook) ?_
        rintro ⟨fields', b, hfields, hb⟩
        obtain rfl := Json.object.inj (Except.ok.inj hfields)
        rw [hcells] at hb
        exact nomatch hb
    | _ =>
      refine iff_of_true (.structural _) ?_
      rintro ⟨fields, b, hfields, -⟩
      exact nomatch hfields

/-! ## Versions -/

/-- Only notebooks of a version below 4 break down. -/
theorem cellsOf_breakdown {fields : Fields} {b : Breakdown}
    (h : Notebook.cellsOf fields = .error (.breakdown b)) :
    ∃ version, Notebook.versionNumber? ((fields.get? "nbformat").getD (.int 4)) = some version ∧
      version < 4 := by
  unfold Notebook.cellsOf at h
  dsimp only at h
  split at h
  · exact nomatch h
  · rename_i version hversion
    refine ⟨version, hversion, ?_⟩
    by_contra hnew
    have hcurrent : 4 ≤ version := by omega
    rw [if_pos hcurrent] at h
    exact nomatch h

/-! ## Parsing -/

/-- The bytes are in a format that is read as JSON, and their text has a whole number of too many
digits at which reading it ends. -/
def Oversized (format : SourceFormat) (bytes : List UInt8) : Prop :=
  (format = .notebook ∨ format = .note) ∧ ∃ t n, Text.ofUtf8 bytes = .ok t ∧
    Json.read t = .error (.tooManyDigits n) ∧ digitLimit < n ∧ Json.HasDigits n t

/-- The bytes are a notebook of a version below 4 that breaks down on the way to the current
form. -/
def BreaksDown (format : SourceFormat) (bytes : List UInt8) : Prop :=
  format = .notebook ∧ ∃ (t : Text) (fields : Fields) (version : Int) (b : Breakdown),
    Text.ofUtf8 bytes = .ok t ∧ Json.read t = .ok (.object fields) ∧
    Notebook.versionNumber? ((fields.get? "nbformat").getD (.int 4)) = some version ∧
    version < 4 ∧ Notebook.cellsOf fields = .error (.breakdown b)

variable {format : SourceFormat} {bytes : List UInt8} {t : Text}

/-- Whether a number is too long shows when the text is read as JSON. -/
theorem oversized_iff (ht : Text.ofUtf8 bytes = .ok t) :
    Oversized format bytes ↔ (format = .notebook ∨ format = .note) ∧
      ∃ n, Json.read t = .error (.tooManyDigits n) := by
  constructor
  · rintro ⟨hformat, u, n, hu, hread, -⟩
    rw [ht] at hu
    obtain rfl := Except.ok.inj hu
    exact ⟨hformat, n, hread⟩
  · rintro ⟨hformat, n, hread⟩
    exact ⟨hformat, t, n, ht, hread, Json.read_tooManyDigits hread⟩

/-- Whether a notebook breaks down shows when its cells are brought to the current form. -/
theorem breaksDown_iff (ht : Text.ofUtf8 bytes = .ok t) :
    BreaksDown format bytes ↔ format = .notebook ∧ ∃ fields b,
      Json.read t = .ok (.object fields) ∧ Notebook.cellsOf fields = .error (.breakdown b) := by
  constructor
  · rintro ⟨hformat, u, fields, _, b, hu, hread, -, -, hcells⟩
    rw [ht] at hu
    obtain rfl := Except.ok.inj hu
    exact ⟨hformat, fields, b, hread, hcells⟩
  · rintro ⟨hformat, fields, b, hread, hcells⟩
    obtain ⟨version, hversion, hold⟩ := cellsOf_breakdown hcells
    exact ⟨hformat, t, fields, version, b, ht, hread, hversion, hold, hcells⟩

/-- **Parsing gives code units or fails in a declared way**, whatever the format and the bytes are,
unless a whole number has too many digits or a notebook of an older version breaks down. -/
theorem parse_declares_iff (format : SourceFormat) (bytes : List UInt8) :
    Declares (parse format bytes) ↔ ¬ Oversized format bytes ∧ ¬ BreaksDown format bytes := by
  rw [parse, declares_map, read]
  cases hutf8 : Text.ofUtf8 bytes with
  | error fault =>
    -- Bytes that are not decoded are neither.
    refine iff_of_true (.format _) ⟨?_, ?_⟩
    · rintro ⟨-, t, n, ht, -⟩
      rw [hutf8] at ht
      exact nomatch ht
    · rintro ⟨-, t, _, _, _, ht, -⟩
      rw [hutf8] at ht
      exact nomatch ht
  | ok t =>
    rw [oversized_iff hutf8, breaksDown_iff hutf8]
    cases format with
    | text | plainFile =>
      refine iff_of_true trivial ⟨?_, ?_⟩
      · rintro ⟨hformat | hformat, -⟩ <;> exact nomatch hformat
      · rintro ⟨hformat, -⟩
        exact nomatch hformat
    | notebook =>
      dsimp only [ofText]
      rw [declares_map, readNotebook_declares_iff, and_iff_right (Or.inl rfl),
        and_iff_right rfl]
    | note =>
      dsimp only [ofText]
      rw [declares_map, readNote_declares_iff, and_iff_right (Or.inr rfl)]
      refine (and_iff_left ?_).symm
      rintro ⟨hformat, -⟩
      exact nomatch hformat

/-! ### Too many digits -/

/-- Bytes of ASCII are decoded one by one. -/
theorem ofUtf8_replicate (n : Nat) {b : UInt8} (hb : b < 0x80) :
    Text.ofUtf8 (List.replicate n b) = .ok (List.replicate n (CodePoint.ofNat b.toNat)) := by
  have hfrom (pos : Nat) : Text.ofUtf8From pos (List.replicate n b) =
      .ok (List.replicate n (CodePoint.ofNat b.toNat)) := by
    induction n generalizing pos with
    | zero => rfl
    | succ n ih =>
      rw [List.replicate_succ, Text.ofUtf8From.eq_def]
      dsimp only
      rw [if_pos hb, ih]
      rfl
  exact hfrom 0

/-- Nines and nothing else are a JSON text; if they are more than are read, both formats that are
read as JSON fail for their number. -/
theorem parse_of_digits {format : SourceFormat} (hformat : format = .notebook ∨ format = .note)
    {n : Nat} (hn : digitLimit ≤ n) :
    parse format (List.replicate (n + 1) 57) = .error (.tooManyDigits (n + 1)) := by
  obtain ⟨nine, hnine⟩ : ∃ nine, CodePoint.ofNat (57 : UInt8).toNat = nine := ⟨_, rfl⟩
  have hread : Json.read (List.replicate (n + 1) nine) = .error (.tooManyDigits (n + 1)) := by
    have hlength : (nine :: List.replicate n nine).length = n + 1 := by
      rw [List.length_cons, List.length_replicate]
    rw [List.replicate_succ, Json.read_of_digits, hlength]
    · rw [← hnine]
      decide
    · intro c hc
      rw [← List.replicate_succ] at hc
      rw [List.eq_of_mem_replicate hc, ← hnine]
      decide
    · rw [hlength]
      omega
  rw [parse, read, ofUtf8_replicate (n + 1) (by decide), hnine]
  rcases hformat with rfl | rfl
  · dsimp only [ofText, readNotebook]
    rw [hread]
    rfl
  · dsimp only [ofText, readNote]
    rw [hread]
    rfl

/-- A note of 4301 nines fails in a way that is not declared. -/
theorem not_declares_longNumber : ¬ Declares (parse .note (List.replicate 4301 57)) := by
  rw [parse_of_digits (Or.inr rfl) (n := 4300) (by decide)]
  exact fun h => nomatch h

end Document

end KernelJob

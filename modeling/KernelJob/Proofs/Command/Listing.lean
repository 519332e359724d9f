import KernelJob.Proofs.Job.Report
import KernelJob.Proofs.Numeral
import Mathlib.Data.List.Forall2

/-! # The list of kernels

The list of kernels has a row for each entry of the registry. The entries are not listed themselves:
the kernels are, and each is looked up again, which gives the first entry for it. So the rows are
those of the entries if, and only if, entries for the same kernel would have the same row, and the
default is marked once if there is one entry for its kernel only. Printing leaves out the commands
of terminals, and it ends at a line that UTF-8 cannot carry.

* **`Server.cells`**, **`Server.ShownBy`** — the row of an entry, with or without the mark of the
  default.
* **`Registry.ListedBy`** — an outcome that lists a registry.
* **`Registry.Plain`** — a registry whose entries are told apart by their kernels.
* **`Registry.listing_rows`** — the rows are those of the entries that are found.
* **`Outcome.ofLines_fatal_iff`** — lines can be printed if they are clean.
* **`Registry.listedBy_listing_iff`** — the registry is listed if and only if it is plain. -/

namespace KernelJob

/-! ## Printing -/

namespace Outcome

/-- The printing of lines goes through if and only if that of each line does. -/
theorem printAll_snd_eq_none_iff {lines : List Text} :
    (printAll lines).2 = none ↔ ∀ l ∈ lines, printFault? l = none := by
  induction lines with
  | nil => exact ⟨fun _ => List.forall_mem_nil _, fun _ => rfl⟩
  | cons line lines ih =>
    rw [List.forall_mem_cons, ← ih, printAll]
    cases printFault? line with
    | none => exact ⟨fun h => ⟨rfl, h⟩, fun h => h.2⟩
    | some fault => exact ⟨fun h => (by cases h), fun h => (by cases h.1)⟩

/-- **A command prints its lines to the end** if and only if they are all clean. -/
theorem ofLines_fatal_iff {site : Site} {lines : List Text} :
    (ofLines site lines).fatal = none ↔ ∀ l ∈ lines, l.Clean := by
  have hlines : (∀ l ∈ lines, l.Clean) ↔ (printAll lines).2 = none := by
    rw [printAll_snd_eq_none_iff]
    exact forall₂_congr fun l _ => printFault?_eq_none_iff.symm
  rw [hlines, ofLines]
  rcases printAll lines with ⟨t, _ | fault⟩
  · exact ⟨fun _ => rfl, fun _ => rfl⟩
  · exact ⟨fun h => (by cases h), fun h => (by cases h)⟩

/-- Lines that are clean are printed one after the other. -/
theorem ofLines_of_clean (site : Site) {lines : List Text} (h : ∀ l ∈ lines, l.Clean) :
    ofLines site lines = { output := lines.flatMap printed, site := site } := by
  rw [ofLines, printAll_of_forall fun l hl => printFault?_eq_none_iff.mpr (h l hl)]

end Outcome

/-! ## Rows -/

/-- The mark of the default. -/
def defaultMark : Text := " (default)"

/-- Whether a row has the mark of the default. -/
def isMarked (row : Text) : Bool := Text.endsWith row defaultMark

namespace Server

variable {s : Server} {row : Text}

/-- **The row of an entry** without the mark: its kernel, its name, its launch timeout and its limit
in columns. -/
def cells (s : Server) : Text :=
  Text.padRight 20 s.kernel ++ " " ++ Text.padRight 20 s.serverName ++ " " ++
    Text.padLeft 14 (Text.ofFloatSix s.launchTimeout) ++ " " ++
    Text.padLeft 12 (Text.ofInt s.maxResults)

/-- **A row that shows an entry**, with or without the mark. -/
def ShownBy (s : Server) (row : Text) : Prop := row = s.cells ∨ row = s.cells ++ defaultMark

/-- A row can be printed if and only if the names of its entry can. -/
theorem clean_cells_iff : s.cells.Clean ↔ s.Clean := by
  have hnames : s.cells.Clean ↔ s.kernel.Clean ∧ s.serverName.Clean := by simp [cells]
  rw [hnames]
  exact ⟨fun h => ⟨h.1, h.2⟩, fun h => ⟨h.kernel, h.serverName⟩⟩

/-- A row ends with the last digit of the limit. -/
theorem exists_digit_getLast? (s : Server) :
    ∃ c, s.cells.getLast? = some c ∧ c.isDigit = true := by
  obtain ⟨start, n, hn⟩ : ∃ start n, Text.ofInt s.maxResults = start ++ Text.ofNat n := by
    cases s.maxResults with
    | ofNat n => exact ⟨[], n, rfl⟩
    | negSucc n => exact ⟨[CodePoint.ofChar '-'], n + 1, rfl⟩
  have hc := List.getLast?_eq_some_getLast (Text.ofNat_ne_nil n)
  obtain ⟨front, hfront⟩ : ∃ front, s.cells = front ++ Text.ofNat n := by
    have hlast : Text.padLeft 12 (Text.ofInt s.maxResults) =
        List.replicate (12 - (start ++ Text.ofNat n).length) (CodePoint.ofChar ' ') ++
          (start ++ Text.ofNat n) := by rw [hn, Text.padLeft]
    rw [cells, hlast, ← List.append_assoc, ← List.append_assoc]
    exact ⟨_, rfl⟩
  refine ⟨_, ?_, Text.isDigit_of_mem_ofNat (List.mem_of_getLast? hc)⟩
  rw [hfront, List.getLast?_append, hc]
  rfl

/-- So it does not end with the mark. -/
theorem isMarked_cells (s : Server) : isMarked s.cells = false := by
  refine Bool.eq_false_iff.mpr fun h => ?_
  -- the mark ends with a bracket, which is no digit
  obtain ⟨start, hstart⟩ := List.isSuffixOf_iff_suffix.mp h
  obtain ⟨c, hlast, hdigit⟩ := s.exists_digit_getLast?
  rw [← hstart, List.getLast?_append] at hlast
  cases hlast
  cases hdigit

/-- With the mark it does. -/
theorem isMarked_append_defaultMark (t : Text) : isMarked (t ++ defaultMark) = true :=
  List.isSuffixOf_iff_suffix.mpr (List.suffix_append t defaultMark)

end Server

/-! ## The registry -/

namespace Registry

variable {r : Registry} {s t : Server} {lines : List Text}

/-- **The entry that looking up the kernel of an entry gives.** -/
def firstFor (r : Registry) (s : Server) : Server :=
  (r.servers.find? (·.kernel == s.kernel)).getD s

/-- An entry for the kernel of an entry is found. -/
theorem find?_eq_some_firstFor (hs : s ∈ r.servers) :
    r.servers.find? (·.kernel == s.kernel) = some (r.firstFor s) := by
  have hsome : (r.servers.find? (·.kernel == s.kernel)).isSome = true :=
    List.find?_isSome.mpr ⟨s, hs, beq_self_eq_true s.kernel⟩
  obtain ⟨first, hfirst⟩ := Option.isSome_iff_exists.mp hsome
  rw [firstFor, hfirst, Option.getD_some]

/-- It is an entry for the same kernel. -/
theorem kernel_firstFor (hs : s ∈ r.servers) : (r.firstFor s).kernel = s.kernel := by
  have hfirst := List.find?_some (find?_eq_some_firstFor hs)
  exact beq_iff_eq.mp hfirst

theorem firstFor_mem (hs : s ∈ r.servers) : r.firstFor s ∈ r.servers :=
  List.mem_of_find?_eq_some (find?_eq_some_firstFor hs)

/-- Entries for the same kernel are looked up alike. -/
theorem firstFor_congr (hs : s ∈ r.servers) (ht : t ∈ r.servers) (h : s.kernel = t.kernel) :
    r.firstFor s = r.firstFor t := by
  have hfirst := find?_eq_some_firstFor hs
  rw [h, find?_eq_some_firstFor ht] at hfirst
  exact (Option.some.inj hfirst).symm

/-- A row is that of its entry, with the mark if the entry is the default. -/
theorem row_eq (r : Registry) (s : Server) :
    r.row s = s.cells ++ if r.isDefault s then defaultMark else [] := rfl

/-- **The rows are those of the entries that are found** for the kernels of the entries. -/
theorem listing_rows (hr : ∀ s ∈ r.servers, s.Valid) :
    r.listing.tail = r.servers.map fun s => r.row (r.firstFor s) := by
  -- a valid entry names its kernel, so that looking it up does not fall back to the default
  have hnamed : ∀ s ∈ r.servers, r.find? (some s.kernel) = some (r.firstFor s) := by
    intro s hs
    have hne : s.kernel ≠ [] := by
      intro hnil
      have hkernel := (hr s hs).kernel
      rw [hnil] at hkernel
      cases hkernel
    rw [find?, nameFor_some hne, if_neg hne, find?_eq_some_firstFor hs]
  have hlisted : r.listed = r.servers.map r.firstFor := by
    rw [listed, kernelNames, List.filterMap_map]
    exact (List.filterMap_congr hnamed).trans (congrFun List.filterMap_eq_map r.servers)
  rw [listing]
  split
  · rename_i hempty
    rw [List.isEmpty_iff.mp hempty]
    rfl
  · rw [List.tail_cons, hlisted, List.map_map]
    rfl

/-! ## Marks -/

/-- Whether an entry is the default depends on its kernel only. -/
theorem isDefault_firstFor (hs : s ∈ r.servers) : r.isDefault (r.firstFor s) = r.isDefault s := by
  unfold isDefault
  rw [kernel_firstFor hs]

/-- The row of the default has the mark. -/
theorem isMarked_row (r : Registry) (s : Server) : isMarked (r.row s) = r.isDefault s := by
  rw [row_eq]
  cases r.isDefault s with
  | true => exact Server.isMarked_append_defaultMark s.cells
  | false => exact (congrArg isMarked (List.append_nil s.cells)).trans s.isMarked_cells

/-- A row shows an entry if its own entry would have the same. -/
theorem shownBy_row_iff : s.ShownBy (r.row t) ↔ t.cells = s.cells := by
  rw [Server.ShownBy, row_eq]
  cases r.isDefault t with
  | true =>
    have hunmarked : t.cells ++ defaultMark ≠ s.cells := by
      intro h
      have hmarked := Server.isMarked_append_defaultMark t.cells
      rw [h, s.isMarked_cells] at hmarked
      cases hmarked
    rw [if_pos rfl, List.append_left_inj]
    exact or_iff_right hunmarked
  | false =>
    have hmarked : t.cells ≠ s.cells ++ defaultMark := by
      intro h
      have hunmarked := t.isMarked_cells
      rw [h, Server.isMarked_append_defaultMark] at hunmarked
      cases hunmarked
    rw [if_neg Bool.false_ne_true, List.append_nil]
    exact or_iff_left hmarked

/-- **As many rows have the mark as there are entries for the kernel of the default.** -/
theorem countP_isMarked_listing (hr : ∀ s ∈ r.servers, s.Valid) :
    r.listing.tail.countP isMarked = r.servers.countP r.isDefault := by
  rw [listing_rows hr, List.countP_map]
  refine List.countP_congr fun s hs => ?_
  rw [Function.comp_apply, isMarked_row, isDefault_firstFor hs]

/-! ## The list -/

/-- **An outcome that lists a registry** by some lines. -/
structure ListedBy (r : Registry) (lines : List Text) (o : Outcome) : Prop where
  /-- The lines are printed to the end. -/
  printed : o.fatal = none ∧ o.exitCode = 0 ∧ o.output = lines.flatMap Outcome.printed
  /-- Below the heading there is a row for each entry, in their order and with their own values. -/
  rows : List.Forall₂ Server.ShownBy r.servers lines.tail
  /-- A single one of them has the mark if there is a default, and none has otherwise. -/
  marked : lines.tail.countP isMarked = if (r.find? none).isSome then 1 else 0

/-- **A plain registry**: entries for the same kernel would have the same row, there is one entry
for the kernel of the default, and all names can be printed. -/
structure Plain (r : Registry) : Prop where
  cells : ∀ s ∈ r.servers, ∀ t ∈ r.servers, s.kernel = t.kernel → s.cells = t.cells
  single : ∀ d, r.find? none = some d → r.servers.countP (fun s => d.kernel == s.kernel) = 1
  clean : ∀ s ∈ r.servers, s.Clean

/-- The rows show the entries if those for the same kernel would have the same row. -/
theorem rows_listing_iff (hr : ∀ s ∈ r.servers, s.Valid) :
    List.Forall₂ Server.ShownBy r.servers r.listing.tail ↔
      ∀ s ∈ r.servers, ∀ t ∈ r.servers, s.kernel = t.kernel → s.cells = t.cells := by
  rw [listing_rows hr, List.forall₂_map_right_iff, List.forall₂_same]
  simp only [shownBy_row_iff]
  -- two entries for the same kernel are compared through the one that is found for both
  constructor
  · intro h s hs t ht hkernel
    rw [← h s hs, ← h t ht, firstFor_congr hs ht hkernel]
  · exact fun h s hs => h _ (firstFor_mem hs) s hs (kernel_firstFor hs)

/-- A single row has the mark if there is one entry for the kernel of the default. -/
theorem marked_listing_iff (hr : ∀ s ∈ r.servers, s.Valid) :
    (r.listing.tail.countP isMarked = if (r.find? none).isSome then 1 else 0) ↔
      ∀ d, r.find? none = some d →
        r.servers.countP (fun s => d.kernel == s.kernel) = 1 := by
  rw [countP_isMarked_listing hr]
  unfold isDefault
  cases r.find? none with
  | none =>
    rw [Option.isSome_none, if_neg Bool.false_ne_true]
    exact iff_of_true (List.countP_eq_zero.mpr fun s _ => Bool.false_ne_true)
      fun d hd => by cases hd
  | some d =>
    rw [Option.isSome_some, if_pos rfl]
    exact ⟨fun h e he => Option.some.inj he ▸ h, fun h => h d rfl⟩

/-- The list can be printed if the names of the entries that are found can. -/
theorem clean_listing_iff (hr : ∀ s ∈ r.servers, s.Valid) :
    (∀ l ∈ r.listing, l.Clean) ↔ ∀ s ∈ r.servers, (r.firstFor s).cells.Clean := by
  have hmark (s : Server) : (r.row s).Clean ↔ s.cells.Clean := by
    rw [row_eq]
    cases r.isDefault s <;> simp [defaultMark]
  have hhead : ∀ l ∈ r.listing.head?, l.Clean := by
    rw [listing]
    split
    · simp
    · simp [heading]
  have hrows : (∀ l ∈ r.listing, l.Clean) ↔ ∀ l ∈ r.listing.tail, l.Clean := by
    cases hlisting : r.listing with
    | nil => rfl
    | cons l lines =>
      rw [hlisting] at hhead
      rw [List.forall_mem_cons]
      exact and_iff_right (hhead l rfl)
  rw [hrows, listing_rows hr, List.forall_mem_map]
  exact forall₂_congr fun s _ => hmark (r.firstFor s)

/-- **The command lists the registry** if and only if the registry is plain. With two entries for a
kernel, the row of the first stands for both. -/
theorem listedBy_listing_iff (r : Registry) (hr : ∀ s ∈ r.servers, s.Valid) (site : Site) :
    (∀ shell settings, Shell.settings shell site = .ok settings → settings.registry = r →
      shell.perform site .kernels = .ofLines site r.listing) ∧
    (r.ListedBy r.listing (.ofLines site r.listing) ↔ r.Plain) := by
  refine ⟨fun shell settings hsettings hregistry => ?_, ?_⟩
  · show shell.listKernels site = _
    rw [Shell.listKernels, Shell.withSettings, hsettings, ← hregistry]
  -- where the rows are those of the entries, all entries are printed
  have hclean (hcells : ∀ s ∈ r.servers, ∀ t ∈ r.servers, s.kernel = t.kernel →
      s.cells = t.cells) :
      (∀ l ∈ r.listing, l.Clean) ↔ ∀ s ∈ r.servers, s.Clean := by
    rw [clean_listing_iff hr]
    refine forall₂_congr fun s hs => ?_
    rw [hcells _ (firstFor_mem hs) s hs (kernel_firstFor hs), Server.clean_cells_iff]
  constructor
  · rintro ⟨⟨hfatal, -⟩, hrows, hmarked⟩
    have hcells := (rows_listing_iff hr).mp hrows
    exact ⟨hcells, (marked_listing_iff hr).mp hmarked,
      (hclean hcells).mp (Outcome.ofLines_fatal_iff.mp hfatal)⟩
  · rintro ⟨hcells, hsingle, hnames⟩
    have hprinted := Outcome.ofLines_of_clean site ((hclean hcells).mpr hnames)
    constructor
    case printed =>
      rw [hprinted]
      exact ⟨rfl, rfl, rfl⟩
    case rows => exact (rows_listing_iff hr).mpr hcells
    case marked => exact (marked_listing_iff hr).mpr hsingle

/-- An entry with the defaults for its limits is valid. -/
theorem valid_named (name : Text) {kernel : Text} (h : kernel.isBlank = false) :
    Server.Valid { serverName := name, kernel := kernel } :=
  ⟨h, show (0.0 : Float) < 30.0 by decide, show (0 : Int) ≤ 1000 by decide, fun x hx => by cases hx⟩

/-- A registry with an entry for each of two kernels. -/
def twoKernels : Registry where
  servers := [{ serverName := "Python", kernel := "python3" },
    { serverName := "R", kernel := "ir" }]

/-- It is plain, so it is listed. -/
theorem listedBy_listing_twoKernels :
    twoKernels.Plain ∧
    twoKernels.ListedBy twoKernels.listing (.ofLines ⟨{}, {}⟩ twoKernels.listing) := by
  have hr : ∀ s ∈ twoKernels.servers, s.Valid :=
    List.forall_mem_cons.mpr ⟨valid_named _ (by decide),
      List.forall_mem_singleton.mpr (valid_named _ (by decide))⟩
  have hplain : twoKernels.Plain := by
    constructor
    case cells =>
      intro s hs t ht hkernel
      simp only [twoKernels, List.mem_cons, List.not_mem_nil, or_false] at hs ht
      rcases hs with rfl | rfl <;> rcases ht with rfl | rfl
      · rfl
      · exact absurd hkernel (by decide)
      · exact absurd hkernel (by decide)
      · rfl
    case single =>
      intro d hd
      cases hd
      decide
    case clean =>
      exact List.forall_mem_cons.mpr ⟨⟨by decide, by decide⟩,
        List.forall_mem_singleton.mpr ⟨by decide, by decide⟩⟩
  exact ⟨hplain, (listedBy_listing_iff twoKernels hr ⟨{}, {}⟩).2.mpr hplain⟩

/-- A registry with two entries for one kernel. -/
def sameKernelTwice : Registry where
  servers := [{ serverName := "A", kernel := "python3" },
    { serverName := "B", kernel := "python3" }]

/-- Its list has the row of the first entry twice, both times with the mark. -/
theorem not_listedBy_listing_sameKernelTwice :
    (∀ s ∈ sameKernelTwice.servers, s.Valid) ∧
    (∃ first, sameKernelTwice.servers.head? = some first ∧
      sameKernelTwice.listing.tail = List.replicate 2 (first.cells ++ defaultMark)) ∧
    ∀ site, ¬ sameKernelTwice.ListedBy sameKernelTwice.listing
      (.ofLines site sameKernelTwice.listing) := by
  have hr : ∀ s ∈ sameKernelTwice.servers, s.Valid :=
    List.forall_mem_cons.mpr ⟨valid_named _ (by decide),
      List.forall_mem_singleton.mpr (valid_named _ (by decide))⟩
  refine ⟨hr, ⟨_, rfl, ?_⟩, fun site h => ?_⟩
  · rw [listing_rows hr]
    rfl
  · have hmarked := h.marked
    rw [countP_isMarked_listing hr] at hmarked
    exact absurd hmarked (by decide)

end Registry

end KernelJob

import KernelJob.Proofs.Json.Fields
import KernelJob.Toml.Reader

/-! # Tables of TOML documents

A document declares nothing twice, and the reader builds its tables by setting one key after the
other. So no table has a key twice. This holds of the table that is built so far at every step of
the reader, and of every inline table.

* **`modifyTable_distinct`** — changing a table below a table keeps the keys distinct.
* **`readsDistinct`** — inline tables have distinct keys, whatever the fuel is.
* **`Reader.statement_distinct`** — so has the table after each statement.
* **`readBytes_distinct`** — and so has the table of a document. -/

namespace KernelJob.Toml

/-- If a value is an object, its keys are distinct. -/
def DistinctIn (v : Json) : Prop := ∀ sub, v = .object sub → Fields.Distinct sub

/-! ## Tables on a path -/

variable {f : Fields → Option Fields} {table table' : Fields} {v : Json}

/-- **A change to the table that a path leads to keeps the keys distinct**, if it does so in that
table. -/
theorem modifyTable_distinct (throughLists : Bool)
    (hf : ∀ {t t'}, t.Distinct → f t = some t' → t'.Distinct) {path : List Text}
    (htable : table.Distinct) (h : modifyTable throughLists f path table = some table') :
    table'.Distinct := by
  induction path generalizing table table' with
  | nil => exact hf htable h
  | cons k ks ih =>
    rw [modifyTable] at h
    split at h
    · obtain ⟨sub, hsub, rfl⟩ := Option.map_eq_some_iff.mp h
      exact htable.set k fun s hs => Json.object.inj hs ▸ ih .nil hsub
    · obtain ⟨sub, hsub, rfl⟩ := Option.map_eq_some_iff.mp h
      exact htable.set k fun s hs => Json.object.inj hs ▸ ih (htable.get? ‹_›) hsub
    · split at h
      · split at h
        · obtain ⟨sub, -, rfl⟩ := Option.map_eq_some_iff.mp h
          exact htable.set k fun s hs => nomatch hs
        · exact nomatch h
      · exact nomatch h
    · exact nomatch h

/-- A key that is added is new. -/
theorem addNew_distinct (key : Text) (hv : DistinctIn v) (htable : table.Distinct)
    (h : addNew key v table = some table') : table'.Distinct := by
  rw [addNew] at h
  split at h
  · exact nomatch h
  · obtain rfl := Option.some.inj h
    exact htable.set key hv

/-! ## Values -/

/-- A value that is no object has nothing in it. -/
theorem distinctIn_of_ne (h : ∀ sub, v ≠ .object sub) : DistinctIn v :=
  fun sub hsub => absurd hsub (h sub)

/-- A number is no object. -/
theorem numberValue_distinct {negative : Bool} {whole : Text} {fraction : Option Text}
    {exponent : Option Int} (h : Json.numberValue negative whole fraction exponent = .ok v) :
    DistinctIn v := by
  unfold Json.numberValue at h
  split at h
  · split at h
    · exact nomatch h
    · obtain rfl := Except.ok.inj h
      exact distinctIn_of_ne nofun
  · obtain rfl := Except.ok.inj h
    exact distinctIn_of_ne nofun

/-- A whole number in another base is no object. -/
theorem basedNumber_distinct {t rest : Text} (h : basedNumber t = some (v, rest)) :
    DistinctIn v := by
  have hint : ∀ {r : Reading Text} {base : Nat},
      (r.map fun r => (Json.int (valueIn base r.1), r.2)) = some (v, rest) → DistinctIn v := by
    intro r base hr
    obtain ⟨digits, -, hdigits⟩ := Option.map_eq_some_iff.mp hr
    obtain ⟨rfl, -⟩ := Prod.mk.inj hdigits
    exact distinctIn_of_ne nofun
  unfold basedNumber at h
  split at h
  · split at h
    · exact nomatch h
    split at h
    · exact hint h
    split at h
    · exact hint h
    split at h
    · exact hint h
    · exact nomatch h
  · exact nomatch h

/-- A decimal is no object. -/
theorem decimal_distinct {t rest : Text} (h : decimal t = some (v, rest)) : DistinctIn v := by
  unfold decimal at h
  dsimp only at h
  split at h
  · exact nomatch h
  · split at h
    · rename_i hvalue
      obtain ⟨rfl, -⟩ := Prod.mk.inj (Option.some.inj h)
      exact numberValue_distinct hvalue
    · exact nomatch h

/-- A date, a time or a number is no object. -/
theorem scalar_distinct {t rest : Text} (h : scalar t = some (v, rest)) : DistinctIn v := by
  unfold scalar at h
  split at h
  · split at h
    · obtain ⟨rfl, -⟩ := Prod.mk.inj (Option.some.inj h)
      exact distinctIn_of_ne nofun
    · exact nomatch h
  split at h
  · obtain ⟨rfl, -⟩ := Prod.mk.inj (Option.some.inj h)
    exact distinctIn_of_ne nofun
  split at h
  · rename_i hbased
    exact basedNumber_distinct (hbased.trans h)
  split at h
  · rename_i hdecimal
    exact decimal_distinct (hdecimal.trans h)
  · unfold specialNumber at h
    dsimp only at h
    split at h
    · obtain ⟨rfl, -⟩ := Prod.mk.inj (Option.some.inj h)
      exact distinctIn_of_ne nofun
    split at h
    · obtain ⟨rfl, -⟩ := Prod.mk.inj (Option.some.inj h)
      exact distinctIn_of_ne nofun
    · exact nomatch h

/-- The items of a list are given as a list. -/
theorem listItems_distinct {fuel : Nat} {items : List Json} {t rest : Text}
    (h : listItems fuel items t = some (v, rest)) : DistinctIn v := by
  induction fuel generalizing items t with
  | zero => exact nomatch h
  | succ fuel ih =>
    rw [listItems] at h
    split at h
    · exact nomatch h
    split at h
    · split at h
      · obtain ⟨rfl, -⟩ := Prod.mk.inj (Option.some.inj h)
        exact distinctIn_of_ne nofun
      split at h
      · split at h
        · split at h
          · obtain ⟨rfl, -⟩ := Prod.mk.inj (Option.some.inj h)
            exact distinctIn_of_ne nofun
          · exact ih h
        · exact nomatch h
      · exact nomatch h
    · exact nomatch h

/-- What the reader of values gives with some fuel. -/
structure ReadsDistinct (fuel : Nat) : Prop where
  value : ∀ {t v rest}, value fuel t = some (v, rest) → DistinctIn v
  pair : ∀ {t k v rest}, pair fuel t = some ((k, v), rest) → DistinctIn v
  inlineFields : ∀ {table closed t v rest}, Fields.Distinct table →
    inlineFields fuel table closed t = some (v, rest) → DistinctIn v

variable {fuel : Nat}

/-- A value is an inline table or no object. -/
theorem value_distinct_step (ih : ReadsDistinct fuel) {t rest : Text}
    (h : value (fuel + 1) t = some (v, rest)) : DistinctIn v := by
  cases t with
  | nil => exact nomatch h
  | cons c cs =>
    rw [value] at h
    split at h
    · obtain ⟨r, -, hr⟩ := Option.map_eq_some_iff.mp h
      obtain ⟨rfl, -⟩ := Prod.mk.inj hr
      exact distinctIn_of_ne nofun
    split at h
    · obtain ⟨rfl, -⟩ := Prod.mk.inj (Option.some.inj h)
      exact distinctIn_of_ne nofun
    split at h
    · obtain ⟨rfl, -⟩ := Prod.mk.inj (Option.some.inj h)
      exact distinctIn_of_ne nofun
    split at h
    · split at h
      · split at h
        · obtain ⟨rfl, -⟩ := Prod.mk.inj (Option.some.inj h)
          exact distinctIn_of_ne nofun
        · exact listItems_distinct h
      · exact nomatch h
    split at h
    · split at h
      · split at h
        · obtain ⟨rfl, -⟩ := Prod.mk.inj (Option.some.inj h)
          exact fun sub hsub => Json.object.inj hsub ▸ .nil
        · exact ih.inlineFields .nil h
      · exact nomatch h
    · exact scalar_distinct h

/-- The value of a pair is read as a value. -/
theorem pair_distinct_step (ih : ReadsDistinct fuel) {t rest : Text} {k : List Text}
    (h : pair (fuel + 1) t = some ((k, v), rest)) : DistinctIn v := by
  rw [pair] at h
  split at h
  · split at h
    · obtain ⟨r, hr, heq⟩ := Option.map_eq_some_iff.mp h
      obtain ⟨hp, -⟩ := Prod.mk.inj heq
      obtain ⟨-, rfl⟩ := Prod.mk.inj hp
      exact ih.value hr
    · exact nomatch h
  · exact nomatch h

/-- Each pair of an inline table adds a new key. -/
theorem inlineFields_distinct_step (ih : ReadsDistinct fuel) {closed : List (List Text)}
    {t rest : Text} (htable : table.Distinct)
    (h : inlineFields (fuel + 1) table closed t = some (v, rest)) : DistinctIn v := by
  rw [inlineFields] at h
  split at h
  · exact nomatch h
  rename_i k w rest' hpair
  split at h
  · exact nomatch h
  dsimp only at h
  split at h
  · exact nomatch h
  rename_i table' hmodify
  have htable' : table'.Distinct :=
    modifyTable_distinct false (addNew_distinct _ (ih.pair hpair)) htable hmodify
  split at h
  · split at h
    · obtain ⟨rfl, -⟩ := Prod.mk.inj (Option.some.inj h)
      exact fun sub hsub => Json.object.inj hsub ▸ htable'
    split at h
    · exact ih.inlineFields htable' h
    · exact nomatch h
  · exact nomatch h

/-- **Inline tables have distinct keys**, whatever the fuel is. -/
theorem readsDistinct (fuel : Nat) : ReadsDistinct fuel := by
  induction fuel with
  | zero => exact ⟨nofun, nofun, nofun⟩
  | succ fuel ih =>
    exact ⟨value_distinct_step ih, pair_distinct_step ih, inlineFields_distinct_step ih⟩

/-! ## Documents -/

namespace Reader

variable {r r' : Reader}

/-- A header opens a table that was there or is empty. -/
theorem openTable_distinct {path : List Text} (hr : r.table.Distinct)
    (h : r.openTable path = some r') : r'.table.Distinct := by
  rw [openTable] at h
  split at h
  · exact nomatch h
  · obtain ⟨table, htable, rfl⟩ := Option.map_eq_some_iff.mp h
    exact modifyTable_distinct true (fun ht heq => Option.some.inj heq ▸ ht) hr htable

/-- An empty table added to a list is in no object but the list. -/
theorem appendTable_distinct (key : Text) (htable : table.Distinct)
    (h : appendTable key table = some table') : table'.Distinct := by
  rw [appendTable] at h
  split at h
  · obtain rfl := Option.some.inj h
    exact htable.set key (distinctIn_of_ne nofun)
  · obtain rfl := Option.some.inj h
    exact htable.set key (distinctIn_of_ne nofun)
  · exact nomatch h

/-- A header of a list opens a new table in it. -/
theorem openItem_distinct {path : List Text} (hr : r.table.Distinct)
    (h : r.openItem path = some r') : r'.table.Distinct := by
  rw [openItem] at h
  split at h
  · exact nomatch h
  · obtain ⟨table, htable, rfl⟩ := Option.map_eq_some_iff.mp h
    exact modifyTable_distinct true (appendTable_distinct _) hr htable

/-- A pair adds a new key. -/
theorem addPair_distinct {key : List Text} (hr : r.table.Distinct) (hv : DistinctIn v)
    (h : r.addPair key v = some r') : r'.table.Distinct := by
  rw [addPair] at h
  dsimp only at h
  split at h
  · exact nomatch h
  split at h
  · exact nomatch h
  · obtain ⟨table, htable, rfl⟩ := Option.map_eq_some_iff.mp h
    have hdistinct := modifyTable_distinct true (addNew_distinct _ hv) hr htable
    split <;> exact hdistinct

/-- **Each statement keeps the keys distinct.** -/
theorem statement_distinct {t rest : Text} (hr : r.table.Distinct)
    (h : r.statement t = some (r', rest)) : r'.table.Distinct := by
  cases t with
  | nil =>
    obtain ⟨rfl, -⟩ := Prod.mk.inj (Option.some.inj h)
    exact hr
  | cons c cs =>
    rw [statement] at h
    split at h
    · split at h
      · rename_i k v rest' hpair
        obtain ⟨s, hs, heq⟩ := Option.map_eq_some_iff.mp h
        obtain ⟨rfl, -⟩ := Prod.mk.inj heq
        exact addPair_distinct hr ((readsDistinct _).pair hpair) hs
      · exact nomatch h
    split at h
    · dsimp only at h
      split at h
      · split at h
        · split at h
          · obtain ⟨s, hs, heq⟩ := Option.map_eq_some_iff.mp h
            obtain ⟨rfl, -⟩ := Prod.mk.inj heq
            exact openItem_distinct (r := r.settle) hr hs
          · exact nomatch h
        · split at h
          · obtain ⟨s, hs, heq⟩ := Option.map_eq_some_iff.mp h
            obtain ⟨rfl, -⟩ := Prod.mk.inj heq
            exact openTable_distinct (r := r.settle) hr hs
          · exact nomatch h
      · exact nomatch h
    split at h
    · obtain ⟨rfl, -⟩ := Prod.mk.inj (Option.some.inj h)
      exact hr
    · exact nomatch h

/-- The lines of a document make up a table with distinct keys. -/
theorem linesFuel_distinct {fuel : Nat} {t : Text} (hr : r.table.Distinct)
    (h : r.linesFuel fuel t = some table) : table.Distinct := by
  induction fuel generalizing r t with
  | zero => exact nomatch h
  | succ fuel ih =>
    rw [linesFuel] at h
    split at h
    · obtain rfl := Option.some.inj h
      exact hr
    split at h
    · exact ih hr h
    split at h
    · exact nomatch h
    rename_i r' rest hstatement
    have hr' := statement_distinct hr hstatement
    split at h
    · exact nomatch h
    · obtain rfl := Option.some.inj h
      exact hr'
    split at h
    · exact ih hr' h
    · exact nomatch h

end Reader

/-- **The table of a document has distinct keys.** -/
theorem readBytes_distinct {bytes : List UInt8} (h : readBytes bytes = some table) :
    table.Distinct := by
  rw [readBytes] at h
  split at h
  · exact Reader.linesFuel_distinct .nil h
  · exact nomatch h

end KernelJob.Toml

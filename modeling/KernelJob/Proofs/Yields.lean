/-! # What attempts yield

An attempt gives a value or a fault. What is true of it is put together from what is true of its
steps, in the same way for every kind of fault.

* **`Yields r Q E`** — the attempt `r` gives a value with `Q` or a fault with `E`.
* **`Yields.bind`**, **`Yields.map`**, **`Yields.mapM`** — steps one after the other. -/

namespace KernelJob

variable {ε ε' α β : Type} {r : Except ε α} {Q Q' : α → Prop} {E E' : ε → Prop}

/-- **What an attempt yields**: `Q` of its value, or `E` of its fault. -/
def Yields (r : Except ε α) (Q : α → Prop) (E : ε → Prop) : Prop :=
  match r with
  | .ok a => Q a
  | .error e => E e

@[simp] theorem yields_ok (a : α) : Yields (.ok a) Q E ↔ Q a := Iff.rfl

@[simp] theorem yields_pure (a : α) : Yields (pure a) Q E ↔ Q a := Iff.rfl

@[simp] theorem yields_error (e : ε) : Yields (.error e) Q E ↔ E e := Iff.rfl

@[simp] theorem yields_throw (e : ε) : Yields (throw e) Q E ↔ E e := Iff.rfl

namespace Yields

/-- What is yielded may be weakened. -/
theorem mono (h : Yields r Q E) (hQ : ∀ a, Q a → Q' a) (hE : ∀ e, E e → E' e) :
    Yields r Q' E' := by
  cases r with
  | ok a => exact hQ a h
  | error e => exact hE e h

/-- **One attempt after another**: the fault of the first is that of both. -/
theorem bind {Q : β → Prop} {f : α → Except ε β} (h : Yields r Q' E)
    (hf : ∀ a, Q' a → Yields (f a) Q E) : Yields (r >>= f) Q E := by
  cases r with
  | ok a => exact hf a h
  | error e => exact h

/-- What is made of the value of an attempt. -/
theorem map {Q : β → Prop} {f : α → β} (h : Yields r Q' E) (hf : ∀ a, Q' a → Q (f a)) :
    Yields (r.map f) Q E := by
  cases r with
  | ok a => exact hf a h
  | error e => exact h

/-- What is made of a value of which nothing is known. -/
theorem mapped {f : α → β} (h : Yields r (fun _ => True) E) :
    Yields (r.map f) (fun _ => True) E := h.map fun _ _ => trivial

/-- What is made of the fault of an attempt. -/
theorem mapError {E : ε' → Prop} {f : ε → ε'} (h : Yields r Q E') (hf : ∀ e, E' e → E (f e)) :
    Yields (r.mapError f) Q E := by
  cases r with
  | ok a => exact h
  | error e => exact hf e h

/-- **An attempt at every item of a list.** -/
theorem mapM {Q : β → Prop} {f : α → Except ε β} {items : List α}
    (h : ∀ a ∈ items, Yields (f a) Q E) :
    Yields (items.mapM f) (fun bs => ∀ b ∈ bs, Q b) E := by
  induction items with
  | nil => exact fun _ hb => nomatch hb
  | cons a items ih =>
    obtain ⟨ha, hitems⟩ := List.forall_mem_cons.mp h
    rw [List.mapM_cons]
    refine ha.bind fun b hb => (ih hitems).bind fun bs hbs => ?_
    exact List.forall_mem_cons.mpr ⟨hb, hbs⟩

/-- The same where only a fault matters. -/
theorem forM {f : α → Except ε Unit} {items : List α}
    (h : ∀ a ∈ items, Yields (f a) (fun _ => True) E) :
    Yields (items.forM f) (fun _ => True) E := by
  induction items with
  | nil => trivial
  | cons a items ih =>
    obtain ⟨ha, hitems⟩ := List.forall_mem_cons.mp h
    exact ha.bind fun _ _ => ih hitems

/-- **A value carried through a list**: what holds of it is kept by every item. -/
theorem foldlM {Q : β → Prop} {f : β → α → Except ε β} {items : List α}
    (h : ∀ b, ∀ a ∈ items, Q b → Yields (f b a) Q E) {b : β} (hb : Q b) :
    Yields (items.foldlM f b) Q E := by
  induction items generalizing b with
  | nil => exact hb
  | cons a items ih =>
    rw [List.foldlM_cons]
    refine (h b a List.mem_cons_self hb).bind fun c hc => ?_
    exact ih (fun b a ha => h b a (List.mem_cons_of_mem _ ha)) hc

end Yields

end KernelJob

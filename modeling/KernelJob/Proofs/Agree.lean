import KernelJob.Proofs.Elementary
import Mathlib.Data.List.Forall2

/-! # Two runs beside each other

What two runs have in common is stated for both at once: the same action, or two that do alike, is
taken in two worlds.

* **`Action.Agree x y w v Q E`** — from the worlds `w` and `v` the actions `x` and `y` both complete
  and lead to `Q`, or both fail and lead to `E`. It is computed through the structure of the
  actions as `Ensures` is.
* **`Beside`** — two worlds that look the same; their traces and results are related.
* **`Action.Built.agree`** — an action that is built from elementary steps does the same in both. -/

namespace KernelJob

namespace Action

variable {α β γ δ : Type} {w v : World} {Q : α → β → World → World → Prop}
  {E : Failure → Failure → World → World → Prop}

/-- **Two actions agree**: from their worlds both complete and lead to `Q`, or both fail and lead to
`E`. -/
def Agree (x : Action α) (y : Action β) (w v : World) (Q : α → β → World → World → Prop)
    (E : Failure → Failure → World → World → Prop) : Prop :=
  match x w, y v with
  | (.ok a, w'), (.ok b, v') => Q a b w' v'
  | (.error e, w'), (.error f, v') => E e f w' v'
  | _, _ => False

/-- **The same in both**: equal values or failures, in worlds that are related. -/
def Same (P : World → World → Prop) (a b : α) (w v : World) : Prop := a = b ∧ P w v

/-! ## Rules -/

@[simp] theorem agree_pure (a : α) (b : β) :
    Agree (pure a : Action α) (pure b : Action β) w v Q E ↔ Q a b w v := Iff.rfl

@[simp] theorem agree_fail (e f : Failure) :
    Agree (fail e : Action α) (fail f : Action β) w v Q E ↔ E e f w v := Iff.rfl

/-- What follows a value goes on with it. -/
theorem ofExcept_ok_bind (a : α) (f : α → Action β) : ofExcept (.ok a) >>= f = f a := rfl

/-- What follows a failure is not reached. -/
theorem ofExcept_error_bind (e : Failure) (f : α → Action β) :
    ofExcept (.error e) >>= f = fail e := rfl

/-- What follows a look at the world goes on in it. -/
@[simp] theorem agree_world_bind (f : World → Action α) (g : World → Action β) :
    Agree (world >>= f) (world >>= g) w v Q E ↔ Agree (f w) (g v) w v Q E := Iff.rfl

/-- What follows a change goes on in the changed world. -/
@[simp] theorem agree_change_bind (c d : World → World) (f : Unit → Action α)
    (g : Unit → Action β) :
    Agree (change c >>= f) (change d >>= g) w v Q E ↔ Agree (f ()) (g ()) (c w) (d v) Q E :=
  Iff.rfl

/-- What follows lines for a receiver that ignores them goes on after them. -/
theorem agree_emitAll_bind (ts us : List Text) (f : Unit → Action α) (g : Unit → Action β) :
    Agree (emitAll .ignoring ts >>= f) (emitAll .ignoring us >>= g) w v Q E ↔
      Agree (f ()) (g ()) { w with trace := w.trace ++ ts.map .line }
        { v with trace := v.trace ++ us.map .line } Q E := by
  unfold Agree
  rw [bind_apply, bind_apply, emitAll_of_passive fun _ _ => rfl, emitAll_of_passive fun _ _ => rfl]

/-- What follows a change of the handles in use goes on with the changed ones. -/
@[simp] theorem agree_changeHandle_bind (c d : Handle → Handle) (f : Unit → Action α)
    (g : Unit → Action β) :
    Agree (changeHandle c >>= f) (changeHandle d >>= g) w v Q E ↔
      Agree (f ()) (g ()) { w with handle := c w.handle } { v with handle := d v.handle } Q E :=
  Iff.rfl

/-- What agrees may be weakened. -/
theorem Agree.mono {x : Action α} {y : Action β} {Q' : α → β → World → World → Prop}
    {E' : Failure → Failure → World → World → Prop} (h : Agree x y w v Q E)
    (hQ : ∀ a b w' v', Q a b w' v' → Q' a b w' v')
    (hE : ∀ e f w' v', E e f w' v' → E' e f w' v') : Agree x y w v Q' E' := by
  unfold Agree at h ⊢
  rcases hx : x w with ⟨e | a, w'⟩ <;> rcases hy : y v with ⟨f | b, v'⟩ <;> rw [hx, hy] at h
  · exact hE e f w' v' h
  · exact h.elim
  · exact h.elim
  · exact hQ a b w' v' h

/-- What agreeing actions lead to if they complete. -/
theorem Agree.of_ok {x : Action α} {y : Action β} (h : Agree x y w v Q E) {a : α} {b : β}
    (hx : (x w).1 = .ok a) (hy : (y v).1 = .ok b) : Q a b (x w).2 (y v).2 := by
  unfold Agree at h
  rcases hxw : x w with ⟨e | a', w'⟩ <;> rcases hyv : y v with ⟨f | b', v'⟩ <;>
    rw [hxw] at h hx <;> rw [hyv] at h hy
  · cases hx
  · cases hx
  · cases hy
  · obtain rfl := Except.ok.inj hx
    obtain rfl := Except.ok.inj hy
    exact h

/-- **Actions that agree are passed by what they agree on**; their failures end the whole. -/
theorem Agree.bind {x : Action α} {y : Action β} {f : α → Action γ} {g : β → Action δ}
    {Q' : γ → δ → World → World → Prop} (h : Agree x y w v Q E)
    (hf : ∀ a b w' v', Q a b w' v' → Agree (f a) (g b) w' v' Q' E) :
    Agree (x >>= f) (y >>= g) w v Q' E := by
  unfold Agree at h ⊢
  rw [bind_apply, bind_apply]
  rcases hx : x w with ⟨e | a, w'⟩ <;> rcases hy : y v with ⟨e' | b, v'⟩ <;> rw [hx, hy] at h
  · exact h
  · exact h.elim
  · exact h.elim
  · exact hf a b w' v' h

/-- Actions that give the same are passed with what they give. -/
theorem Agree.same_bind {x y : Action α} {f : α → Action γ} {g : α → Action δ}
    {P : World → World → Prop} {Q : γ → δ → World → World → Prop} (h : Agree x y w v (Same P) E)
    (hf : ∀ a w' v', P w' v' → Agree (f a) (g a) w' v' Q E) :
    Agree (x >>= f) (y >>= g) w v Q E := by
  refine h.bind ?_
  rintro a _ w' v' ⟨rfl, h'⟩
  exact hf a w' v' h'

/-- What one of two actions ensures holds as well where both agree. -/
theorem Agree.and_ensures {x : Action α} {y : Action β} {Q' : α → World → Prop}
    {E' : Failure → World → Prop} (h : Agree x y w v Q E) (h' : x.Ensures w Q' E') :
    Agree x y w v (fun a b w' v' => Q a b w' v' ∧ Q' a w')
      (fun e f w' v' => E e f w' v' ∧ E' e w') := by
  unfold Agree Ensures at *
  rcases hx : x w with ⟨e | a, w'⟩ <;> rcases hy : y v with ⟨f | b, v'⟩ <;> rw [hx] at h h' <;>
    rw [hy] at h
  · exact ⟨h, h'⟩
  · exact h.elim
  · exact h.elim
  · exact ⟨h, h'⟩

/-- Attempts agree if the actions do; what follows goes on with the two outcomes. -/
theorem Agree.attempt_bind {x : Action α} {y : Action β} {f : Except Failure α → Action γ}
    {g : Except Failure β → Action δ} {Q' : γ → δ → World → World → Prop}
    {E' : Failure → Failure → World → World → Prop} (h : Agree x y w v Q E)
    (hok : ∀ a b w' v', Q a b w' v' → Agree (f (.ok a)) (g (.ok b)) w' v' Q' E')
    (herror : ∀ e e' w' v', E e e' w' v' → Agree (f (.error e)) (g (.error e')) w' v' Q' E') :
    Agree (attempt x >>= f) (attempt y >>= g) w v Q' E' := by
  unfold Agree at h
  show Agree (f (x w).1) (g (y v).1) (x w).2 (y v).2 Q' E'
  rcases hx : x w with ⟨e | a, w'⟩ <;> rcases hy : y v with ⟨e' | b, v'⟩ <;> rw [hx, hy] at h
  · exact herror e e' w' v' h
  · exact h.elim
  · exact h.elim
  · exact hok a b w' v' h

end Action

/-! ## Worlds beside each other -/

/-- **Two worlds beside each other.** They look the same: they differ at most in their traces, their
limits for lines of output, and the results gathered in them, and these are related. -/
structure Beside (T : List Event → List Event → Prop) (L : Int → Int → Prop)
    (R : UnitResult → UnitResult → Prop) (w v : World) : Prop where
  view : w.view = v.view
  trace : T w.trace v.trace
  limit : L w.handle.config.maxResults v.handle.config.maxResults
  results : List.Forall₂ R w.progress.results v.progress.results

variable {T : List Event → List Event → Prop} {L : Int → Int → Prop}
  {R : UnitResult → UnitResult → Prop} {w v : World} {p q : Powers}

namespace Beside

/-- Another relation between the traces. -/
theorem of_trace {T' : List Event → List Event → Prop} (h : Beside T L R w v)
    (hT : T' w.trace v.trace) : Beside T' L R w v := ⟨h.view, hT, h.limit, h.results⟩

/-- What parts of a run look at is the same. -/
theorem congr {α : Type} (h : Beside T L R w v) (f : World → α) (hf : ∀ w, f w = f w.view) :
    f w = f v := by
  rw [hf w, h.view, ← hf v]

/-- A change that is not seen, in both. -/
theorem unseen (h : Beside T L R w v) {f : World → World} (hf : Unseen f) :
    Beside T L R (f w) (f v) where
  view := by rw [hf.view w, h.view, ← hf.view v]
  trace := by
    rw [hf.trace, hf.trace]
    exact h.trace
  limit := by
    rw [hf.limit, hf.limit]
    exact h.limit
  results := by
    rw [hf.results, hf.results]
    exact h.results

/-- More events, in each of the two. -/
theorem append {T' : List Event → List Event → Prop} (h : Beside T L R w v) {es es' : List Event}
    (hT : T' (w.trace ++ es) (v.trace ++ es')) :
    Beside T' L R { w with trace := w.trace ++ es } { v with trace := v.trace ++ es' } :=
  ⟨h.view, hT, h.limit, h.results⟩

end Beside

/-- **A relation between traces that keeps up** with the steps within some powers: each of them adds
the same event to both traces. -/
def KeepsUp (p : Powers) (T : List Event → List Event → Prop) : Prop :=
  ∀ ⦃es es' e⦄, T es es' → (e.line?.isSome = true → p.speak = true) → T (es ++ [e]) (es' ++ [e])

/-- A relation that keeps up within more powers keeps up within fewer. -/
theorem KeepsUp.mono (h : KeepsUp q T) (hpq : p.Within q) : KeepsUp p T :=
  fun _ _ _ hT he => h hT fun hline => hpq.1 (he hline)

namespace Action

/-- An elementary step is taken in both worlds. -/
theorem agree_perform (hT : KeepsUp p T) (h : Beside T L R w v) {s : Elementary}
    (hs : p.Allows s) :
    Agree (s.perform .ignoring) (s.perform .ignoring) w v (fun _ _ => Beside T L R)
      (fun _ _ _ _ => False) := by
  have hpush : ∀ e : Event, (e.line?.isSome = true → p.speak = true) →
      Beside T L R (w.push e) (v.push e) := fun e he => h.append (hT h.trace he)
  cases s with
  | record r => exact hpush _ fun he => Bool.noConfusion he
  | line t =>
    unfold Agree
    rw [Elementary.perform, emit_apply, emit_apply]
    exact hpush _ fun _ => hs
  | call c => exact hpush _ fun he => Bool.noConfusion he
  | poll poll => exact hpush _ fun he => Bool.noConfusion he
  | cancel =>
    obtain ⟨hview, htrace, hlimit, hresults⟩ := hpush .cancel fun he => Bool.noConfusion he
    exact ⟨congrArg (fun u => { u with cancelled := true }) hview, htrace, hlimit, hresults⟩
  | die said =>
    exact ⟨congrArg (fun u => { u with alive := said }) h.view, h.trace, h.limit, h.results⟩

/-- **An action that is built from elementary steps does the same in worlds beside each other**: it
gives the same value or fails alike, and they stay beside each other. -/
theorem Built.agree {α : Type} {x : Action α} (hx : Built .ignoring p x) (hT : KeepsUp p T)
    (h : Beside T L R w v) :
    Agree x x w v (Same (Beside T L R)) (Same (Beside T L R)) := by
  induction hx generalizing w v with
  | pure a => exact ⟨rfl, h⟩
  | fail e => exact ⟨rfl, h⟩
  | bind _ _ ihx ihf => exact (ihx h).same_bind fun a _ _ h' => ihf a h'
  | attempt _ ih =>
    rw [← bind_pure (Action.attempt _)]
    refine (ih h).attempt_bind ?_ ?_
    · rintro a _ w' v' ⟨rfl, h'⟩
      exact ⟨rfl, h'⟩
    · rintro e _ w' v' ⟨rfl, h'⟩
      exact ⟨rfl, h'⟩
  | @look _ f hview _ ih =>
    rw [agree_world_bind, h.congr f hview]
    exact ih v h
  | change hf => exact ⟨rfl, h.unseen hf⟩
  | step hs =>
    refine (agree_perform hT h hs).mono ?_ ?_
    · exact fun _ _ _ _ h' => ⟨rfl, h'⟩
    · exact fun _ _ _ _ h' => h'.elim

end Action

end KernelJob

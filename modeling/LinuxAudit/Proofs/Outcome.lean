import Mathlib

/-! How computations end. A computation that may fail is taken apart bind by bind; one that also has
a state is described by what holds of its outcome and of the state it leaves, whether it failed or
not. -/

namespace LinuxAudit

theorem except_throw_bind {ε α β : Type} (e : ε) (f : α → Except ε β) :
    (throw e : Except ε α) >>= f = .error e := rfl

theorem except_bind_eq_ok_iff {ε α β : Type} {x : Except ε α} {f : α → Except ε β} {b : β} :
    x >>= f = .ok b ↔ ∃ a, x = .ok a ∧ f a = .ok b := by
  cases x with
  | error e => simp [bind, Except.bind]
  | ok a => simp [bind, Except.bind]

theorem except_guard_eq_ok_iff {ε α : Type} {p : Prop} [Decidable p] {e : ε}
    {x : Except ε α} {a : α} :
    (if p then Except.error e else x) = .ok a ↔ ¬p ∧ x = .ok a := by
  by_cases hp : p
  · simp [hp]
  · simp [hp]

theorem except_toOption_eq_some_iff {ε α : Type} {x : Except ε α} {a : α} :
    x.toOption = some a ↔ x = .ok a := by
  cases x with
  | error e => simp [Except.toOption]
  | ok b => simp [Except.toOption]

/-! ### Computations with a state -/

theorem run_bind {ε σ α β : Type} (task : EStateM ε σ α) (f : α → EStateM ε σ β) (s : σ) :
    (task >>= f).run s = match task.run s with
      | .ok a s' => (f a).run s'
      | .error e s' => .error e s' := rfl

theorem run_get {ε σ : Type} (s : σ) : (get : EStateM ε σ σ).run s = .ok s s := rfl

/-- A computation with a state ends, from some state, in such a way that something holds of its
outcome and of the state it leaves. -/
def Ends {ε σ α : Type} (task : EStateM ε σ α) (s : σ) (post : Except ε α → σ → Prop) : Prop :=
  match task.run s with
  | .ok a s' => post (.ok a) s'
  | .error e s' => post (.error e) s'

/-- The outcome of a computation, and the state that it leaves. -/
def outcomeOf {ε σ α : Type} (task : EStateM ε σ α) (s : σ) : Except ε α × σ :=
  match task.run s with
  | .ok a s' => (.ok a, s')
  | .error e s' => (.error e, s')

section

variable {ε σ α β : Type} {s : σ} {task : EStateM ε σ α} {post post' : Except ε α → σ → Prop}

theorem ends_iff : Ends task s post ↔ post (outcomeOf task s).1 (outcomeOf task s).2 := by
  rw [Ends, outcomeOf]
  cases task.run s with
  | ok a s' => rfl
  | error e s' => rfl

theorem Ends.ok {a : α} {s' : σ} (h : Ends task s post) (hrun : task.run s = .ok a s') :
    post (.ok a) s' := by
  rwa [Ends, hrun] at h

theorem Ends.error {e : ε} {s' : σ} (h : Ends task s post) (hrun : task.run s = .error e s') :
    post (.error e) s' := by
  rwa [Ends, hrun] at h

theorem ends_pure {a : α} : Ends (pure a : EStateM ε σ α) s post ↔ post (.ok a) s := Iff.rfl

theorem ends_throw {e : ε} : Ends (throw e : EStateM ε σ α) s post ↔ post (.error e) s := Iff.rfl

theorem ends_get {post : Except ε σ → σ → Prop} :
    Ends (get : EStateM ε σ σ) s post ↔ post (.ok s) s := Iff.rfl

theorem ends_set {t : σ} {post : Except ε PUnit → σ → Prop} :
    Ends (set t : EStateM ε σ PUnit) s post ↔ post (.ok ⟨⟩) t := Iff.rfl

theorem ends_modify {f : σ → σ} {post : Except ε PUnit → σ → Prop} :
    Ends (modify f : EStateM ε σ PUnit) s post ↔ post (.ok ⟨⟩) (f s) := Iff.rfl

theorem ends_bind {f : α → EStateM ε σ β} {post : Except ε β → σ → Prop} :
    Ends (task >>= f) s post ↔ Ends task s fun result s' =>
      match result with
      | .ok a => Ends (f a) s' post
      | .error e => post (.error e) s' := by
  rw [Ends, Ends, run_bind]
  cases task.run s with
  | ok a s' => rfl
  | error e s' => rfl

theorem ends_ite {p : Prop} [Decidable p] {other : EStateM ε σ α} :
    Ends (if p then task else other) s post ↔
      (p → Ends task s post) ∧ (¬p → Ends other s post) := by
  by_cases hp : p
  · rw [if_pos hp]
    exact ⟨fun h => ⟨fun _ => h, fun hn => absurd hp hn⟩, fun h => h.1 hp⟩
  · rw [if_neg hp]
    exact ⟨fun h => ⟨fun hp' => absurd hp' hp, fun _ => h⟩, fun h => h.2 hp⟩

theorem Ends.mono (h : Ends task s post) (himp : ∀ result s', post result s' → post' result s') :
    Ends task s post' := by
  rw [Ends]
  cases hrun : task.run s with
  | ok a s' => exact himp _ _ (h.ok hrun)
  | error e s' => exact himp _ _ (h.error hrun)

theorem Ends.and (h : Ends task s post) (h' : Ends task s post') :
    Ends task s fun result s' => post result s' ∧ post' result s' :=
  ends_iff.2 ⟨ends_iff.1 h, ends_iff.1 h'⟩

/-- What holds of the state, whatever the outcome, goes on holding if what follows keeps it. -/
theorem Ends.keep {f : α → EStateM ε σ β} {inv : σ → Prop} (h : Ends task s fun _ s' => inv s')
    (hf : ∀ a s', inv s' → Ends (f a) s' fun _ s'' => inv s'') :
    Ends (task >>= f) s fun _ s' => inv s' := by
  refine ends_bind.2 (h.mono ?_)
  intro result s' hs'
  cases result with
  | ok a => exact hf a s' hs'
  | error e => exact hs'

end

end LinuxAudit

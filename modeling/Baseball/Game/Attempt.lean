import Baseball.Game.ScoringError

/-!
# Attempts that leave something behind

A step of scoring may fail half way, and what it had done by then stays done. An `Attempt` is
therefore a state together with the error, if any, that stopped the work on it; nothing is rolled
back.

## Main definitions

* `Attempt` — a state and perhaps an error, with `Attempt.ok` and `Attempt.fail`
* `Attempt.andThen` — go on if nothing went wrong
* `Attempt.forEach` — one step for each element of a list, up to the first error

## Main statements

* `Attempt.forEach_append` — a list can be worked through in two parts
-/

namespace Baseball

/-- A state, and the error that stopped the work on it. -/
@[ext]
structure Attempt (σ : Type) where
  state : σ
  error? : Option ScoringError

namespace Attempt

variable {σ τ α : Type}

/-- Work that was finished. -/
def ok (s : σ) : Attempt σ := ⟨s, none⟩

/-- Work that was stopped. -/
def fail (s : σ) (e : ScoringError) : Attempt σ := ⟨s, some e⟩

/-- Goes on from the state of `a`, unless `a` was stopped. -/
def andThen (a : Attempt σ) (f : σ → Attempt σ) : Attempt σ :=
  match a.error? with
  | none => f a.state
  | some _ => a

/-- Sees the state from further out. -/
def map (f : σ → τ) (a : Attempt σ) : Attempt τ := ⟨f a.state, a.error?⟩

/-- Takes one step for each element of a list, up to the first that is stopped. -/
def forEach (step : σ → α → Attempt σ) (s : σ) : List α → Attempt σ
  | [] => ok s
  | x :: xs => (step s x).andThen (forEach step · xs)

/-- Continues with a value, or stops where there is none. -/
def require (o : Option α) (s : σ) (e : ScoringError) (f : α → Attempt σ) : Attempt σ :=
  match o with
  | some x => f x
  | none => fail s e

@[simp]
theorem error?_ok (s : σ) : (ok s).error? = none := rfl

@[simp]
theorem state_ok (s : σ) : (ok s).state = s := rfl

@[simp]
theorem error?_fail (s : σ) (e : ScoringError) : (fail s e).error? = some e := rfl

@[simp]
theorem state_fail (s : σ) (e : ScoringError) : (fail s e).state = s := rfl

@[simp]
theorem andThen_ok (s : σ) (f : σ → Attempt σ) : (ok s).andThen f = f s := rfl

@[simp]
theorem andThen_fail (s : σ) (e : ScoringError) (f : σ → Attempt σ) :
    (fail s e).andThen f = fail s e := rfl

theorem andThen_assoc (a : Attempt σ) (f g : σ → Attempt σ) :
    (a.andThen f).andThen g = a.andThen fun s => (f s).andThen g := by
  rcases a with ⟨s, _ | e⟩ <;> rfl

@[simp]
theorem andThen_ok_right (a : Attempt σ) : a.andThen ok = a := by
  rcases a with ⟨s, _ | e⟩ <;> rfl

/-- Work is finished exactly when both its parts are. -/
theorem error?_andThen_eq_none {a : Attempt σ} {f : σ → Attempt σ} :
    (a.andThen f).error? = none ↔ a.error? = none ∧ (f a.state).error? = none := by
  rcases a with ⟨s, _ | e⟩ <;> simp [andThen]

@[simp]
theorem map_ok (f : σ → τ) (s : σ) : (ok s).map f = ok (f s) := rfl

@[simp]
theorem error?_map (f : σ → τ) (a : Attempt σ) : (a.map f).error? = a.error? := rfl

/-- Work that is seen from further out may be seen so after each part, or at the end. -/
theorem map_andThen {f : σ → τ} {k : σ → Attempt σ} {k' : τ → Attempt τ}
    (h : ∀ s, k' (f s) = (k s).map f) (a : Attempt σ) :
    (a.map f).andThen k' = (a.andThen k).map f := by
  rcases a with ⟨s, _ | e⟩
  · exact h s
  · rfl

@[simp]
theorem ok_inj {s t : σ} : ok s = ok t ↔ s = t := by simp [ok]

theorem eq_ok_iff {a : Attempt σ} {s : σ} : a = ok s ↔ a.error? = none ∧ a.state = s := by
  rcases a with ⟨t, _ | e⟩ <;> simp [ok]

/-- Work either was finished or was stopped by an error. -/
theorem eq_ok_or_error (a : Attempt σ) : (∃ s, a = ok s) ∨ ∃ e, a.error? = some e := by
  rcases a with ⟨s, _ | e⟩
  · exact .inl ⟨s, rfl⟩
  · exact .inr ⟨e, rfl⟩

/-- Work in two parts is finished by finishing the first and then the second. -/
theorem andThen_eq_ok {a : Attempt σ} {f : σ → Attempt σ} {t : σ} :
    a.andThen f = ok t ↔ ∃ s, a = ok s ∧ f s = ok t := by
  rcases a with ⟨s, _ | e⟩ <;> simp [andThen, ok]

theorem map_eq_ok {f : σ → τ} {a : Attempt σ} {t : τ} :
    a.map f = ok t ↔ ∃ s, a = ok s ∧ f s = t := by
  rcases a with ⟨s, _ | e⟩ <;> simp [map, ok]

/-- An error of two parts is the first part's, or the second's if the first was finished. -/
theorem error?_andThen_eq_some {a : Attempt σ} {f : σ → Attempt σ} {e : ScoringError} :
    (a.andThen f).error? = some e ↔
      a.error? = some e ∨ a.error? = none ∧ (f a.state).error? = some e := by
  rcases a with ⟨s, _ | d⟩ <;> simp [andThen]

theorem require_eq_ok {o : Option α} {s t : σ} {e : ScoringError} {f : α → Attempt σ} :
    require o s e f = ok t ↔ ∃ x, o = some x ∧ f x = ok t := by
  cases o <;> simp [require, fail, ok]

@[simp]
theorem forEach_nil (step : σ → α → Attempt σ) (s : σ) : forEach step s [] = ok s := rfl

@[simp]
theorem forEach_cons (step : σ → α → Attempt σ) (s : σ) (x : α) (xs : List α) :
    forEach step s (x :: xs) = (step s x).andThen (forEach step · xs) := rfl

/-- **A list can be worked through in two parts.** -/
theorem forEach_append (step : σ → α → Attempt σ) (s : σ) (xs ys : List α) :
    forEach step s (xs ++ ys) = (forEach step s xs).andThen (forEach step · ys) := by
  induction xs generalizing s with
  | nil => rfl
  | cons x xs ih => simp [andThen_assoc, ih]

/-- What every step keeps is true of what the steps leave behind, finished or stopped. -/
theorem state_forEach {P : σ → Prop} {step : σ → α → Attempt σ} {s : σ} {xs : List α} (h : P s)
    (hstep : ∀ s, ∀ x ∈ xs, P s → P (step s x).state) : P (forEach step s xs).state := by
  induction xs generalizing s with
  | nil => exact h
  | cons x xs ih =>
    have hx : P (step s x).state := hstep s x List.mem_cons_self h
    rw [forEach_cons, andThen]
    split
    · exact ih hx fun s y hy => hstep s y (List.mem_cons_of_mem x hy)
    · exact hx

/-- The error of several steps is that of one of them, taken where what every step keeps is true. -/
theorem error?_forEach_eq_some {P : σ → Prop} {step : σ → α → Attempt σ} {s : σ} {xs : List α}
    {e : ScoringError} (h : P s) (hstep : ∀ s, ∀ x ∈ xs, P s → P (step s x).state)
    (herr : (forEach step s xs).error? = some e) :
    ∃ s', P s' ∧ ∃ x ∈ xs, (step s' x).error? = some e := by
  induction xs generalizing s with
  | nil => cases herr
  | cons x xs ih =>
    rw [forEach_cons, error?_andThen_eq_some] at herr
    rcases herr with herr | ⟨-, herr⟩
    · exact ⟨s, h, x, List.mem_cons_self, herr⟩
    · obtain ⟨s', hs', y, hy, hey⟩ := ih (hstep s x List.mem_cons_self h)
        (fun s y hy => hstep s y (List.mem_cons_of_mem x hy)) herr
      exact ⟨s', hs', y, List.mem_cons_of_mem x hy, hey⟩

end Attempt

end Baseball

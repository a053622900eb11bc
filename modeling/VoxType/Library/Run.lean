import Mathlib

/-!
# Runs of deterministic machines with outputs

A machine reads one input per step and answers with one output. Whatever a
component leaves to its surroundings is part of the input, so a statement
about every input sequence is a statement about every environment.
-/

namespace Transition

set_option autoImplicit false

universe u v w

structure Machine (σ : Type u) (ι : Type v) (ο : Type w) where
  start : σ
  step : σ → ι → ο × σ

namespace Machine

variable {σ : Type u} {ι : Type v} {ο : Type w} (M : Machine σ ι ο)

def runFrom (s : σ) : List ι → List (ι × ο) × σ
  | [] => ([], s)
  | i :: rest =>
    let next := M.step s i
    let tail := runFrom next.2 rest
    ((i, next.1) :: tail.1, tail.2)

def log (inputs : List ι) : List (ι × ο) := (M.runFrom M.start inputs).1

def state (inputs : List ι) : σ := (M.runFrom M.start inputs).2

theorem runFrom_append (s : σ) (left right : List ι) :
    M.runFrom s (left ++ right) =
      ((M.runFrom s left).1 ++ (M.runFrom (M.runFrom s left).2 right).1,
        (M.runFrom (M.runFrom s left).2 right).2) := by
  induction left generalizing s with
  | nil => rfl
  | cons i left ih => simp only [List.cons_append, runFrom, ih]

/-- A run knows only the steps of its machine. -/
theorem runFrom_congr {M' : Machine σ ι ο} (hStep : M.step = M'.step) (s : σ) (inputs : List ι) :
    M.runFrom s inputs = M'.runFrom s inputs := by
  induction inputs generalizing s with
  | nil => rfl
  | cons i inputs ih => simp only [runFrom, hStep, ih]

@[simp] theorem log_nil : M.log [] = [] := rfl

@[simp] theorem state_nil : M.state [] = M.start := rfl

theorem log_append (left right : List ι) :
    M.log (left ++ right) = M.log left ++ (M.runFrom (M.state left) right).1 := by
  rw [log, runFrom_append]
  rfl

@[simp] theorem log_snoc (inputs : List ι) (i : ι) :
    M.log (inputs ++ [i]) = M.log inputs ++ [(i, (M.step (M.state inputs) i).1)] :=
  M.log_append inputs [i]

@[simp] theorem state_snoc (inputs : List ι) (i : ι) :
    M.state (inputs ++ [i]) = (M.step (M.state inputs) i).2 := by
  rw [state, runFrom_append]
  rfl

theorem log_inputs (inputs : List ι) : (M.log inputs).map Prod.fst = inputs := by
  induction inputs using List.reverseRecOn with
  | nil => rfl
  | append_singleton inputs i ih => rw [log_snoc, List.map_append, ih, List.map_singleton]

theorem length_log (inputs : List ι) : (M.log inputs).length = inputs.length := by
  rw [← List.length_map Prod.fst, log_inputs]

/-- An entry of the log was written by a step from the state its prefix reaches. -/
theorem log_split {inputs : List ι} {pre post : List (ι × ο)} {entry : ι × ο}
    (h : M.log inputs = pre ++ entry :: post) :
    ∃ before i after, inputs = before ++ i :: after ∧ M.log before = pre ∧
      entry = (i, (M.step (M.state before) i).1) := by
  induction inputs using List.reverseRecOn generalizing post with
  | nil => simp at h
  | append_singleton inputs i ih =>
    rw [log_snoc] at h
    rcases List.eq_nil_or_concat post with rfl | ⟨post, last, rfl⟩
    · obtain ⟨hPre, hEntry⟩ := List.append_inj' h rfl
      exact ⟨inputs, i, [], rfl, hPre, (List.cons.inj hEntry).1.symm⟩
    · have hSplit : M.log inputs ++ [(i, (M.step (M.state inputs) i).1)] =
          (pre ++ entry :: post) ++ [last] := by
        rw [h, List.append_assoc, List.cons_append, List.concat_eq_append]
      obtain ⟨before, j, after, hInputs, hLog, hEntry⟩ := ih (List.append_inj' hSplit rfl).1
      refine ⟨before, j, after ++ [i], ?_, hLog, hEntry⟩
      rw [hInputs, List.append_assoc, List.cons_append]

/-- The two ends of an invariant: it holds of the empty log, and one step keeps it. -/
theorem invariant {P : List (ι × ο) → σ → Prop} (hStart : P [] M.start)
    (hStep : ∀ log s i, P log s → P (log ++ [(i, (M.step s i).1)]) (M.step s i).2)
    (inputs : List ι) : P (M.log inputs) (M.state inputs) := by
  induction inputs using List.reverseRecOn with
  | nil => exact hStart
  | append_singleton inputs i ih =>
    rw [log_snoc, state_snoc]
    exact hStep _ _ i ih

/-- Every step of the run meets `C` where it is taken. -/
def Along (C : List (ι × ο) → σ → ι → Prop) (inputs : List ι) : Prop :=
  ∀ before i after, inputs = before ++ i :: after → C (M.log before) (M.state before) i

theorem along_nil (C : List (ι × ο) → σ → ι → Prop) : M.Along C [] := by
  intro before i after h
  simp at h

theorem along_snoc (C : List (ι × ο) → σ → ι → Prop) (inputs : List ι) (i : ι) :
    M.Along C (inputs ++ [i]) ↔ M.Along C inputs ∧ C (M.log inputs) (M.state inputs) i := by
  constructor
  · intro h
    constructor
    · intro before j after hInputs
      exact h before j (after ++ [i]) (by rw [hInputs, List.append_assoc, List.cons_append])
    · exact h inputs i [] rfl
  · rintro ⟨hRun, hLast⟩ before j after hInputs
    rcases List.eq_nil_or_concat after with rfl | ⟨after, k, rfl⟩
    · obtain ⟨rfl, hLastEq⟩ := List.append_inj' hInputs rfl
      cases hLastEq
      exact hLast
    · have hSplit : inputs ++ [i] = (before ++ j :: after) ++ [k] := by
        rw [hInputs, List.append_assoc, List.cons_append, List.concat_eq_append]
      exact hRun before j after (List.append_inj' hSplit rfl).1

theorem Along.earlier {M : Machine σ ι ο} {C : List (ι × ο) → σ → ι → Prop} {left right : List ι}
    (h : M.Along C (left ++ right)) : M.Along C left := by
  intro before i after hLeft
  exact h before i (after ++ right) (by rw [hLeft, List.append_assoc, List.cons_append])

/-- `Along` by recursion on the inputs, to check a given run. -/
def alongFrom (C : List (ι × ο) → σ → ι → Prop) (log : List (ι × ο)) (s : σ) : List ι → Prop
  | [] => True
  | i :: rest => C log s i ∧ alongFrom C (log ++ [(i, (M.step s i).1)]) (M.step s i).2 rest

theorem alongFrom_snoc (C : List (ι × ο) → σ → ι → Prop) (log : List (ι × ο)) (s : σ)
    (inputs : List ι) (i : ι) :
    M.alongFrom C log s (inputs ++ [i]) ↔ M.alongFrom C log s inputs ∧
      C (log ++ (M.runFrom s inputs).1) (M.runFrom s inputs).2 i := by
  induction inputs generalizing log s with
  | nil => simp [alongFrom, runFrom]
  | cons j inputs ih =>
    simp only [List.cons_append, alongFrom, runFrom, ih, List.append_assoc, and_assoc,
      List.nil_append]

theorem along_iff_alongFrom (C : List (ι × ο) → σ → ι → Prop) (inputs : List ι) :
    M.Along C inputs ↔ M.alongFrom C [] M.start inputs := by
  induction inputs using List.reverseRecOn with
  | nil => exact iff_of_true (M.along_nil C) trivial
  | append_singleton inputs i ih =>
    rw [along_snoc, alongFrom_snoc, ih, List.nil_append]
    rfl

instance decidableAlongFrom (C : List (ι × ο) → σ → ι → Prop) [∀ log s i, Decidable (C log s i)] :
    ∀ log s inputs, Decidable (M.alongFrom C log s inputs)
  | _, _, [] => .isTrue trivial
  | log, s, i :: rest =>
    have := decidableAlongFrom C (log ++ [(i, (M.step s i).1)]) (M.step s i).2 rest
    inferInstanceAs (Decidable (C log s i ∧ _))

instance (C : List (ι × ο) → σ → ι → Prop) [∀ log s i, Decidable (C log s i)] (inputs : List ι) :
    Decidable (M.Along C inputs) :=
  decidable_of_iff _ (M.along_iff_alongFrom C inputs).symm

/-- The invariant rule for runs whose steps all meet a condition. -/
theorem invariant_along {C : List (ι × ο) → σ → ι → Prop} {P : List (ι × ο) → σ → Prop}
    (hStart : P [] M.start)
    (hStep : ∀ log s i, P log s → C log s i →
      P (log ++ [(i, (M.step s i).1)]) (M.step s i).2)
    (inputs : List ι) (hAlong : M.Along C inputs) : P (M.log inputs) (M.state inputs) := by
  induction inputs using List.reverseRecOn with
  | nil => exact hStart
  | append_singleton inputs i ih =>
    obtain ⟨hRun, hLast⟩ := (M.along_snoc C inputs i).mp hAlong
    rw [log_snoc, state_snoc]
    exact hStep _ _ i (ih hRun) hLast

section Follows

variable {σ' : Type*} {ι' : Type*} {ο' : Type*}

/-- Seen through `view`, each step of one machine is a step of another, or none. -/
structure Follows (M : Machine σ ι ο) (N : Machine σ' ι' ο') (view : σ → σ')
    (input : ι → Option ι') : Prop where
  start : view M.start = N.start
  stays : ∀ s i, input i = none → view (M.step s i).2 = view s
  moves : ∀ s i j, input i = some j → view (M.step s i).2 = (N.step (view s) j).2

variable {M} {N : Machine σ' ι' ο'} {view : σ → σ'} {input : ι → Option ι'}

theorem Follows.state (h : M.Follows N view input) (inputs : List ι) :
    view (M.state inputs) = N.state (inputs.filterMap input) := by
  induction inputs using List.reverseRecOn with
  | nil => exact h.start
  | append_singleton inputs i ih =>
    rw [state_snoc, List.filterMap_append]
    cases hInput : input i with
    | none =>
      rw [h.stays _ i hInput, List.filterMap_cons_none hInput, List.filterMap_nil, List.append_nil]
      exact ih
    | some j =>
      rw [h.moves _ i j hInput, List.filterMap_cons_some hInput, List.filterMap_nil, state_snoc, ih]

/-- What the outputs tell is the same, where the other steps tell nothing. -/
theorem Follows.told {τ : Type*} (h : M.Follows N view input) {tell : ο → List τ}
    {tell' : ο' → List τ} (hStays : ∀ s i, input i = none → tell (M.step s i).1 = [])
    (hMoves : ∀ s i j, input i = some j → tell (M.step s i).1 = tell' (N.step (view s) j).1)
    (inputs : List ι) :
    (M.log inputs).flatMap (fun entry => tell entry.2) =
      (N.log (inputs.filterMap input)).flatMap fun entry => tell' entry.2 := by
  induction inputs using List.reverseRecOn with
  | nil => rfl
  | append_singleton inputs i ih =>
    rw [log_snoc, List.flatMap_append, List.filterMap_append, ih]
    cases hInput : input i with
    | none =>
      rw [List.filterMap_cons_none hInput, List.filterMap_nil, List.append_nil]
      simp [hStays _ i hInput]
    | some j =>
      rw [List.filterMap_cons_some hInput, List.filterMap_nil, log_snoc, List.flatMap_append,
        ← h.state]
      simp [hMoves _ i j hInput]

theorem Follows.along (h : M.Follows N view input) {C : σ' → ι' → Prop} {inputs : List ι}
    (hAlong : M.Along (fun _ s i => ∀ j, input i = some j → C (view s) j) inputs) :
    N.Along (fun _ s j => C s j) (inputs.filterMap input) := by
  induction inputs using List.reverseRecOn with
  | nil => exact N.along_nil _
  | append_singleton inputs i ih =>
    obtain ⟨hRun, hLast⟩ := (M.along_snoc _ inputs i).mp hAlong
    rw [List.filterMap_append]
    cases hInput : input i with
    | none =>
      rw [List.filterMap_cons_none hInput, List.filterMap_nil, List.append_nil]
      exact ih hRun
    | some j =>
      rw [List.filterMap_cons_some hInput, List.filterMap_nil, along_snoc, ← h.state]
      exact ⟨ih hRun, hLast j hInput⟩

end Follows

/-- A measure never falls along a run exactly where no step of it lets it fall. -/
theorem never_falls_iff {α : Type*} [Preorder α] (measure : σ → α) (inputs : List ι) :
    (∀ earlier more rest, inputs = earlier ++ more ++ rest →
      measure (M.state earlier) ≤ measure (M.state (earlier ++ more))) ↔
      M.Along (fun _ s i => measure s ≤ measure (M.step s i).2) inputs := by
  constructor
  · intro h earlier i rest hInputs
    have hStep := h earlier [i] rest (by rw [hInputs, List.append_assoc, List.singleton_append])
    rwa [state_snoc] at hStep
  · intro hAlong earlier more rest hInputs
    induction more using List.reverseRecOn generalizing rest with
    | nil => rw [List.append_nil]
    | append_singleton more i ih =>
      have hBefore : inputs = earlier ++ more ++ i :: rest := by
        rw [hInputs, ← List.append_assoc, List.append_assoc, List.singleton_append]
      rw [← List.append_assoc, state_snoc]
      exact (ih _ hBefore).trans (hAlong _ i rest hBefore)

end Machine

end Transition

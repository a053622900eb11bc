import Mathlib

/-!
# Fallible calls on a state, with a trace

A call reads and changes a state, writes a trace of its effects and may fail. A
failing call keeps the state and the trace it has reached, as a method on a
mutable receiver that returns early does.
-/

namespace Effects

set_option autoImplicit false

universe u

structure Outcome (σ ε τ α : Type u) where
  result : Except ε α
  state : σ
  trace : List τ

structure Call (σ ε τ α : Type u) where
  run : σ → Outcome σ ε τ α

variable {σ ε ε' τ α β : Type u}

/-- Effects that came before. -/
def Outcome.after (o : Outcome σ ε τ α) (earlier : List τ) : Outcome σ ε τ α :=
  { o with trace := earlier ++ o.trace }

namespace Call

def bind (x : Call σ ε τ α) (f : α → Call σ ε τ β) : Call σ ε τ β where
  run s :=
    match x.run s with
    | ⟨.error error, state, trace⟩ => ⟨.error error, state, trace⟩
    | ⟨.ok value, state, trace⟩ => ((f value).run state).after trace

instance : Monad (Call σ ε τ) where
  pure value := ⟨fun s => ⟨.ok value, s, []⟩⟩
  bind := Call.bind

def throw (error : ε) : Call σ ε τ α := ⟨fun s => ⟨.error error, s, []⟩⟩

def get : Call σ ε τ σ := ⟨fun s => ⟨.ok s, s, []⟩⟩

def modify (f : σ → σ) : Call σ ε τ PUnit := ⟨fun s => ⟨.ok ⟨⟩, f s, []⟩⟩

def emit (effect : τ) : Call σ ε τ PUnit := ⟨fun s => ⟨.ok ⟨⟩, s, [effect]⟩⟩

/-- `map_err` followed by `?` -/
def mapError (f : ε → ε') (x : Call σ ε τ α) : Call σ ε' τ α where
  run s :=
    { result := (x.run s).result.mapError f, state := (x.run s).state, trace := (x.run s).trace }

/-- The result as a value, for a caller that inspects or drops it. -/
def attempt (x : Call σ ε τ α) : Call σ ε' τ (Except ε α) where
  run s := { result := .ok (x.run s).result, state := (x.run s).state, trace := (x.run s).trace }

/-- A result that is already there. -/
def ofExcept (result : Except ε α) : Call σ ε τ α := ⟨fun s => ⟨result, s, []⟩⟩

theorem bind_ok {x : Call σ ε τ α} {s s' : σ} {value : α} {trace : List τ}
    (h : x.run s = ⟨.ok value, s', trace⟩) (f : α → Call σ ε τ β) :
    (x >>= f).run s = ((f value).run s').after trace := by
  change (Call.bind x f).run s = _
  simp only [Call.bind, h]

theorem bind_error {x : Call σ ε τ α} {s s' : σ} {error : ε} {trace : List τ}
    (h : x.run s = ⟨.error error, s', trace⟩) (f : α → Call σ ε τ β) :
    (x >>= f).run s = ⟨.error error, s', trace⟩ := by
  change (Call.bind x f).run s = _
  simp only [Call.bind, h]

/-- A success of a composed call is one of both its parts. -/
theorem ok_of_bind {x : Call σ ε τ α} {f : α → Call σ ε τ β} {s : σ} {value : β}
    (h : ((x >>= f).run s).result = .ok value) :
    ∃ first, (x.run s).result = .ok first ∧
      ((f first).run (x.run s).state).result = .ok value := by
  cases hRun : x.run s with
  | mk result s' trace =>
    cases result with
    | error error => rw [bind_error hRun] at h; cases h
    | ok first => rw [bind_ok hRun] at h; exact ⟨first, rfl, h⟩

theorem state_bind_ok {x : Call σ ε τ α} {s : σ} {value : α} (h : (x.run s).result = .ok value)
    (f : α → Call σ ε τ β) : ((x >>= f).run s).state = ((f value).run (x.run s).state).state := by
  cases hRun : x.run s with
  | mk result s' trace =>
    rw [hRun] at h
    cases h
    rw [bind_ok hRun]
    rfl

theorem state_bind_error {x : Call σ ε τ α} {s : σ} {error : ε}
    (h : (x.run s).result = .error error) (f : α → Call σ ε τ β) :
    ((x >>= f).run s).state = (x.run s).state := by
  cases hRun : x.run s with
  | mk result s' trace =>
    rw [hRun] at h
    cases h
    rw [bind_error hRun]

theorem state_bind_pure (x : Call σ ε τ α) (g : α → β) (s : σ) :
    ((x >>= fun value => pure (g value)).run s).state = (x.run s).state := by
  cases hResult : (x.run s).result with
  | error error => exact state_bind_error hResult _
  | ok value => exact state_bind_ok hResult _

@[simp] theorem after_mk (result : Except ε α) (s : σ) (trace earlier : List τ) :
    (Outcome.mk result s trace).after earlier = ⟨result, s, earlier ++ trace⟩ := rfl

@[simp] theorem after_nil (o : Outcome σ ε τ α) : o.after [] = o := rfl

@[simp] theorem after_after (o : Outcome σ ε τ α) (first second : List τ) :
    (o.after second).after first = o.after (first ++ second) := by
  rw [Outcome.after, Outcome.after, Outcome.after, List.append_assoc]

@[simp] theorem pure_run (value : α) (s : σ) :
    (pure value : Call σ ε τ α).run s = ⟨.ok value, s, []⟩ := rfl

@[simp] theorem throw_run (error : ε) (s : σ) :
    (throw error : Call σ ε τ α).run s = ⟨.error error, s, []⟩ := rfl

@[simp] theorem modify_run (g : σ → σ) (s : σ) :
    (modify g : Call σ ε τ PUnit).run s = ⟨.ok ⟨⟩, g s, []⟩ := rfl

@[simp] theorem emit_run (effect : τ) (s : σ) :
    (emit effect : Call σ ε τ PUnit).run s = ⟨.ok ⟨⟩, s, [effect]⟩ := rfl

@[simp] theorem ofExcept_run (result : Except ε α) (s : σ) :
    (ofExcept result : Call σ ε τ α).run s = ⟨result, s, []⟩ := rfl

@[simp] theorem ofExcept_ok_bind (value : α) (f : α → Call σ ε τ β) (s : σ) :
    (ofExcept (.ok value) >>= f).run s = (f value).run s := rfl

@[simp] theorem ofExcept_error_bind (error : ε) (f : α → Call σ ε τ β) (s : σ) :
    (ofExcept (.error error) >>= f).run s = ⟨.error error, s, []⟩ := rfl

@[simp] theorem throw_bind (error : ε) (f : α → Call σ ε τ β) (s : σ) :
    ((throw error : Call σ ε τ α) >>= f).run s = ⟨.error error, s, []⟩ := rfl

@[simp] theorem pure_bind_run (value : α) (f : α → Call σ ε τ β) (s : σ) :
    ((pure value : Call σ ε τ α) >>= f).run s = (f value).run s := rfl

@[simp] theorem get_bind (f : σ → Call σ ε τ β) (s : σ) :
    ((get : Call σ ε τ σ) >>= f).run s = (f s).run s := rfl

@[simp] theorem modify_bind (g : σ → σ) (f : PUnit → Call σ ε τ β) (s : σ) :
    ((modify g : Call σ ε τ PUnit) >>= f).run s = (f ⟨⟩).run (g s) := rfl

@[simp] theorem emit_bind (effect : τ) (f : PUnit → Call σ ε τ β) (s : σ) :
    ((emit effect : Call σ ε τ PUnit) >>= f).run s = ((f ⟨⟩).run s).after [effect] := rfl

@[simp] theorem attempt_bind (x : Call σ ε τ α) (f : Except ε α → Call σ ε' τ β) (s : σ) :
    (attempt x >>= f).run s =
      ((f (x.run s).result).run (x.run s).state).after (x.run s).trace := rfl

theorem bind_assoc {γ : Type u} (x : Call σ ε τ α) (f : α → Call σ ε τ β)
    (g : β → Call σ ε τ γ) : x >>= f >>= g = x >>= fun value => f value >>= g := by
  have hRun : ∀ s, (x >>= f >>= g).run s = (x >>= fun value => f value >>= g).run s := by
    intro s
    cases hx : x.run s with
    | mk result s' trace =>
      cases result with
      | error error => rw [bind_error hx, bind_error (bind_error hx f)]
      | ok value =>
        rw [bind_ok hx]
        cases hf : (f value).run s' with
        | mk result' s'' trace' =>
          have hFirst : (x >>= f).run s = ⟨result', s'', trace ++ trace'⟩ := by
            rw [bind_ok hx, hf, after_mk]
          cases result' with
          | error error => rw [bind_error hFirst, bind_error hf, after_mk]
          | ok second => rw [bind_ok hFirst, bind_ok hf, after_after]
  exact congrArg Call.mk (funext hRun)

/-- Every outcome of the call is related to the state it started from. -/
def Within (R : σ → List τ → σ → Prop) (x : Call σ ε τ α) : Prop :=
  ∀ s, R s (x.run s).trace (x.run s).state

/-- Relations that hold of no effect and compose along traces. -/
structure Composes (R : σ → List τ → σ → Prop) : Prop where
  refl : ∀ s, R s [] s
  trans : ∀ {s s' s'' : σ} {first second : List τ},
    R s first s' → R s' second s'' → R s (first ++ second) s''

namespace Within

variable {R : σ → List τ → σ → Prop}

theorem pure (hR : Composes R) (value : α) : Within R (Pure.pure value : Call σ ε τ α) :=
  fun s => hR.refl s

theorem throw (hR : Composes R) (error : ε) : Within R (Call.throw error : Call σ ε τ α) :=
  fun s => hR.refl s

theorem get (hR : Composes R) : Within R (Call.get : Call σ ε τ σ) := fun s => hR.refl s

theorem ofExcept (hR : Composes R) (result : Except ε α) :
    Within R (Call.ofExcept result : Call σ ε τ α) := fun s => hR.refl s

/-- The second call counts only where the first one succeeds. -/
theorem bind_at (hR : Composes R) {x : Call σ ε τ α} {f : α → Call σ ε τ β} {s : σ}
    (hx : R s (x.run s).trace (x.run s).state)
    (hf : ∀ value, (x.run s).result = .ok value →
      R (x.run s).state ((f value).run (x.run s).state).trace
        ((f value).run (x.run s).state).state) :
    R s ((x >>= f).run s).trace ((x >>= f).run s).state := by
  cases hRun : x.run s with
  | mk result s' trace =>
    rw [hRun] at hx hf
    cases result with
    | error error => rw [bind_error hRun]; exact hx
    | ok value => rw [bind_ok hRun]; exact hR.trans hx (hf value rfl)

theorem bind (hR : Composes R) {x : Call σ ε τ α} {f : α → Call σ ε τ β} (hx : Within R x)
    (hf : ∀ value, Within R (f value)) : Within R (x >>= f) :=
  fun s => bind_at hR (hx s) fun value _ => hf value _

/-- A first call under a stronger relation, which also settles what happens when it fails. -/
theorem bind_of {S : σ → List τ → σ → Prop} (hError : ∀ {s s' trace}, R s trace s' → S s trace s')
    (hThen : ∀ {s s' s'' first second}, R s first s' → S s' second s'' → S s (first ++ second) s'')
    {x : Call σ ε τ α} {f : α → Call σ ε τ β} (hx : Within R x) (hf : ∀ value, Within S (f value)) :
    Within S (x >>= f) := by
  intro s
  have hFirst := hx s
  cases hRun : x.run s with
  | mk result s' trace =>
    rw [hRun] at hFirst
    cases result with
    | error error => rw [bind_error hRun]; exact hError hFirst
    | ok value => rw [bind_ok hRun]; exact hThen hFirst (hf value s')

theorem attempt {x : Call σ ε τ α} (hx : Within R x) :
    Within R (Call.attempt x : Call σ ε' τ (Except ε α)) := fun s => hx s

theorem mapError {x : Call σ ε τ α} (f : ε → ε') (hx : Within R x) :
    Within R (Call.mapError f x) := fun s => hx s

end Within

/-- A property that the call keeps where it succeeds. -/
def Keeps (Q : σ → Prop) (x : Call σ ε τ α) : Prop :=
  ∀ s value, Q s → (x.run s).result = .ok value → Q (x.run s).state

namespace Keeps

variable {Q : σ → Prop}

theorem pure (value : α) : Keeps Q (Pure.pure value : Call σ ε τ α) := fun _ _ hQ _ => hQ

theorem throw (error : ε) : Keeps Q (Call.throw error : Call σ ε τ α) := by
  intro s value _ hOk
  cases hOk

theorem bind {x : Call σ ε τ α} {f : α → Call σ ε τ β} (hx : Keeps Q x)
    (hf : ∀ value, Keeps Q (f value)) : Keeps Q (x >>= f) := by
  intro s value hQ hOk
  have hFirst := hx s
  cases hRun : x.run s with
  | mk result s' trace =>
    rw [hRun] at hFirst
    cases result with
    | error error =>
      rw [bind_error hRun] at hOk
      cases hOk
    | ok first =>
      rw [bind_ok hRun] at hOk ⊢
      exact hf first s' value (hFirst first hQ rfl) hOk

end Keeps

/-- What the call returns where it succeeds, from any state. -/
def Yields (P : α → Prop) (x : Call σ ε τ α) : Prop :=
  ∀ s value, (x.run s).result = .ok value → P value

namespace Yields

variable {P : α → Prop} {Q : β → Prop}

theorem pure {value : α} (h : P value) : Yields P (Pure.pure value : Call σ ε τ α) := by
  rintro s _ ⟨rfl⟩
  exact h

theorem throw (error : ε) : Yields P (Call.throw error : Call σ ε τ α) := by
  rintro s _ ⟨⟩

theorem ofExcept {result : Except ε α} (h : ∀ value, result = .ok value → P value) :
    Yields P (Call.ofExcept result : Call σ ε τ α) := fun _ => h

theorem bind {x : Call σ ε τ α} {f : α → Call σ ε τ β} (hx : Yields P x)
    (hf : ∀ value, P value → Yields Q (f value)) : Yields Q (x >>= f) := by
  intro s value hOk
  obtain ⟨first, hFirst, hSecond⟩ := ok_of_bind hOk
  exact hf first (hx s first hFirst) _ value hSecond

/-- Where the first value says nothing about the second. -/
theorem last (x : Call σ ε τ α) {f : α → Call σ ε τ β} (hf : ∀ value, Yields Q (f value)) :
    Yields Q (x >>= f) := by
  intro s value hOk
  obtain ⟨first, _, hSecond⟩ := ok_of_bind hOk
  exact hf first _ value hSecond

theorem attempt {x : Call σ ε τ α} (hx : Yields P x) :
    Yields (fun result => ∀ value, result = .ok value → P value)
      (Call.attempt x : Call σ ε' τ (Except ε α)) := by
  rintro s _ ⟨rfl⟩
  exact hx s

end Yields

end Call

end Effects

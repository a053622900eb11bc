import Mathlib

/-!
# Sequences of fallible checks

What is known of a value once every check of a sequence has passed.
-/

namespace Checks

set_option autoImplicit false

universe u v w

variable {α : Type u} {β : Type v} {ε : Type w}

def require (valid : Bool) (error : ε) : Except ε PUnit :=
  if valid then .ok ⟨⟩ else .error error

/-- The checks of a list of values, in order. -/
def each (check : α → Except ε PUnit) : List α → Except ε PUnit
  | [] => .ok ⟨⟩
  | value :: rest =>
    match check value with
    | .error error => .error error
    | .ok _ => each check rest

@[simp] theorem require_ok {valid : Bool} {error : ε} :
    require valid error = .ok ⟨⟩ ↔ valid = true := by
  cases valid <;> simp [require]

@[simp] theorem bind_ok {ε : Type} {α β : Type} {x : Except ε α} {f : α → Except ε β} {b : β} :
    (x >>= f) = .ok b ↔ ∃ a, x = .ok a ∧ f a = .ok b := by
  cases x with
  | error error => exact ⟨nofun, nofun⟩
  | ok a => exact ⟨fun h => ⟨a, rfl, h⟩, fun ⟨_, hValue, h⟩ => by cases hValue; exact h⟩

theorem bind_error {ε : Type} {α β : Type} {x : Except ε α} {f : α → Except ε β} {e : ε} :
    (x >>= f) = .error e ↔ x = .error e ∨ ∃ a, x = .ok a ∧ f a = .error e := by
  cases x with
  | error error =>
    change (Except.error error : Except ε β) = .error e ↔ _
    simp only [Except.error.injEq, reduceCtorEq, false_and, exists_false, or_false]
  | ok a =>
    constructor
    · exact fun h => .inr ⟨a, rfl, h⟩
    · rintro (hFirst | ⟨_, hValue, h⟩)
      · cases hFirst
      · cases hValue
        exact h

theorem require_error {valid : Bool} {error e : ε} :
    require valid error = .error e ↔ valid = false ∧ error = e := by
  cases valid <;> simp [require]

theorem each_error {check : α → Except ε PUnit} {values : List α} {e : ε}
    (h : each check values = .error e) : ∃ value ∈ values, check value = .error e := by
  induction values with
  | nil => cases h
  | cons value rest ih =>
    rw [each] at h
    split at h
    · rename_i error hError
      cases h
      exact ⟨value, List.mem_cons_self, hError⟩
    · obtain ⟨other, hMem, hOther⟩ := ih h
      exact ⟨other, List.mem_cons_of_mem _ hMem, hOther⟩

theorem each_ok {check : α → Except ε PUnit} {values : List α} :
    each check values = .ok ⟨⟩ ↔ ∀ value ∈ values, check value = .ok ⟨⟩ := by
  induction values with
  | nil => simp [each]
  | cons value rest ih =>
    rw [each, List.forall_mem_cons]
    cases check value with
    | error error => simp
    | ok _ => simpa using ih

theorem mapM_ok {ε : Type} {α β : Type} {f : α → Except ε β} {values : List α}
    {results : List β} (h : values.mapM f = .ok results) :
    List.Forall₂ (fun value result => f value = .ok result) values results := by
  induction values generalizing results with
  | nil =>
    cases h
    exact .nil
  | cons value rest ih =>
    rw [List.mapM_cons, bind_ok] at h
    obtain ⟨first, hFirst, h⟩ := h
    obtain ⟨others, hOthers, hSame⟩ := bind_ok.mp h
    cases hSame
    exact .cons hFirst (ih hOthers)

theorem mapM_some {ε : Type} {α β : Type} {f : α → Except ε β} {values : List α}
    (h : ∀ value ∈ values, ∃ result, f value = .ok result) :
    ∃ results, values.mapM f = .ok results := by
  induction values with
  | nil => exact ⟨[], rfl⟩
  | cons value rest ih =>
    obtain ⟨first, hFirst⟩ := h value List.mem_cons_self
    obtain ⟨others, hOthers⟩ := ih fun other hMem => h other (List.mem_cons_of_mem _ hMem)
    refine ⟨first :: others, ?_⟩
    rw [List.mapM_cons, hFirst, bind_ok]
    exact ⟨first, rfl, bind_ok.mpr ⟨others, hOthers, rfl⟩⟩

end Checks

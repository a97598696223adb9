import Mathlib.Data.List.Basic

/-!
# Spellings

A text is a sequence of tokens: symbols that stand for themselves, and numbers that can be spelled
in more than one way. Which spellings of a number are allowed is a relation that is given.
-/

namespace CheetahDex.Lib

open List

/-- Symbols of a text, or a number in it. -/
inductive Token (σ ν : Type) where
  | raw (symbols : List σ)
  | number (n : ν)

variable {σ ν : Type} {P Q : ν → List σ → Prop} {xs ys : List (Token σ ν)} {s : List σ}

/-- The symbols spell the text, each of its numbers as `P` allows. -/
def Spells (P : ν → List σ → Prop) : List (Token σ ν) → List σ → Prop
  | [], s => s = []
  | .raw r :: ts, s => ∃ s', s = r ++ s' ∧ Spells P ts s'
  | .number n :: ts, s => ∃ r s', P n r ∧ s = r ++ s' ∧ Spells P ts s'

variable (write : ν → List σ)

/-- The text with each number written by a function. -/
def spell (ts : List (Token σ ν)) : List σ :=
  ts.flatMap fun
    | .raw r => r
    | .number n => write n

@[simp]
theorem spells_nil : Spells P [] s ↔ s = [] := Iff.rfl

@[simp]
theorem spells_raw {r : List σ} : Spells P [.raw r] s ↔ s = r := by simp [Spells]

@[simp]
theorem spells_number {n : ν} : Spells P [.number n] s ↔ P n s := by simp [Spells]

/-- A text is spelled part by part. -/
theorem spells_append : Spells P (xs ++ ys) s ↔
    ∃ s₁ s₂, s = s₁ ++ s₂ ∧ Spells P xs s₁ ∧ Spells P ys s₂ := by
  induction xs generalizing s with
  | nil => simp
  | cons t xs ih =>
    cases t with
    | raw r =>
      constructor
      · rintro ⟨s', rfl, h⟩
        obtain ⟨s₁, s₂, rfl, hx, hy⟩ := ih.mp h
        exact ⟨r ++ s₁, s₂, (append_assoc ..).symm, ⟨s₁, rfl, hx⟩, hy⟩
      · rintro ⟨_, s₂, rfl, ⟨s₁, rfl, hx⟩, hy⟩
        exact ⟨s₁ ++ s₂, append_assoc .., ih.mpr ⟨s₁, s₂, rfl, hx, hy⟩⟩
    | number n =>
      constructor
      · rintro ⟨r, s', hr, rfl, h⟩
        obtain ⟨s₁, s₂, rfl, hx, hy⟩ := ih.mp h
        exact ⟨r ++ s₁, s₂, (append_assoc ..).symm, ⟨r, s₁, hr, rfl, hx⟩, hy⟩
      · rintro ⟨_, s₂, rfl, ⟨r, s₁, hr, rfl, hx⟩, hy⟩
        exact ⟨r, s₁ ++ s₂, hr, append_assoc .., ih.mpr ⟨s₁, s₂, rfl, hx, hy⟩⟩

theorem spells_raw_cons {r : List σ} :
    Spells P (.raw r :: xs) s ↔ ∃ s', s = r ++ s' ∧ Spells P xs s' := Iff.rfl

theorem spells_number_cons {n : ν} :
    Spells P (.number n :: xs) s ↔ ∃ r s', P n r ∧ s = r ++ s' ∧ Spells P xs s' := Iff.rfl

theorem Spells.mono (hPQ : ∀ n r, P n r → Q n r) (h : Spells P xs s) : Spells Q xs s := by
  induction xs generalizing s with
  | nil => exact h
  | cons t xs ih =>
    cases t with
    | raw r =>
      obtain ⟨s', rfl, h⟩ := h
      exact ⟨s', rfl, ih h⟩
    | number n =>
      obtain ⟨r, s', hr, rfl, h⟩ := h
      exact ⟨r, s', hPQ n r hr, rfl, ih h⟩

@[simp]
theorem spell_nil : spell write [] = [] := rfl

@[simp]
theorem spell_raw_cons (r : List σ) : spell write (.raw r :: xs) = r ++ spell write xs := rfl

@[simp]
theorem spell_number_cons (n : ν) : spell write (.number n :: xs) = write n ++ spell write xs := rfl

@[simp]
theorem spell_append :
    spell write (xs ++ ys) = spell write xs ++ spell write ys := flatMap_append ..

/-- If each number has one spelling, the text has one. -/
theorem spells_eq : Spells (fun n r => r = write n) xs s ↔ s = spell write xs := by
  induction xs generalizing s with
  | nil => exact Iff.rfl
  | cons t xs ih =>
    cases t with
    | raw r => simp [spells_raw_cons, ih]
    | number n => simp [spells_number_cons, ih]

section shortest

variable {write : ν → List σ}
  (hsh : ∀ n r, P n r → (write n).length ≤ r.length ∧ (r.length ≤ (write n).length → r = write n))

include hsh

/-- If a function writes every number in the shortest way, it writes every text so, and the shortest
spelling of a text is the one it writes. -/
theorem Spells.shortest (h : Spells P xs s) : (spell write xs).length ≤ s.length ∧
    (s.length ≤ (spell write xs).length → s = spell write xs) := by
  induction xs generalizing s with
  | nil => simp [spells_nil.mp h]
  | cons t xs ih =>
    cases t with
    | raw r =>
      obtain ⟨s', rfl, h⟩ := h
      obtain ⟨hle, heq⟩ := ih h
      simp only [spell_raw_cons, length_append, append_cancel_left_eq]
      exact ⟨by omega, fun hlen => heq (by omega)⟩
    | number n =>
      obtain ⟨r, s', hr, rfl, h⟩ := h
      obtain ⟨hle, heq⟩ := ih h
      obtain ⟨hnle, hneq⟩ := hsh n r hr
      simp only [spell_number_cons, length_append]
      refine ⟨by omega, fun hlen => ?_⟩
      rw [hneq (by omega), heq (by omega)]

end shortest

end CheetahDex.Lib

import Mathlib.Logic.Equiv.Basic
import Mathlib.Logic.Function.Basic

/-! Resources that are made once, held in one place at a time, and released at most once. -/

namespace Libriscv.Foundations

variable {P R : Type}

/-- What was made is released or held somewhere, and what is held is held once and not released. -/
structure Accounted (own : P → Option R) (made released : R → Prop) : Prop where
  unique : ∀ p q r, own p = some r → own q = some r → p = q
  accounted : ∀ r, made r ↔ released r ∨ ∃ p, own p = some r
  apart : ∀ p r, own p = some r → ¬ released r

namespace Accounted

variable {own own' : P → Option R} {made released : R → Prop}

lemma made_of_held (h : Accounted own made released) {p : P} {r : R} (hp : own p = some r) :
    made r := (h.accounted r).mpr (.inr ⟨p, hp⟩)

lemma held_of_made (h : Accounted own made released) {r : R} (hm : made r) (hr : ¬ released r) :
    ∃ p, own p = some r := ((h.accounted r).mp hm).resolve_left hr

lemma permute (h : Accounted own made released) (π : Equiv.Perm P)
    (hπ : ∀ p, own' p = own (π p)) : Accounted own' made released where
  unique p q r hp hq := π.injective (h.unique _ _ r ((hπ p).symm.trans hp) ((hπ q).symm.trans hq))
  accounted r := by
    rw [h.accounted r]
    refine or_congr_right ⟨?_, ?_⟩
    · rintro ⟨p, hp⟩
      exact ⟨π.symm p, by rw [hπ, π.apply_symm_apply, hp]⟩
    · rintro ⟨p, hp⟩
      exact ⟨π p, (hπ p).symm.trans hp⟩
  apart p r hp := h.apart (π p) r ((hπ p).symm.trans hp)

variable [DecidableEq P]

lemma acquire (h : Accounted own made released) {p : P} {r : R} (hp : own p = none)
    (hr : ¬ made r) :
    Accounted (Function.update own p (some r)) (fun x => made x ∨ x = r) released := by
  have hne {q : P} {x : R} (hq : Function.update own p (some r) q = some x) :
      q = p ∧ x = r ∨ q ≠ p ∧ own q = some x := by
    by_cases hqp : q = p
    · subst hqp
      rw [Function.update_self] at hq
      exact .inl ⟨rfl, (Option.some.inj hq).symm⟩
    · rw [Function.update_of_ne hqp] at hq
      exact .inr ⟨hqp, hq⟩
  constructor
  case unique =>
    intro a b x ha hb
    rcases hne ha with ⟨hap, rfl⟩ | ⟨_, ha'⟩ <;> rcases hne hb with ⟨hbp, hx⟩ | ⟨_, hb'⟩
    · exact hap.trans hbp.symm
    · exact absurd (h.made_of_held hb') hr
    · exact absurd (hx ▸ h.made_of_held ha') hr
    · exact h.unique a b x ha' hb'
  case accounted =>
    intro x
    rw [h.accounted x]
    refine ⟨?_, ?_⟩
    · rintro ((hx | ⟨q, hq⟩) | rfl)
      · exact .inl hx
      · have hqp : q ≠ p := by
          rintro rfl
          rw [hp] at hq
          cases hq
        exact .inr ⟨q, by rw [Function.update_of_ne hqp, hq]⟩
      · exact .inr ⟨p, Function.update_self ..⟩
    · rintro (hx | ⟨q, hq⟩)
      · exact .inl (.inl hx)
      · rcases hne hq with ⟨_, rfl⟩ | ⟨_, hq⟩
        · exact .inr rfl
        · exact .inl (.inr ⟨q, hq⟩)
  case apart =>
    intro q x hq hx
    rcases hne hq with ⟨_, rfl⟩ | ⟨_, hq⟩
    · exact hr ((h.accounted x).mpr (.inl hx))
    · exact h.apart q x hq hx

lemma release (h : Accounted own made released) {p : P} {r : R} (hp : own p = some r) :
    Accounted (Function.update own p none) made (fun x => released x ∨ x = r) := by
  have hne {q : P} {x : R} (hq : Function.update own p none q = some x) :
      q ≠ p ∧ own q = some x := by
    by_cases hqp : q = p
    · subst hqp
      rw [Function.update_self] at hq
      cases hq
    · rw [Function.update_of_ne hqp] at hq
      exact ⟨hqp, hq⟩
  constructor
  case unique => exact fun a b x ha hb => h.unique a b x (hne ha).2 (hne hb).2
  case accounted =>
    intro x
    rw [h.accounted x]
    refine ⟨?_, ?_⟩
    · rintro (hx | ⟨q, hq⟩)
      · exact .inl (.inl hx)
      · by_cases hqp : q = p
        · subst hqp
          exact .inl (.inr (Option.some.inj (hq.symm.trans hp)))
        · exact .inr ⟨q, by rw [Function.update_of_ne hqp, hq]⟩
    · rintro ((hx | rfl) | ⟨q, hq⟩)
      · exact .inl hx
      · exact .inr ⟨p, hp⟩
      · exact .inr ⟨q, (hne hq).2⟩
  case apart =>
    rintro q x hq (hx | rfl)
    · exact h.apart q x (hne hq).2 hx
    · exact (hne hq).1 (h.unique q p x (hne hq).2 hp)

end Accounted

end Libriscv.Foundations

import Mathlib.Data.List.Infix
import Mathlib.Data.List.Induction

/-! Runs of partial transition functions, and properties of all their states and steps. -/

namespace Libriscv.Foundations

variable {σ α : Type}

def run (step : σ → α → Option σ) : σ → List α → Option σ
  | s, [] => some s
  | s, a :: actions => (step s a).bind fun t => run step t actions

variable (step : σ → α → Option σ)

def Throughout (P : σ → Prop) (s : σ) (actions : List α) : Prop :=
  ∀ earlier t, earlier <+: actions → run step s earlier = some t → P t

def EveryStep (C : σ → α → Prop) (s : σ) (actions : List α) : Prop :=
  ∀ earlier a t u, earlier ++ [a] <+: actions → run step s earlier = some t →
    step t a = some u → C t a

@[simp] lemma run_nil (s : σ) : run step s [] = some s := rfl

lemma run_append (s : σ) (first second : List α) :
    run step s (first ++ second) = (run step s first).bind fun t => run step t second := by
  induction first generalizing s with
  | nil => rfl
  | cons a first ih =>
    simp only [List.cons_append, run, Option.bind_assoc]
    exact congrArg (Option.bind _) (funext ih)

lemma run_concat (s : σ) (actions : List α) (a : α) :
    run step s (actions ++ [a]) = (run step s actions).bind fun t => step t a := by
  rw [run_append]
  congr 1
  funext t
  simp only [run, Option.bind_fun_some]

variable {step}

lemma run_cons_some {s t u : σ} {a : α} {actions : List α} (h : step s a = some t)
    (hr : run step t actions = some u) : run step s (a :: actions) = some u := by
  rw [run, h, Option.bind_some, hr]

lemma run_concat_some {s u : σ} {actions : List α} {a : α}
    (h : run step s (actions ++ [a]) = some u) :
    ∃ t, run step s actions = some t ∧ step t a = some u := by
  rwa [run_concat, Option.bind_eq_some_iff] at h

lemma everyStep_nil {C : σ → α → Prop} {s : σ} : EveryStep step C s [] :=
  fun earlier a _ _ h => absurd (List.prefix_nil.mp h) (by simp)

lemma everyStep_cons {C : σ → α → Prop} {s : σ} {a : α} {actions : List α}
    {t : σ} (ht : step s a = some t) (hc : C s a) (h : EveryStep step C t actions) :
    EveryStep step C s (a :: actions) := by
  intro earlier b v u hp hv hb
  cases earlier with
  | nil =>
    obtain ⟨rfl, _⟩ := List.cons_prefix_cons.mp hp
    cases hv
    exact hc
  | cons c earlier =>
    obtain ⟨rfl, hrest⟩ := List.cons_prefix_cons.mp hp
    rw [run, ht, Option.bind_some] at hv
    exact h earlier b v u hrest hv hb

variable {I P : σ → Prop} {C : σ → α → Prop} {s : σ} {actions : List α}

theorem throughout_of_everyStep (hI : Throughout step I s actions) (hs : P s)
    (hstep : ∀ t a u, I t → P t → C t a → step t a = some u → P u)
    (hc : EveryStep step C s actions) : Throughout step P s actions := by
  intro earlier
  induction earlier using List.reverseRecOn with
  | nil =>
    intro t _ ht
    cases ht
    exact hs
  | append_singleton earlier a ih =>
    intro u hp hu
    obtain ⟨t, ht, ha⟩ := run_concat_some hu
    have he := (List.prefix_append earlier [a]).trans hp
    exact hstep t a u (hI earlier t he ht) (ih t he ht) (hc earlier a t u hp ht ha) ha

theorem throughout_of_step (hs : P s) (hstep : ∀ t a u, P t → step t a = some u → P u) :
    Throughout step P s actions :=
  throughout_of_everyStep (fun _ _ _ _ => trivial) hs (fun t a u _ hp _ => hstep t a u hp)
    fun _ _ _ _ _ _ _ => trivial

/-- When a condition on each step is exactly what keeps a property, the steps of a run meet the
condition if and only if the property holds throughout. -/
theorem throughout_iff_everyStep (hI : Throughout step I s actions) (hs : P s)
    (hstep : ∀ t a u, I t → P t → step t a = some u → (P u ↔ C t a)) :
    Throughout step P s actions ↔ EveryStep step C s actions := by
  refine ⟨?_, ?_⟩
  · intro hp earlier a t u he ht ha
    have hfirst := (List.prefix_append earlier [a]).trans he
    have hu : run step s (earlier ++ [a]) = some u := by rw [run_concat, ht, Option.bind_some, ha]
    exact (hstep t a u (hI _ _ hfirst ht) (hp _ _ hfirst ht) ha).mp (hp _ _ he hu)
  · exact throughout_of_everyStep hI hs fun t a u hi hp hc ha => (hstep t a u hi hp ha).mpr hc

end Libriscv.Foundations

import Libriscv.Foundations.Programs

/-! Programs that do not abort as long as their operations are answered as they should be. -/

namespace Libriscv.Foundations.Program

variable {I : Interface} {σ α β : Type} {A : (op : I.Op) → I.Answer op → Prop} {Q : α → Prop}

def Surely (A : (op : I.Op) → I.Answer op → Prop) (Q : α → Prop) : Program I α → Prop
  | .ret a => Q a
  | .abort => False
  | .call op next => ∀ answer, A op answer → (next answer).Surely A Q

lemma surely_bind {p : Program I α} {f : α → Program I β} {R : β → Prop} (hp : p.Surely A Q)
    (hf : ∀ a, Q a → (f a).Surely A R) : (p >>= f).Surely A R := by
  induction p with
  | ret a => exact hf a hp
  | abort => exact hp.elim
  | call op next ih => exact fun answer ha => ih answer (hp answer ha)

theorem surely_run {H : Handler I σ} (hH : ∀ op s, A op (H op s).1) {p : Program I α}
    (hp : p.Surely A Q) (s : σ) : ∃ a t, p.run H s = (some a, t) ∧ Q a := by
  induction p generalizing s with
  | ret a => exact ⟨a, s, rfl, hp⟩
  | abort => exact hp.elim
  | call op next ih => exact ih _ (hp _ (hH op s)) _

end Libriscv.Foundations.Program

import Libriscv.Foundations.Programs

/-! Programs with the history of their operations and of the answers to these. -/

namespace Libriscv.Foundations

structure Event (I : Interface) where
  op : I.Op
  answer : I.Answer op

namespace Program

variable {I : Interface} {σ α β : Type}

def history (H : Handler I σ) : Program I α → σ → List (Event I)
  | .ret _, _ => []
  | .abort, _ => []
  | .call op next, s => ⟨op, (H op s).1⟩ :: (next (H op s).1).history H (H op s).2

/-- Whatever its operations answer, the program ends, if at all, with a history and a value in `Q`;
`earlier` is the history before it. -/
def Ends (Q : List (Event I) → α → Prop) : List (Event I) → Program I α → Prop
  | earlier, .ret a => Q earlier a
  | _, .abort => True
  | earlier, .call op next => ∀ answer, Ends Q (earlier ++ [⟨op, answer⟩]) (next answer)

section

variable {Q : List (Event I) → α → Prop} {earlier : List (Event I)} {p : Program I α}

lemma ends_bind {R : List (Event I) → β → Prop} {f : α → Program I β} (hp : Ends Q earlier p)
    (hf : ∀ h a, Q h a → Ends R h (f a)) : Ends R earlier (p >>= f) := by
  induction p generalizing earlier with
  | ret a => exact hf _ a hp
  | abort => trivial
  | call op next ih => exact fun answer => ih answer (hp answer)

lemma ends_mono {R : List (Event I) → α → Prop} (hp : Ends Q earlier p)
    (h : ∀ history a, Q history a → R history a) : Ends R earlier p := by
  induction p generalizing earlier with
  | ret a => exact h _ a hp
  | abort => trivial
  | call op next ih => exact fun answer => ih answer (hp answer)

lemma ends_history {H : Handler I σ} {s t : σ} {a : α} (hp : Ends Q earlier p)
    (h : p.run H s = (some a, t)) : Q (earlier ++ p.history H s) a := by
  induction p generalizing earlier s with
  | ret b =>
    cases h
    rw [history, List.append_nil]
    exact hp
  | abort => cases h
  | call op next ih =>
    rw [history, List.append_cons]
    exact ih _ (hp _) h

end

end Program

end Libriscv.Foundations

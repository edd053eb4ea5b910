import Mathlib.Data.List.Basic

/-! Finite programs over an interface of foreign operations, and their runs against a handler. -/

namespace Libriscv.Foundations

structure Interface where
  Op : Type
  Answer : Op → Type

/-- A program returns, aborts, or performs one operation and continues with its answer. -/
inductive Program (I : Interface) (α : Type) : Type
  | ret (a : α)
  | abort
  | call (op : I.Op) (next : I.Answer op → Program I α)

abbrev Handler (I : Interface) (σ : Type) := (op : I.Op) → σ → I.Answer op × σ

namespace Program

variable {I : Interface} {σ α β : Type}

def bind : Program I α → (α → Program I β) → Program I β
  | .ret a, f => f a
  | .abort, _ => .abort
  | .call op next, f => .call op fun answer => (next answer).bind f

instance : Monad (Program I) where
  pure := .ret
  bind := bind

lemma bind_assoc {γ : Type} (p : Program I α) (f : α → Program I β) (g : β → Program I γ) :
    (p >>= f) >>= g = p >>= fun a => f a >>= g := by
  induction p with
  | ret a => rfl
  | abort => rfl
  | call op next ih => exact congrArg (Program.call op) (funext ih)

def perform (op : I.Op) : Program I (I.Answer op) := .call op .ret

def run (H : Handler I σ) : Program I α → σ → Option α × σ
  | .ret a, s => (some a, s)
  | .abort, s => (none, s)
  | .call op next, s => (next (H op s).1).run H (H op s).2

def trace (H : Handler I σ) : Program I α → σ → List I.Op
  | .ret _, _ => []
  | .abort, _ => []
  | .call op next, s => op :: (next (H op s).1).trace H (H op s).2

variable (H : Handler I σ) (s : σ)

@[simp] lemma pure_eq (a : α) : (pure a : Program I α) = .ret a := rfl

@[simp] lemma ret_bind (a : α) (f : α → Program I β) : (.ret a : Program I α) >>= f = f a := rfl

@[simp] lemma abort_bind (f : α → Program I β) : (.abort : Program I α) >>= f = .abort := rfl

@[simp] lemma call_bind (op : I.Op) (next : I.Answer op → Program I α) (f : α → Program I β) :
    .call op next >>= f = .call op fun answer => next answer >>= f := rfl

@[simp] lemma perform_bind (op : I.Op) (f : I.Answer op → Program I β) :
    perform op >>= f = .call op f := rfl

@[simp] lemma run_ret (a : α) : (.ret a : Program I α).run H s = (some a, s) := rfl

@[simp] lemma run_abort : (.abort : Program I α).run H s = (none, s) := rfl

@[simp] lemma run_call (op : I.Op) (next : I.Answer op → Program I α) :
    (Program.call op next).run H s = (next (H op s).1).run H (H op s).2 := rfl

@[simp] lemma trace_ret (a : α) : (.ret a : Program I α).trace H s = [] := rfl

@[simp] lemma trace_abort : (.abort : Program I α).trace H s = [] := rfl

@[simp] lemma trace_call (op : I.Op) (next : I.Answer op → Program I α) :
    (Program.call op next).trace H s = op :: (next (H op s).1).trace H (H op s).2 := rfl

lemma run_bind (p : Program I α) (f : α → Program I β) :
    (p >>= f).run H s = match p.run H s with
      | (some a, t) => (f a).run H t
      | (none, t) => (none, t) := by
  induction p generalizing s with
  | ret a => rfl
  | abort => rfl
  | call op next ih => exact ih _ _

lemma run_bind_some {p : Program I α} {f : α → Program I β} {a : α} {t : σ}
    (h : p.run H s = (some a, t)) : (p >>= f).run H s = (f a).run H t := by
  rw [run_bind, h]

lemma run_bind_congr {p q : Program I α} {t : σ} (h : p.run H s = q.run H t) (f : α → Program I β) :
    (p >>= f).run H s = (q >>= f).run H t := by rw [run_bind, run_bind, h]

/-- A run carries over to the states of another handler that does the same in them. -/
lemma run_map {τ : Type} {H' : Handler I τ} {f : σ → τ}
    (hf : ∀ op s, H' op (f s) = ((H op s).1, f (H op s).2)) (p : Program I α) :
    p.run H' (f s) = ((p.run H s).1, f (p.run H s).2) := by
  induction p generalizing s with
  | ret a | abort => rfl
  | call op next ih =>
    rw [run_call, run_call, hf]
    exact ih _ _

lemma run_of_bind {p : Program I α} {f : α → Program I β} {b : β} {u : σ}
    (h : (p >>= f).run H s = (some b, u)) :
    ∃ a t, p.run H s = (some a, t) ∧ (f a).run H t = (some b, u) := by
  rw [run_bind] at h
  cases hp : p.run H s with
  | mk result t =>
    rw [hp] at h
    cases result with
    | none => cases h
    | some a => exact ⟨a, t, rfl, h⟩

def Always (P : I.Op → Prop) (Q : α → Prop) : Program I α → Prop
  | .ret a => Q a
  | .abort => True
  | .call op next => P op ∧ ∀ answer, (next answer).Always P Q

section

variable {P : I.Op → Prop} {Q : α → Prop} {p : Program I α}

lemma always_bind {R : β → Prop} {f : α → Program I β} (hp : p.Always P Q)
    (hf : ∀ a, Q a → (f a).Always P R) : (p >>= f).Always P R := by
  induction p with
  | ret a => exact hf a hp
  | abort => trivial
  | call op next ih => exact ⟨hp.1, fun answer => ih answer (hp.2 answer)⟩

lemma always_mono {P' : I.Op → Prop} {R : α → Prop} (hp : p.Always P Q) (hP : ∀ op, P op → P' op)
    (hQ : ∀ a, Q a → R a) : p.Always P' R := by
  induction p with
  | ret a => exact hQ a hp
  | abort => trivial
  | call op next ih => exact ⟨hP op hp.1, fun answer => ih answer (hp.2 answer)⟩

lemma always_trace (hp : p.Always P Q) : ∀ op ∈ p.trace H s, P op := by
  induction p generalizing s with
  | ret a | abort => exact fun _ h => nomatch h
  | call op next ih =>
    intro op' h
    rcases List.mem_cons.mp h with rfl | h
    · exact hp.1
    · exact ih _ _ (hp.2 _) op' h

lemma run_congr {H' : Handler I σ} (hp : p.Always P Q) (hH : ∀ op t, P op → H op t = H' op t) :
    p.run H s = p.run H' s := by
  induction p generalizing s with
  | ret a | abort => rfl
  | call op next ih =>
    rw [run_call, run_call, hH op s hp.1]
    exact ih _ _ (hp.2 _)

lemma always_value (hp : p.Always P Q) {a : α} {t : σ} (h : p.run H s = (some a, t)) : Q a := by
  induction p generalizing s with
  | ret b =>
    cases h
    exact hp
  | abort => cases h
  | call op next ih => exact ih _ _ (hp.2 _) h

lemma always_state {J : σ → Prop} (hp : p.Always P Q) (hJ : ∀ op t, P op → J t → J (H op t).2)
    (hs : J s) : J (p.run H s).2 := by
  induction p generalizing s with
  | ret a | abort => exact hs
  | call op next ih => exact ih _ _ (hp.2 _) (hJ op s hp.1 hs)

end

end Program

abbrev Fallible (I : Interface) (ε : Type) := ExceptT ε (Program I)

@[simp] lemma Fallible.run_lift {I : Interface} {ε α : Type} (p : Program I α) :
    ExceptT.run (liftM p : Fallible I ε α) = p >>= fun a => .ret (.ok a) := rfl

end Libriscv.Foundations

import Mathlib.Data.Set.Insert
import Libriscv.Foundations.WordMemory

/-! What each cell of a memory may hold, when a write can break off anywhere on its way. -/

namespace Libriscv.Foundations

variable {w : ℕ} {β : Type}

abbrev Possible (w : ℕ) (β : Type) := BitVec w → Set β

namespace Memory

/-- A store that broke off: only the marked ones of its cells were written. -/
def smear (mem : Memory w β) (a : BitVec w) (bs : List β) (written : ℕ → Bool) : Memory w β :=
  fun x => if written (x - a).toNat then mem.store a bs x else mem x

def AllowedBy (mem : Memory w β) (p : Possible w β) : Prop := ∀ x, mem x ∈ p x

end Memory

namespace Possible

def exactly (mem : Memory w β) : Possible w β := fun x => {mem x}

def store (p : Possible w β) (a : BitVec w) (bs : List β) : Possible w β :=
  fun x =>
    match bs[(x - a).toNat]? with
    | some b => {b}
    | none => p x

def smear (p : Possible w β) (a : BitVec w) (bs : List β) : Possible w β :=
  fun x =>
    match bs[(x - a).toNat]? with
    | some b => insert b (p x)
    | none => p x

variable {mem : Memory w β} {p : Possible w β}

lemma allowed_exactly : mem.AllowedBy (exactly mem) := fun _ => rfl

lemma allowed_store (h : mem.AllowedBy p) (a : BitVec w) (bs : List β) :
    (mem.store a bs).AllowedBy (p.store a bs) := by
  intro x
  simp only [Memory.store, store]
  cases bs[(x - a).toNat]? with
  | none => exact h x
  | some b => rfl

lemma allowed_smear (h : mem.AllowedBy p) (a : BitVec w) (bs : List β) (written : ℕ → Bool) :
    (mem.smear a bs written).AllowedBy (p.smear a bs) := by
  intro x
  simp only [Memory.smear, Memory.store, smear]
  cases bs[(x - a).toNat]? with
  | none =>
    rw [Option.getD_none, ite_self]
    exact h x
  | some b =>
    by_cases hw : written (x - a).toNat = true
    · rw [if_pos hw]
      exact Set.mem_insert _ _
    · rw [if_neg hw]
      exact Set.mem_insert_of_mem _ (h x)

lemma store_exactly (a : BitVec w) (bs : List β) :
    (exactly mem).store a bs = exactly (mem.store a bs) := by
  funext x
  simp only [exactly, store, Memory.store]
  cases bs[(x - a).toNat]? <;> rfl

end Possible

end Libriscv.Foundations

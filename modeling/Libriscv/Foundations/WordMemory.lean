import Mathlib.Algebra.Group.Nat.Defs
import Libriscv.Foundations.LastWrite

/-! Memories addressed by machine words: blocks, and the value each cell was last given. -/

namespace Libriscv.Foundations

abbrev Memory (w : ℕ) (β : Type) := BitVec w → β

namespace Memory

variable {w : ℕ} {β : Type}

def load (mem : Memory w β) (a : BitVec w) (n : ℕ) : List β :=
  (List.range n).map fun i => mem (a + BitVec.ofNat w i)

def store (mem : Memory w β) (a : BitVec w) (bs : List β) : Memory w β :=
  fun x => (bs[(x - a).toNat]?).getD (mem x)

@[simp] lemma length_load (mem : Memory w β) (a : BitVec w) (n : ℕ) :
    (mem.load a n).length = n := by
  simp [load]

@[simp] lemma store_nil (mem : Memory w β) (a : BitVec w) : mem.store a [] = mem := by
  funext x
  simp [store]

lemma offset_toNat (a : BitVec w) {i : ℕ} (hi : i < 2 ^ w) :
    (a + BitVec.ofNat w i - a).toNat = i := by
  rw [BitVec.add_comm, BitVec.add_sub_cancel, BitVec.toNat_ofNat, Nat.mod_eq_of_lt hi]

lemma store_inside (mem : Memory w β) (a : BitVec w) (bs : List β) {i : ℕ} (hi : i < bs.length)
    (hw : i < 2 ^ w) : mem.store a bs (a + BitVec.ofNat w i) = bs[i] := by
  rw [store, offset_toNat a hw, List.getElem?_eq_getElem hi, Option.getD_some]

lemma store_outside (mem : Memory w β) {a x : BitVec w} {bs : List β}
    (hx : ∀ i < bs.length, x ≠ a + BitVec.ofNat w i) : mem.store a bs x = mem x := by
  have hn : bs.length ≤ (x - a).toNat := by
    by_contra hlt
    refine hx (x - a).toNat (by omega) ?_
    rw [BitVec.ofNat_toNat, BitVec.setWidth_eq, BitVec.add_comm, BitVec.sub_add_cancel]
  rw [store, List.getElem?_eq_none hn, Option.getD_none]

def latest (writes : List (BitVec w × List β)) (x : BitVec w) : Option β :=
  lastSome (fun write => write.2[(x - write.1).toNat]?) writes

/-- The initial memory with each cell replaced by what was last written to it. -/
def replay (mem : Memory w β) (writes : List (BitVec w × List β)) : Memory w β :=
  fun x => (latest writes x).getD (mem x)

@[simp] lemma replay_nil (mem : Memory w β) : mem.replay [] = mem := rfl

lemma replay_cons (mem : Memory w β) (a : BitVec w) (bs : List β)
    (writes : List (BitVec w × List β)) :
    mem.replay ((a, bs) :: writes) = (mem.store a bs).replay writes := by
  funext x
  rw [replay, latest, lastSome_cons, replay, latest, store]
  cases lastSome (fun write : BitVec w × List β => write.2[(x - write.1).toNat]?) writes <;> rfl

lemma replay_append (mem : Memory w β) (first second : List (BitVec w × List β)) :
    mem.replay (first ++ second) = (mem.replay first).replay second := by
  induction first generalizing mem with
  | nil => rfl
  | cons write first ih =>
    rcases write with ⟨a, bs⟩
    rw [List.cons_append, replay_cons, replay_cons, ih]

end Memory

end Libriscv.Foundations

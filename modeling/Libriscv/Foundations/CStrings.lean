import Mathlib.Algebra.Group.Nat.Defs
import Mathlib.Data.List.Infix

/-! Heap blocks, NUL-terminated strings and pointer tables, and what a C reader finds in them. -/

namespace Libriscv.Foundations

structure Pointer where
  block : ℕ
  offset : ℕ
  deriving DecidableEq, Repr, Inhabited

inductive Block
  | bytes (content : List UInt8)
  | pointers (content : List Pointer)
  deriving DecidableEq, Repr

abbrev Heap := List Block

def untilNul : List UInt8 → Option (List UInt8)
  -- without a NUL the reader leaves the block
  | [] => none
  | b :: bs => if b = 0 then some [] else (untilNul bs).map (b :: ·)

lemma untilNul_terminated {bs : List UInt8} (h : 0 ∉ bs) (rest : List UInt8) :
    untilNul (bs ++ 0 :: rest) = some bs := by
  induction bs with
  | nil => rfl
  | cons b bs ih =>
    simp only [List.mem_cons, not_or] at h
    obtain ⟨hb, hbs⟩ := h
    simp [untilNul, Ne.symm hb, ih hbs]

namespace Heap

def alloc (h : Heap) (b : Block) : Pointer × Heap := (⟨h.length, 0⟩, h ++ [b])

def readString (h : Heap) (p : Pointer) : Option (List UInt8) :=
  match h[p.block]? with
  | some (.bytes content) => untilNul (content.drop p.offset)
  | _ => none

def readPointers (h : Heap) (p : Pointer) (n : ℕ) : Option (List Pointer) :=
  match h[p.block]? with
  | some (.pointers content) =>
    if p.offset + n ≤ content.length then some ((content.drop p.offset).take n) else none
  | _ => none

def readStrings (h : Heap) (p : Pointer) (n : ℕ) : Option (List (List UInt8)) :=
  (h.readPointers p n).bind fun ps => ps.mapM h.readString

def readBytes (h : Heap) (p : Pointer) (n : ℕ) : Option (List UInt8) :=
  match h[p.block]? with
  | some (.bytes content) =>
    if p.offset + n ≤ content.length then some ((content.drop p.offset).take n) else none
  | _ => none

/-- The heap as a reader finds it when some of its blocks are freed. -/
def without (h : Heap) (freed : List ℕ) : Heap :=
  h.mapIdx fun i b => if i ∈ freed then .bytes [] else b

lemma getElem?_extend {h k : Heap} (hk : h <+: k) {i : ℕ} {b : Block} (hb : h[i]? = some b) :
    k[i]? = some b := by
  obtain ⟨hi, _⟩ := List.getElem?_eq_some_iff.mp hb
  obtain ⟨rest, rfl⟩ := hk
  rw [List.getElem?_append_left hi, hb]

lemma readString_extend {h k : Heap} (hk : h <+: k) {p : Pointer} {s : List UInt8}
    (hs : h.readString p = some s) : k.readString p = some s := by
  simp only [readString] at hs ⊢
  cases hb : h[p.block]? with
  | none => simp [hb] at hs
  | some b => simpa only [getElem?_extend hk hb, hb] using hs

lemma readPointers_extend {h k : Heap} (hk : h <+: k) {p : Pointer} {n : ℕ} {ps : List Pointer}
    (hs : h.readPointers p n = some ps) : k.readPointers p n = some ps := by
  simp only [readPointers] at hs ⊢
  cases hb : h[p.block]? with
  | none => simp [hb] at hs
  | some b => simpa only [getElem?_extend hk hb, hb] using hs

lemma mapM_readString_extend {h k : Heap} (hk : h <+: k) {ps : List Pointer}
    {ss : List (List UInt8)} (hs : ps.mapM h.readString = some ss) :
    ps.mapM k.readString = some ss := by
  induction ps generalizing ss with
  | nil => exact hs
  | cons p ps ih =>
    simp only [List.mapM_cons, Option.bind_eq_bind, Option.bind_eq_some_iff] at hs ⊢
    obtain ⟨s, hp, ts, hps, he⟩ := hs
    exact ⟨s, readString_extend hk hp, ts, ih hps, he⟩

lemma readStrings_extend {h k : Heap} (hk : h <+: k) {p : Pointer} {n : ℕ}
    {ss : List (List UInt8)} (hs : h.readStrings p n = some ss) :
    k.readStrings p n = some ss := by
  simp only [readStrings, Option.bind_eq_some_iff] at hs ⊢
  obtain ⟨ps, hp, hps⟩ := hs
  exact ⟨ps, readPointers_extend hk hp, mapM_readString_extend hk hps⟩

@[simp] lemma extend_alloc (h : Heap) (b : Block) : h <+: (h.alloc b).2 :=
  List.prefix_append _ _

lemma readString_alloc (h : Heap) {s : List UInt8} (hs : 0 ∉ s) :
    (h.alloc (.bytes (s ++ [0]))).2.readString (h.alloc (.bytes (s ++ [0]))).1 = some s := by
  simp [readString, alloc, untilNul_terminated hs]

lemma readPointers_alloc (h : Heap) (ps : List Pointer) :
    (h.alloc (.pointers ps)).2.readPointers (h.alloc (.pointers ps)).1 ps.length = some ps := by
  simp [readPointers, alloc]

lemma readStrings_alloc {h : Heap} {ps : List Pointer} {ss : List (List UInt8)}
    (hs : ps.mapM h.readString = some ss) :
    (h.alloc (.pointers ps)).2.readStrings (h.alloc (.pointers ps)).1 ps.length = some ss := by
  rw [readStrings, readPointers_alloc, Option.bind_some]
  exact mapM_readString_extend (extend_alloc h _) hs

lemma readBytes_alloc (h : Heap) (s : List UInt8) :
    (h.alloc (.bytes s)).2.readBytes (h.alloc (.bytes s)).1 s.length = some s := by
  simp [readBytes, alloc]

lemma readBytes_extend {h k : Heap} (hk : h <+: k) {p : Pointer} {n : ℕ} {s : List UInt8}
    (hs : h.readBytes p n = some s) : k.readBytes p n = some s := by
  simp only [readBytes] at hs ⊢
  cases hb : h[p.block]? with
  | none => simp [hb] at hs
  | some b => simpa only [getElem?_extend hk hb, hb] using hs

lemma without_kept (h : Heap) {freed : List ℕ} {i : ℕ} (hi : i ∉ freed) :
    (h.without freed)[i]? = h[i]? := by
  rw [without, List.getElem?_mapIdx]
  cases h[i]? <;> simp [hi]

section without

variable {h : Heap} {freed : List ℕ} {p : Pointer} (hp : p.block ∉ freed)

include hp

lemma readString_without : (h.without freed).readString p = h.readString p := by
  rw [readString, without_kept h hp, readString]

lemma readBytes_without (n : ℕ) : (h.without freed).readBytes p n = h.readBytes p n := by
  rw [readBytes, without_kept h hp, readBytes]

lemma readStrings_without {n : ℕ} {ps : List Pointer} (ht : h.readPointers p n = some ps)
    (hps : ∀ q ∈ ps, q.block ∉ freed) : (h.without freed).readStrings p n = h.readStrings p n := by
  have hpointers : (h.without freed).readPointers p n = some ps := by
    rw [readPointers, without_kept h hp, ← readPointers, ht]
  rw [readStrings, readStrings, hpointers, ht, Option.bind_some, Option.bind_some]
  clear ht hpointers
  induction ps with
  | nil => rfl
  | cons q ps ih =>
    rw [List.mapM_cons, List.mapM_cons, readString_without (hps q List.mem_cons_self),
      ih fun x hx => hps x (List.mem_cons_of_mem _ hx)]

end without

end Heap

end Libriscv.Foundations

import Mathlib.Data.List.Count
import Mathlib.Data.List.Nodup

/-! Resources numbered as they are made, held by the values of a list of slots, and released. -/

namespace Libriscv.Foundations

variable {V : Type}

def slotHolds (holds : V → List ℕ) (slot : Option V) : List ℕ := (slot.map holds).getD []

def held (holds : V → List ℕ) (slots : List (Option V)) : List ℕ := slots.flatMap (slotHolds holds)

/-- Each resource made so far is held once, by one slot, or was released, once. -/
def Balanced (holds : V → List ℕ) (slots : List (Option V)) (released : List ℕ) (made : ℕ) : Prop :=
  ∀ r, (held holds slots).count r + released.count r = if r < made then 1 else 0

variable {holds : V → List ℕ} {slots : List (Option V)} {released : List ℕ} {made r i : ℕ}

@[simp] lemma slotHolds_none : slotHolds holds none = [] := rfl

@[simp] lemma slotHolds_some (v : V) : slotHolds holds (some v) = holds v := rfl

lemma held_concat (slot : Option V) :
    held holds (slots ++ [slot]) = held holds slots ++ slotHolds holds slot := by
  rw [held, List.flatMap_append, List.flatMap_singleton, held]

lemma count_held_set {slot : Option V} (h : slots[i]? = some slot) (slot' : Option V) (r : ℕ) :
    (held holds (slots.set i slot')).count r + (slotHolds holds slot).count r =
      (held holds slots).count r + (slotHolds holds slot').count r := by
  induction slots generalizing i with
  | nil => cases h
  | cons first slots ih =>
    cases i with
    | zero =>
      obtain rfl : first = slot := Option.some.inj h
      simp only [List.set_cons_zero, held, List.flatMap_cons, List.count_append]
      omega
    | succ i =>
      have hrest := @ih i h
      simp only [held] at hrest
      simp only [List.set_cons_succ, held, List.flatMap_cons, List.count_append]
      omega

lemma mem_held {v : V} (h : slots[i]? = some (some v)) (hr : r ∈ holds v) : r ∈ held holds slots :=
  List.mem_flatMap.mpr ⟨some v, List.mem_of_getElem? h, hr⟩

lemma count_range' (made k r : ℕ) :
    (List.range' made k).count r = if made ≤ r ∧ r < made + k then 1 else 0 := by
  split
  · next h => exact List.count_eq_one_of_mem List.nodup_range' (List.mem_range'_1.mpr h)
  · next h => exact List.count_eq_zero_of_not_mem fun hm => h (List.mem_range'_1.mp hm)

namespace Balanced

lemma nil : Balanced holds [] [] 0 := fun _ => rfl

section reading

variable (h : Balanced holds slots released made)

include h

lemma released_nodup : released.Nodup := by
  refine List.nodup_iff_count_le_one.mpr fun r => ?_
  have hr := h r
  split at hr <;> omega

lemma lt_of_holds {v : V} (hv : slots[i]? = some (some v)) (hr : r ∈ holds v) : r < made := by
  have hc := List.count_pos_iff.mpr (mem_held hv hr)
  have hr := h r
  split at hr
  · assumption
  · omega

lemma not_released {v : V} (hv : slots[i]? = some (some v)) (hr : r ∈ holds v) : r ∉ released := by
  intro hm
  have hc := List.count_pos_iff.mpr (mem_held hv hr)
  have hc' := List.count_pos_iff.mpr hm
  have hr := h r
  split at hr <;> omega

lemma exists_holder (hr : r < made) (hn : r ∉ released) :
    ∃ (i : ℕ) (v : V), slots[i]? = some (some v) ∧ r ∈ holds v := by
  have hc := h r
  rw [if_pos hr, List.count_eq_zero_of_not_mem hn] at hc
  have hm : r ∈ held holds slots := List.count_pos_iff.mp (by omega)
  obtain ⟨slot, hs, hm⟩ := List.mem_flatMap.mp hm
  obtain ⟨i, hi⟩ := List.mem_iff_getElem?.mp hs
  cases slot with
  | none => cases hm
  | some v => exact ⟨i, v, hi, hm⟩

lemma settled (he : ∀ slot ∈ slots, slot = none) (hr : r < made) : r ∈ released := by
  by_contra hn
  obtain ⟨i, v, hi, _⟩ := h.exists_holder hr hn
  cases he _ (List.mem_of_getElem? hi)

end reading

section changes

variable (h : Balanced holds slots released made)

include h

lemma push {v : V} {k : ℕ} (hv : ∀ r, (holds v).count r = (List.range' made k).count r) :
    Balanced holds (slots ++ [some v]) released (made + k) := by
  intro r
  have hr := h r
  have hk := hv r
  rw [count_range'] at hk
  rw [held_concat, List.count_append, slotHolds_some, hk]
  split_ifs at hr ⊢ <;> omega

/-- Resources that are made and released within one step. -/
lemma scratch (k : ℕ) : Balanced holds slots (released ++ List.range' made k) (made + k) := by
  intro r
  have hr := h r
  rw [List.count_append, count_range']
  split_ifs at hr ⊢ <;> omega

lemma release {v : V} (hv : slots[i]? = some (some v)) {released' : List ℕ}
    (hg : ∀ r, released'.count r = released.count r + (holds v).count r) :
    Balanced holds (slots.set i none) released' made := by
  intro r
  have hr := h r
  have hs := @count_held_set _ holds _ _ _ hv none r
  simp only [slotHolds_some, slotHolds_none, List.count_nil] at hs
  rw [hg]
  omega

/-- The value of a slot goes to a new slot, in another form and with further new resources. -/
lemma convert {v w : V} (hv : slots[i]? = some (some v)) {k : ℕ}
    (hw : ∀ r, (holds w).count r = (holds v).count r + (List.range' made k).count r) :
    Balanced holds (slots.set i none ++ [some w]) released (made + k) := by
  intro r
  have hr := h r
  have hk := hw r
  have hs := @count_held_set _ holds _ _ _ hv none r
  simp only [slotHolds_some, slotHolds_none, List.count_nil] at hs
  rw [count_range'] at hk
  rw [held_concat, List.count_append, slotHolds_some, hk]
  split_ifs at hr ⊢ <;> omega

lemma exchange {j : ℕ} {v w : V} (hv : slots[i]? = some (some v)) (hw : slots[j]? = some (some w))
    (hij : i ≠ j) : Balanced holds ((slots.set i (some w)).set j (some v)) released made := by
  intro r
  have hr := h r
  have hi := @count_held_set _ holds _ _ _ hv (some w) r
  have hw' : (slots.set i (some w))[j]? = some (some w) := (List.getElem?_set_ne hij).trans hw
  have hj := @count_held_set _ holds _ _ _ hw' (some v) r
  simp only [slotHolds_some] at hi hj
  omega

end changes

end Balanced

end Libriscv.Foundations

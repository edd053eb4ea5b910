import Mathlib.Data.List.Basic
import Mathlib.Logic.Function.Basic

/-! The last event of a sequence that says something, and states that depend on it alone. -/

namespace Libriscv.Foundations

variable {α β σ κ ν : Type}

def lastSome (f : α → Option β) (events : List α) : Option β := events.reverse.findSome? f

@[simp] lemma lastSome_nil (f : α → Option β) : lastSome f [] = none := rfl

lemma lastSome_cons (f : α → Option β) (a : α) (events : List α) :
    lastSome f (a :: events) = (lastSome f events).or (f a) := by
  rw [lastSome, List.reverse_cons, List.findSome?_append, lastSome, List.findSome?_singleton]

lemma lastSome_concat (f : α → Option β) (events : List α) (a : α) :
    lastSome f (events ++ [a]) = (f a).or (lastSome f events) := by
  rw [lastSome, List.reverse_append, List.reverse_singleton, List.singleton_append,
    List.findSome?_cons, lastSome]
  cases f a <;> rfl

lemma foldl_field {step : σ → α → σ} (field : σ → β) {f : α → Option β}
    (h : ∀ s a, field (step s a) = (f a).getD (field s)) (s : σ) (events : List α) :
    field (events.foldl step s) = (lastSome f events).getD (field s) := by
  induction events generalizing s with
  | nil => rfl
  | cons a events ih =>
    rw [List.foldl_cons, ih, h, lastSome_cons]
    cases lastSome f events <;> rfl

section

variable [DecidableEq κ]

def lastWrite (log : List (κ × ν)) (k : κ) : Option ν :=
  lastSome (fun write => if write.1 = k then some write.2 else none) log

@[simp] lemma lastWrite_nil (k : κ) : lastWrite ([] : List (κ × ν)) k = none := rfl

lemma lastWrite_concat (log : List (κ × ν)) (k l : κ) (v : ν) :
    lastWrite (log ++ [(k, v)]) l = if k = l then some v else lastWrite log l := by
  rw [lastWrite, lastSome_concat]
  split <;> rfl

lemma foldl_update (table : κ → ν) (log : List (κ × ν)) (k : κ) :
    log.foldl (fun t write => Function.update t write.1 write.2) table k =
      (lastWrite log k).getD (table k) := by
  refine foldl_field (fun t : κ → ν => t k) (fun t write => ?_) table log
  by_cases h : write.1 = k
  · subst h
    simp
  · simp [Function.update_of_ne (Ne.symm h), h]

lemma lastWrite_eq_none {log : List (κ × ν)} {k : κ} (h : ∀ write ∈ log, write.1 ≠ k) :
    lastWrite log k = none := by
  induction log with
  | nil => rfl
  | cons write log ih =>
    rw [lastWrite, lastSome_cons, if_neg (h write (by simp))]
    simpa [lastWrite] using ih fun w hw => h w (by simp [hw])

lemma lastWrite_of_mem {log : List (κ × ν)} (hd : (log.map Prod.fst).Nodup) {k : κ} {v : ν}
    (h : (k, v) ∈ log) : lastWrite log k = some v := by
  induction log with
  | nil => cases h
  | cons write log ih =>
    rw [List.map_cons, List.nodup_cons] at hd
    rw [lastWrite, lastSome_cons]
    rcases List.mem_cons.mp h with rfl | h
    · have hn : lastWrite log k = none := lastWrite_eq_none fun w hw he =>
        hd.1 (List.mem_map.mpr ⟨w, hw, he⟩)
      rw [lastWrite] at hn
      rw [hn, if_pos rfl, Option.none_or]
    · have hs := ih hd.2 h
      rw [lastWrite] at hs
      rw [hs, Option.some_or]

end

end Libriscv.Foundations

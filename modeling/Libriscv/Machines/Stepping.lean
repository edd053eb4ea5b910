import Libriscv.Machines.Machine
import Mathlib.Algebra.Group.Int.Defs

/-! What a single step reports: how far it came, the end of the program, or a failure. -/

namespace Libriscv.Stepping

open Foundations

section truncation

variable {value : Int64}

lemma toInt32_eq_zero_iff : value.toInt32 = 0 ↔ (2 ^ 32 : ℤ) ∣ value.toInt := by
  rw [← Int32.toInt_inj, Int64.toInt_toInt32, Int32.toInt_zero]
  exact Int.dvd_iff_bmod_eq_zero.symm

lemma toInt_toInt32_of_fits (hl : -2 ^ 31 ≤ value.toInt) (hu : value.toInt < 2 ^ 31) :
    value.toInt32.toInt = value.toInt := by
  rw [Int64.toInt_toInt32]
  exact Int.bmod_eq_of_le hl hu

lemma neg_iff : value < 0 ↔ value.toInt < 0 := by
  rw [Int64.lt_iff_toInt_lt, Int64.toInt_zero]

end truncation

structure Reports (value : Int64) (result : Except Error (Option UInt64)) : Prop where
  fails : (∃ e, result = .error e) ↔ value < 0
  failure : ∀ e, result = .error e → ∃ code message,
    e = .library "libriscv_step_one" code message ∧ code = value.toInt32 ∧
      (-2 ^ 31 ≤ value.toInt → value.toInt < 2 ^ 31 → code.toInt = value.toInt)
  steps : result = .ok (some value.toUInt64) ↔ 0 < value
  stops : result = .ok none ↔ value = 0

section reports

variable {value : Int64}

lemma reports_failure (hn : value < 0) (message : Option String) :
    Reports value (.error (.library "libriscv_step_one" value.toInt32 message)) where
  fails := ⟨fun _ => hn, fun _ => ⟨_, rfl⟩⟩
  failure := by
    rintro e ⟨⟩
    exact ⟨_, message, rfl, rfl, toInt_toInt32_of_fits⟩
  steps := ⟨fun h => (nomatch h), fun h => absurd (Int64.lt_trans hn h) Int64.lt_irrefl⟩
  stops := ⟨fun h => (nomatch h), fun h => absurd (h ▸ hn) Int64.lt_irrefl⟩

lemma reports_progress (hn : ¬ value < 0) :
    Reports value (.ok (if 0 < value then some value.toUInt64 else none)) where
  fails := ⟨fun ⟨_, h⟩ => (nomatch h), fun h => absurd h hn⟩
  failure := fun _ h => nomatch h
  steps := by
    split
    · next hp => exact ⟨fun _ => hp, fun _ => rfl⟩
    · next hp => exact ⟨fun h => (nomatch h), fun h => absurd h hp⟩
  stops := by
    split
    · next hp =>
      refine ⟨fun h => (nomatch h), ?_⟩
      rintro rfl
      exact absurd hp Int64.lt_irrefl
    · next hp =>
      exact ⟨fun _ => Int64.le_antisymm (Int64.not_lt.mp hp) (Int64.not_lt.mp hn), fun _ => rfl⟩

lemma not_reports_none (hn : value < 0) : ¬ Reports value (.ok none) := by
  intro h
  obtain ⟨e, he⟩ := h.fails.mpr hn
  cases he

end reports

section step

variable {σ : Type} (H : Handler native σ) (s : σ) (self : Machine) (verbose : Bool)

def answer : Int64 := (H (.foreign (.stepOne self.ptr (cInt verbose))) s).1

variable {H s self verbose}

lemma step_negative (hn : answer H s self verbose < 0) : ∃ t, (self.step verbose).run.run H s =
    (checkCode "libriscv_step_one" (answer H s self verbose).toInt32 >>= fun _ =>
      pure (if 0 < answer H s self verbose then some (answer H s self verbose).toUInt64
        else none) : FfiResult (Option UInt64)).run.run H t := by
  refine ⟨(H (.foreign (.stepOne self.ptr (cInt verbose))) s).2, ?_⟩
  change Program.run H (ExceptT.run (ite (answer H s self verbose < 0) _ _)) _ = _
  rw [if_pos hn]
  rfl

lemma step_nonnegative (hn : ¬ answer H s self verbose < 0) : ∃ t,
    (self.step verbose).run.run H s = (some (.ok (if 0 < answer H s self verbose then
      some (answer H s self verbose).toUInt64 else none)), t) := by
  refine ⟨(H (.foreign (.stepOne self.ptr (cInt verbose))) s).2, ?_⟩
  change Program.run H (ExceptT.run (ite (answer H s self verbose < 0) _ _)) _ = _
  rw [if_neg hn]
  rfl

lemma step_fails (hn : answer H s self verbose < 0) (hc : (answer H s self verbose).toInt32 ≠ 0) :
    ∃ message t, (self.step verbose).run.run H s = (some (.error (.library "libriscv_step_one"
      (answer H s self verbose).toInt32 message)), t) := by
  obtain ⟨t, ht⟩ := step_negative hn
  obtain ⟨message, u, hu⟩ := checkCode_fails H t "libriscv_step_one" hc
  refine ⟨message, u, ?_⟩
  rw [ht, ExceptT.run_bind, Program.run_bind_some _ _ hu]
  rfl

lemma step_hides (hn : answer H s self verbose < 0) (hc : (answer H s self verbose).toInt32 = 0) :
    ∃ t, (self.step verbose).run.run H s = (some (.ok none), t) := by
  obtain ⟨t, ht⟩ := step_negative hn
  have hp : ¬ 0 < answer H s self verbose := fun h => Int64.lt_irrefl (Int64.lt_trans hn h)
  refine ⟨t, ?_⟩
  rw [ht, hc, if_neg hp]
  rfl

end step

/-- A step reports what happened unless libriscv answers with a negative multiple of 2^32, where
nothing is left of the failure after the cast. -/
theorem step_reports_iff {σ : Type} (H : Handler native σ) (s : σ) (self : Machine)
    (verbose : Bool) :
    ∃ result t, (self.step verbose).run.run H s = (some result, t) ∧
      (Reports (answer H s self verbose) result ↔
        ¬ ((answer H s self verbose).toInt < 0 ∧ 2 ^ 32 ∣ (answer H s self verbose).toInt)) := by
  rw [← neg_iff, ← toInt32_eq_zero_iff]
  by_cases hn : answer H s self verbose < 0
  · by_cases hc : (answer H s self verbose).toInt32 = 0
    · obtain ⟨t, ht⟩ := step_hides hn hc
      exact ⟨_, t, ht, fun h => absurd h (not_reports_none hn), fun h => absurd ⟨hn, hc⟩ h⟩
    · obtain ⟨message, t, ht⟩ := step_fails hn hc
      exact ⟨_, t, ht, fun _ h => hc h.2, fun _ => reports_failure hn message⟩
  · obtain ⟨t, ht⟩ := step_nonnegative hn
    exact ⟨_, t, ht, fun _ h => hn h.1, fun _ => reports_progress hn⟩

def truncating : Handler native Unit
  | .foreign (.stepOne ..), s => (-4294967296, s)
  | .foreign _, s => (default, s)
  | .load _, s => ([], s)
  | .store .., s => ((), s)

theorem truncated_failure_is_hidden :
    (Machine.step ⟨0, [], ⟨.zeroed, .empty⟩⟩ false).run.run truncating () = (some (.ok none), ()) ∧
      ¬ Reports (answer truncating () ⟨0, [], ⟨.zeroed, .empty⟩⟩ false) (.ok none) :=
  ⟨rfl, not_reports_none (by decide)⟩

end Libriscv.Stepping

import Libriscv.Foundations.Runs
import Libriscv.Syscalls.Registry

/-! Builders, tokens and machines over the process-wide table: when a token finalizes handlers. -/

namespace Libriscv.Dispatch

open Foundations

abbrev Log := List (ℕ × Option FnPtr)

/-- One process. Only the table exists at run time beside the bare values; a builder, a token and
a machine are shown with the registrations of the builder they come from. -/
structure State where
  table : SyscallTable
  builders : ℕ → Option Log
  tokens : ℕ → Option Log
  machines : ℕ → Option Log
  history : Log

def initial : State := ⟨fun _ => none, fun _ => none, fun _ => none, fun _ => none, []⟩

inductive Op
  | newBuilder (b : ℕ)
  | register (b : ℕ) (num : SyscallId) (handler : SyscallHandler)
  | build (b r : ℕ)
  | dropBuilder (b : ℕ)
  | empty (r : ℕ)
  | dropToken (r : ℕ)
  | newMachine (r m : ℕ)
  | dropMachine (m : ℕ)
  deriving DecidableEq, Repr

def bindVar (vars : ℕ → Option Log) (x : ℕ) (log : Log) : Option (ℕ → Option Log) :=
  if vars x = none then some (Function.update vars x (some log)) else none

def dropVar (vars : ℕ → Option Log) (x : ℕ) : ℕ → Option Log := Function.update vars x none

def step (s : State) : Op → Option State
  | .newBuilder b => (bindVar s.builders b []).map fun builders => { s with builders }
  | .register b num handler => (s.builders b).map fun log =>
      { s with
        table := (((SyscallRegistryBuilder.new.register num handler).run).run tableLibrary s.table).2
        builders := Function.update s.builders b (some (log ++ [(num.get.toNat, handler.raw)]))
        history := s.history ++ [(num.get.toNat, handler.raw)] }
  | .build b r => (s.builders b).bind fun log =>
      (bindVar s.tokens r log).map fun tokens =>
        { s with builders := dropVar s.builders b, tokens }
  | .dropBuilder b => some { s with builders := dropVar s.builders b }
  | .empty r => (bindVar s.tokens r []).map fun tokens => { s with tokens }
  | .dropToken r => some { s with tokens := dropVar s.tokens r }
  | .newMachine r m => (s.tokens r).bind fun log =>
      (bindVar s.machines m log).map fun machines => { s with machines }
  | .dropMachine m => some { s with machines := dropVar s.machines m }

def installed (log : Log) (n : ℕ) : Option FnPtr := (lastWrite log n).join

def Finalized (s : State) : Prop :=
  ∀ m log, s.machines m = some log → ∀ n < 512, s.table n = installed log n

def Disciplined (s : State) : Op → Prop
  -- beside a live machine, a registration only repeats what is installed
  | .register _ num handler =>
    (∃ m log, s.machines m = some log) → installed s.history num.get.toNat = handler.raw
  -- the registrations of the token's builder are, for every number, the last ones of the process
  | .newMachine r _ => ∀ log, s.tokens r = some log →
      ∀ n < 512, installed s.history n = installed log n
  | _ => True

lemma bindVar_some {vars vars' : ℕ → Option Log} {x : ℕ} {log : Log}
    (h : bindVar vars x log = some vars') :
    vars x = none ∧ vars' = Function.update vars x (some log) := by
  simp only [bindVar] at h
  split at h
  · next hx => exact ⟨hx, (Option.some.inj h).symm⟩
  · cases h

lemma step_cases {s t : State} {op : Op} (h : step s op = some t) :
    (∃ b num handler, op = .register b num handler ∧ t.machines = s.machines ∧
      t.table = Function.update s.table num.get.toNat handler.raw ∧
      t.history = s.history ++ [(num.get.toNat, handler.raw)]) ∨
    (∃ r m log, op = .newMachine r m ∧ s.tokens r = some log ∧ s.machines m = none ∧
      t.machines = Function.update s.machines m (some log) ∧ t.table = s.table ∧
      t.history = s.history) ∨
    (∃ m, op = .dropMachine m ∧ t.machines = dropVar s.machines m ∧ t.table = s.table ∧
      t.history = s.history) ∨
    (t.machines = s.machines ∧ t.table = s.table ∧ t.history = s.history ∧ Disciplined s op) := by
  cases op with
  | register b num handler =>
    obtain ⟨log, _, rfl⟩ := Option.map_eq_some_iff.mp h
    exact .inl ⟨b, num, handler, rfl, rfl, by rw [register_run], rfl⟩
  | newMachine r m =>
    obtain ⟨log, hr, hm⟩ := Option.bind_eq_some_iff.mp h
    obtain ⟨machines, hb, rfl⟩ := Option.map_eq_some_iff.mp hm
    obtain ⟨hn, rfl⟩ := bindVar_some hb
    exact .inr (.inl ⟨r, m, log, rfl, hr, hn, rfl, rfl, rfl⟩)
  | dropMachine m =>
    cases h
    exact .inr (.inr (.inl ⟨m, rfl, rfl, rfl, rfl⟩))
  | newBuilder b =>
    obtain ⟨_, _, rfl⟩ := Option.map_eq_some_iff.mp h
    exact .inr (.inr (.inr ⟨rfl, rfl, rfl, trivial⟩))
  | build b r =>
    obtain ⟨_, _, hb⟩ := Option.bind_eq_some_iff.mp h
    obtain ⟨_, _, rfl⟩ := Option.map_eq_some_iff.mp hb
    exact .inr (.inr (.inr ⟨rfl, rfl, rfl, trivial⟩))
  | empty r =>
    obtain ⟨_, _, rfl⟩ := Option.map_eq_some_iff.mp h
    exact .inr (.inr (.inr ⟨rfl, rfl, rfl, trivial⟩))
  | dropBuilder b | dropToken r =>
    cases h
    exact .inr (.inr (.inr ⟨rfl, rfl, rfl, trivial⟩))

def TableIsHistory (s : State) : Prop := ∀ n, s.table n = installed s.history n

lemma installed_concat (log : Log) (k n : ℕ) (handler : Option FnPtr) :
    installed (log ++ [(k, handler)]) n = if k = n then handler else installed log n := by
  rw [installed, lastWrite_concat]
  split <;> rfl

lemma tableIsHistory_step {s t : State} {op : Op} (hs : TableIsHistory s)
    (h : step s op = some t) : TableIsHistory t := by
  intro n
  rcases step_cases h with ⟨_, num, handler, _, _, ht, hh⟩ | ⟨_, _, _, _, _, _, _, ht, hh⟩ |
    ⟨_, _, _, ht, hh⟩ | ⟨_, ht, hh, _⟩
  · rw [ht, hh, installed_concat, Function.update_apply]
    by_cases hn : n = num.get.toNat
    · rw [if_pos hn, if_pos hn.symm]
    · rw [if_neg hn, if_neg (Ne.symm hn), hs n]
  all_goals rw [ht, hh, hs n]

lemma finalized_step {s t : State} {op : Op} (hs : TableIsHistory s) (hf : Finalized s)
    (h : step s op = some t) : Finalized t ↔ Disciplined s op := by
  rcases step_cases h with ⟨b, num, handler, rfl, hm, ht, _⟩ | ⟨r, m, log, rfl, hr, hn, hm, ht, _⟩ |
    ⟨m, rfl, hm, ht, _⟩ | ⟨hm, ht, _, hd⟩
  · refine ⟨?_, ?_⟩
    · rintro hft ⟨m, log, hl⟩
      have hnum := num.get_lt
      have hold := hf m log hl _ hnum
      have hnew := hft m log (hm ▸ hl) _ hnum
      rw [ht, Function.update_self] at hnew
      rw [← hs, hold, ← hnew]
    · intro hd m log hl n hn
      rw [hm] at hl
      rw [ht, Function.update_apply]
      split
      · next he => rw [← hd ⟨m, log, hl⟩, ← hs, ← he, hf m log hl n hn]
      · exact hf m log hl n hn
  · refine ⟨?_, ?_⟩
    · intro hft log' hr' n hn'
      obtain rfl : log = log' := Option.some.inj (hr.symm.trans hr')
      rw [← hs, ← ht]
      exact hft m log (by rw [hm, Function.update_self]) n hn'
    · intro hd m' log' hl n hn'
      rw [hm, Function.update_apply] at hl
      rw [ht]
      split at hl
      · cases hl
        rw [hs, hd log hr n hn']
      · exact hf m' log' hl n hn'
  · refine ⟨fun _ => trivial, fun _ m' log hl n hn => ?_⟩
    rw [hm, dropVar, Function.update_apply] at hl
    rw [ht]
    split at hl
    · cases hl
    · exact hf m' log hl n hn
  · refine ⟨fun _ => hd, fun _ m log hl n hn => ?_⟩
    rw [hm] at hl
    rw [ht]
    exact hf m log hl n hn

/-- Over every run, all live machines have final handlers throughout if and only if every
registration and every creation of a machine keeps the discipline. -/
theorem finalized_iff_disciplined (ops : List Op) :
    Throughout step Finalized initial ops ↔ EveryStep step Disciplined initial ops :=
  throughout_iff_everyStep
    (throughout_of_step (fun _ => rfl) fun _ _ _ hs h => tableIsHistory_step hs h)
    (fun _ _ h => nomatch h) fun _ _ _ hs hf h => finalized_step hs hf h

theorem empty_token_dispatches : ∃ s, run step initial
      [.newBuilder 0, .register 0 ⟨1, by decide⟩ (.new ⟨"host", "hello"⟩), .dropBuilder 0, .empty 0,
        .newMachine 0 0] = some s ∧ s.machines 0 = some [] ∧ s.table 1 = some ⟨"host", "hello"⟩ ∧
      ¬ Finalized s := by
  refine ⟨_, rfl, rfl, rfl, fun h => ?_⟩
  exact absurd (h 0 [] rfl 1 (by decide)) (by decide)

end Libriscv.Dispatch

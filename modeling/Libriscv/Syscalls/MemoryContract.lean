import Libriscv.Syscalls.GuestMemory

/-! Sequences of memory operations: what each of them does to the guest and to the host. -/

namespace Libriscv.GuestMemory

open Foundations

variable {τ : Type}

def performAll (ctx : SyscallContext) : List MemOp → Ffi (List Report)
  | [] => pure []
  | op :: ops => do
    let report ← op.perform ctx
    let reports ← performAll ctx ops
    pure (report :: reports)

def writesOf : List MemOp → List Report → List (Addr × Bytes)
  | op :: ops, report :: reports =>
    if op.kind = .writable ∧ report.error = none then (op.addr, op.host) :: writesOf ops reports
    else writesOf ops reports
  | _, _ => []

structure Contract (granted : Prop) (op : MemOp) (before after : Memory 64 UInt8)
    (report : Report) : Prop where
  succeeds : report.error = none ↔ op.length = 0 ∨ op.length ≤ u32Max ∧ granted
  yields : report.error = none → op.kind = .readOnly →
    report.host = (List.range op.length).map (fun i => before (op.addr + BitVec.ofNat 64 i)) ∧
      after = before
  changes : report.error = none → op.kind = .writable →
    (∀ i, ∀ h : i < op.host.length, after (op.addr + BitVec.ofNat 64 i) = op.host[i]) ∧
      ∀ x, (∀ i < op.host.length, x ≠ op.addr + BitVec.ofNat 64 i) → after x = before x
  empty : op.length = 0 → after = before ∧ report.host = op.host
  refused : report.error ≠ none → after = before ∧ report.host = op.host

lemma length_host (op : MemOp) (h : op.kind = .writable) : op.host.length = op.length := by
  cases op with
  | write dst data => rfl
  | writePod T sized dst value => exact T.length_bytesOf value
  | read | readPod => cases h

lemma empty_contract {granted : Prop} {op : MemOp} (h0 : op.length = 0)
    (mem : Memory 64 UInt8) : Contract granted op mem mem ⟨none, op.host⟩ where
  succeeds := by simp [h0]
  yields _ hk := by
    cases op with
    | read src dst =>
      obtain rfl : dst = [] := List.length_eq_zero_iff.mp h0
      exact ⟨rfl, rfl⟩
    | readPod T sized src => exact absurd h0 sized.ne'
    | write | writePod => cases hk
  changes _ hk := by
    have hl := (length_host op hk).trans h0
    exact ⟨fun i hi => by omega, fun _ _ => rfl⟩
  empty _ := ⟨rfl, rfl⟩
  refused _ := ⟨rfl, rfl⟩

lemma refused_contract {granted : Prop} {op : MemOp} (h0 : op.length ≠ 0)
    (h : ¬ (op.length ≤ u32Max ∧ granted)) (mem : Memory 64 UInt8) (e : Error) :
    Contract granted op mem mem ⟨some e, op.host⟩ where
  succeeds := by simp [h0, h]
  yields he := nomatch he
  changes he := nomatch he
  empty he := absurd he h0
  refused _ := ⟨rfl, rfl⟩

lemma read_contract {granted : Prop} {op : MemOp} (hk : op.kind = .readOnly) (h0 : op.length ≠ 0)
    (h : op.length ≤ u32Max ∧ granted) (mem : Memory 64 UInt8) :
    Contract granted op mem mem ⟨none, mem.load op.addr op.length⟩ where
  succeeds := by simp [h]
  yields _ _ := ⟨rfl, rfl⟩
  changes _ hw := by rw [hk] at hw; cases hw
  empty he := absurd he h0
  refused he := absurd rfl he

lemma write_contract {granted : Prop} {op : MemOp} (hk : op.kind = .writable) (h0 : op.length ≠ 0)
    (h : op.length ≤ u32Max ∧ granted) (mem : Memory 64 UInt8) :
    Contract granted op mem (mem.store op.addr op.host) ⟨none, op.host⟩ where
  succeeds := by simp [h]
  yields _ hr := by rw [hk] at hr; cases hr
  changes _ _ := by
    have hl := length_host op hk
    have hm : u32Max < 2 ^ 64 := by decide
    exact ⟨fun i hi => mem.store_inside _ _ hi (by omega), fun _ hx => mem.store_outside hx⟩
  empty he := absurd he h0
  refused he := absurd rfl he

lemma ideal_contract (policy : ViewPolicy τ) (op : MemOp) (s : State τ) :
    Contract ((policy op.kind op.addr op.length s.2).1 = true) op s.1 (op.ideal policy s).2.1
      (op.ideal policy s).1 := by
  by_cases h0 : op.length = 0
  · rw [ideal_zero policy s op h0]
    exact empty_contract h0 s.1
  by_cases hl : op.length > u32Max
  · rw [ideal_long policy s op hl]
    exact refused_contract h0 (by omega) s.1 _
  by_cases hg : (policy op.kind op.addr op.length s.2).1 = true
  · cases hk : op.kind with
    | readOnly =>
      rw [ideal_read policy s op hk h0 hl hg, ← hk]
      exact read_contract hk h0 ⟨by omega, hg⟩ s.1
    | writable =>
      rw [ideal_write policy s op hk h0 hl hg, ← hk]
      exact write_contract hk h0 ⟨by omega, hg⟩ s.1
  · rw [ideal_denied policy s op h0 hl hg]
    exact refused_contract h0 (fun h => hg h.2) s.1 _

lemma ideal_memory (policy : ViewPolicy τ) (op : MemOp) (s : State τ) :
    (op.ideal policy s).2.1 =
      if op.kind = .writable ∧ (op.ideal policy s).1.error = none then s.1.store op.addr op.host
      else s.1 := by
  by_cases h0 : op.length = 0
  · rw [ideal_zero policy s op h0]
    split
    · next h =>
      have hh : op.host = [] := List.length_eq_zero_iff.mp ((length_host op h.1).trans h0)
      rw [hh, Memory.store_nil]
    · rfl
  by_cases hl : op.length > u32Max
  · rw [ideal_long policy s op hl, if_neg (fun h => nomatch h.2)]
  by_cases hg : (policy op.kind op.addr op.length s.2).1 = true
  · cases hk : op.kind with
    | readOnly => rw [ideal_read policy s op hk h0 hl hg, if_neg (fun h => nomatch h.1)]
    | writable => rw [ideal_write policy s op hk h0 hl hg, if_pos ⟨rfl, rfl⟩]
  · rw [ideal_denied policy s op h0 hl hg, if_neg (fun h => nomatch h.2)]

lemma performAll_replay (policy : ViewPolicy τ) (ctx : SyscallContext) (ops : List MemOp)
    (s : State τ) : ∃ reports t, (performAll ctx ops).run (library policy) s =
      (some reports, s.1.replay (writesOf ops reports), t) := by
  induction ops generalizing s with
  | nil => exact ⟨[], s.2, rfl⟩
  | cons op ops ih =>
    obtain ⟨reports, t, hr⟩ := ih (op.ideal policy s).2
    refine ⟨(op.ideal policy s).1 :: reports, t, ?_⟩
    rw [performAll, Program.run_bind, perform_agrees policy s ctx op]
    simp only [Program.run_bind, hr, Program.pure_eq, Program.run_ret, writesOf, ideal_memory]
    split
    · rw [Memory.replay_cons]
    · rfl

/-- After any sequence of operations, every further one refines the ideal byte memory: it sees in
each cell what was last written there, and it takes effect completely or not at all. -/
theorem memory_operations_refine (policy : ViewPolicy τ) (ctx : SyscallContext)
    (initial : Memory 64 UInt8) (hidden : τ) (earlier : List MemOp) (op : MemOp) :
    ∃ reports t, (performAll ctx earlier).run (library policy) (initial, hidden) =
        (some reports, initial.replay (writesOf earlier reports), t) ∧
      ∃ report after u, (op.perform ctx).run (library policy)
          (initial.replay (writesOf earlier reports), t) = (some report, after, u) ∧
        Contract ((policy op.kind op.addr op.length t).1 = true) op
          (initial.replay (writesOf earlier reports)) after report := by
  obtain ⟨reports, t, hr⟩ := performAll_replay policy ctx earlier (initial, hidden)
  let s : State τ := (initial.replay (writesOf earlier reports), t)
  exact ⟨reports, t, hr, (op.ideal policy s).1, (op.ideal policy s).2.1, (op.ideal policy s).2.2,
    perform_agrees policy s ctx op, ideal_contract policy op s⟩

end Libriscv.GuestMemory

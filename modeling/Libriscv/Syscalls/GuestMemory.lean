import Libriscv.Foundations.WordMemory
import Libriscv.Syscalls.Context

/-! Handler-side memory access against an ideal byte memory, over any sequence of operations. -/

namespace Libriscv.GuestMemory

open Foundations

inductive ViewKind
  | readOnly
  | writable
  deriving DecidableEq, Repr

/-- Which ranges libriscv exposes. An answer may depend on, and change, hidden state. -/
abbrev ViewPolicy (τ : Type) := ViewKind → Addr → ℕ → τ → Bool × τ

abbrev State (τ : Type) := Memory 64 UInt8 × τ

variable {τ : Type}

def grantView (policy : ViewPolicy τ) (kind : ViewKind) (a : Addr) (n : ℕ) (s : State τ) :
    Option ViewPointer × State τ :=
  let decision := policy kind a n s.2
  (if decision.1 then some ⟨a, n⟩ else none, s.1, decision.2)

def library (policy : ViewPolicy τ) : Handler native (State τ)
  | .foreign (.memview _ a n), s => grantView policy .readOnly a n.toNat s
  | .foreign (.writableMemview _ a n), s => grantView policy .writable a n.toNat s
  | .foreign _, s => (default, s)
  | .load view, s => (s.1.load view.ptr.addr view.len, s)
  | .store view bytes, s => ((), s.1.store view.ptr.addr bytes, s.2)

inductive MemOp : Type 1
  | read (src : Addr) (dst : Bytes)
  | write (dst : Addr) (data : Bytes)
  | readPod (T : PodType) (sized : 0 < T.size) (src : Addr)
  | writePod (T : PodType) (sized : 0 < T.size) (dst : Addr) (value : T.Carrier)

namespace MemOp

def kind : MemOp → ViewKind
  | .read .. | .readPod .. => .readOnly
  | .write .. | .writePod .. => .writable

def addr : MemOp → Addr
  | .read a _ | .write a _ | .readPod _ _ a | .writePod _ _ a _ => a

def host : MemOp → Bytes
  | .read _ dst => dst
  | .write _ data => data
  | .readPod .. => []
  | .writePod T _ _ value => T.bytesOf value

def length : MemOp → ℕ
  | .read _ dst => dst.length
  | .write _ data => data.length
  | .readPod T .. | .writePod T .. => T.size

end MemOp

structure Report where
  error : Option Error
  host : Bytes
  deriving DecidableEq, Repr

def errorOf {α : Type} : Except Error α → Option Error
  | .ok _ => none
  | .error e => some e

def MemOp.perform (ctx : SyscallContext) : MemOp → Ffi Report
  | .read src dst => do
    let (result, dst) ← ctx.read src dst
    pure ⟨errorOf result, dst⟩
  | .write dst data => do
    let result ← (ctx.write dst data).run
    pure ⟨errorOf result, data⟩
  | .readPod T _ src => do
    match ← (ctx.readPod T src).run with
    | .ok value => pure ⟨none, T.bytesOf value⟩
    | .error e => pure ⟨some e, []⟩
  | .writePod T _ dst value => do
    let result ← (ctx.writePod T dst value).run
    pure ⟨errorOf result, T.bytesOf value⟩

def ViewKind.op : ViewKind → String
  | .readOnly => "libriscv_memview"
  | .writable => "libriscv_writable_memview"

def MemOp.refusal (op : MemOp) : Error :=
  if op.length > u32Max then .lengthTooLarge op.kind.op op.length else .nullPointer op.kind.op

/-- The ideal memory: an operation takes effect completely when its length fits and the view is
granted, and has no effect otherwise. -/
def MemOp.ideal (policy : ViewPolicy τ) (op : MemOp) (s : State τ) : Report × State τ :=
  if op.length = 0 then (⟨none, op.host⟩, s)
  else if op.length > u32Max then (⟨some op.refusal, op.host⟩, s)
  else
    let decision := policy op.kind op.addr op.length s.2
    if decision.1 then
      match op.kind with
      | .readOnly => (⟨none, s.1.load op.addr op.length⟩, s.1, decision.2)
      | .writable => (⟨none, op.host⟩, s.1.store op.addr op.host, decision.2)
    else (⟨some op.refusal, op.host⟩, s.1, decision.2)

section

variable (policy : ViewPolicy τ) (s : State τ)

lemma grantView_some {kind : ViewKind} {a : Addr} {n : ℕ} (h : (policy kind a n s.2).1 = true) :
    grantView policy kind a n s = (some ⟨a, n⟩, s.1, (policy kind a n s.2).2) := by
  rw [grantView, if_pos h]

lemma grantView_none {kind : ViewKind} {a : Addr} {n : ℕ} (h : ¬ (policy kind a n s.2).1 = true) :
    grantView policy kind a n s = (none, s.1, (policy kind a n s.2).2) := by
  rw [grantView, if_neg h]

def view (ctx : SyscallContext) : ViewKind → Addr → ℕ → FfiResult Slice
  | .readOnly => ctx.memview
  | .writable => ctx.writableMemview

variable (ctx : SyscallContext) (kind : ViewKind) (a : Addr) {n : ℕ}

lemma view_long (h : n > u32Max) : (view ctx kind a n).run.run (library policy) s =
    (some (.error (.lengthTooLarge kind.op n)), s) := by
  cases kind with
  | readOnly => rw [view, SyscallContext.memview, SyscallContext.exposeView_long _ _ h]; rfl
  | writable => rw [view, SyscallContext.writableMemview, SyscallContext.exposeView_long _ _ h]; rfl

lemma view_short (h : ¬ n > u32Max) : (view ctx kind a n).run.run (library policy) s =
    (some (match (grantView policy kind a n s).1 with
      | some ptr => .ok ⟨ptr, n⟩
      | none => .error (.nullPointer kind.op)), (grantView policy kind a n s).2) := by
  cases kind with
  | readOnly =>
    rw [view, SyscallContext.memview, SyscallContext.exposeView_short _ _ h, call_bind,
      Program.run_call, library, toNat_ofNat_short h]
    cases (grantView policy .readOnly a n s).1 <;> rfl
  | writable =>
    rw [view, SyscallContext.writableMemview, SyscallContext.exposeView_short _ _ h, call_bind,
      Program.run_call, library, toNat_ofNat_short h]
    cases (grantView policy .writable a n s).1 <;> rfl

lemma view_granted (h : ¬ n > u32Max) (hg : (policy kind a n s.2).1 = true) :
    (view ctx kind a n).run.run (library policy) s =
      (some (.ok ⟨⟨a, n⟩, n⟩), s.1, (policy kind a n s.2).2) := by
  rw [view_short policy s ctx kind a h, grantView_some policy s hg]

lemma view_denied (h : ¬ n > u32Max) (hg : ¬ (policy kind a n s.2).1 = true) :
    (view ctx kind a n).run.run (library policy) s =
      (some (.error (.nullPointer kind.op)), s.1, (policy kind a n s.2).2) := by
  rw [view_short policy s ctx kind a h, grantView_none policy s hg]

lemma ideal_zero (op : MemOp) (h : op.length = 0) : op.ideal policy s = (⟨none, op.host⟩, s) := by
  rw [MemOp.ideal, if_pos h]

lemma ideal_long (op : MemOp) (h : op.length > u32Max) :
    op.ideal policy s = (⟨some (.lengthTooLarge op.kind.op op.length), op.host⟩, s) := by
  rw [MemOp.ideal, if_neg (by omega), if_pos h, MemOp.refusal, if_pos h]

lemma ideal_denied (op : MemOp) (h0 : op.length ≠ 0) (h : ¬ op.length > u32Max)
    (hg : ¬ (policy op.kind op.addr op.length s.2).1 = true) : op.ideal policy s =
      (⟨some (.nullPointer op.kind.op), op.host⟩, s.1, (policy op.kind op.addr op.length s.2).2) := by
  simp only [MemOp.ideal, if_neg h0, if_neg h, if_neg hg, MemOp.refusal]

lemma ideal_read (op : MemOp) (hk : op.kind = .readOnly) (h0 : op.length ≠ 0)
    (h : ¬ op.length > u32Max) (hg : (policy op.kind op.addr op.length s.2).1 = true) :
    op.ideal policy s = (⟨none, s.1.load op.addr op.length⟩, s.1,
      (policy op.kind op.addr op.length s.2).2) := by
  rw [hk] at hg
  simp only [MemOp.ideal, if_neg h0, if_neg h, hk, if_pos hg]

lemma ideal_write (op : MemOp) (hk : op.kind = .writable) (h0 : op.length ≠ 0)
    (h : ¬ op.length > u32Max) (hg : (policy op.kind op.addr op.length s.2).1 = true) :
    op.ideal policy s = (⟨none, op.host⟩, s.1.store op.addr op.host,
      (policy op.kind op.addr op.length s.2).2) := by
  rw [hk] at hg
  simp only [MemOp.ideal, if_neg h0, if_neg h, hk, if_pos hg]

def MemOp.useView : MemOp → Slice → Ffi Report
  | .read _ dst, view => copyFromView dst view >>= fun dst => .ret ⟨none, dst⟩
  | .write _ data, view => view.copyFromSlice data >>= fun _ => .ret ⟨none, data⟩
  | .readPod T .., view => view.load >>= fun bytes => T.readUnaligned bytes >>= fun value =>
      .ret ⟨none, T.bytesOf value⟩
  | .writePod T _ _ value, view =>
    view.copyFromSlice (T.bytesOf value) >>= fun _ => .ret ⟨none, T.bytesOf value⟩

def MemOp.withView (op : MemOp) : Except Error Slice → Ffi Report
  | .error e => .ret ⟨some e, op.host⟩
  | .ok view => op.useView view

def Agrees (op : MemOp) : Prop :=
  (op.perform ctx).run (library policy) s = (some (op.ideal policy s).1, (op.ideal policy s).2)

lemma agrees_of_view {op : MemOp} (h0 : op.length ≠ 0)
    (hp : op.perform ctx = (view ctx op.kind op.addr op.length).run >>= op.withView)
    (hr : op.kind = .readOnly → ∀ t : State τ,
      (op.useView ⟨⟨op.addr, op.length⟩, op.length⟩).run (library policy) t =
        (some ⟨none, t.1.load op.addr op.length⟩, t))
    (hw : op.kind = .writable → ∀ t : State τ,
      (op.useView ⟨⟨op.addr, op.length⟩, op.length⟩).run (library policy) t =
        (some ⟨none, op.host⟩, t.1.store op.addr op.host, t.2)) : Agrees policy s ctx op := by
  simp only [Agrees]
  rw [hp, Program.run_bind]
  by_cases hl : op.length > u32Max
  · rw [view_long policy s ctx op.kind op.addr hl, ideal_long policy s op hl]
    rfl
  by_cases hg : (policy op.kind op.addr op.length s.2).1 = true
  · rw [view_granted policy s ctx op.kind op.addr hl hg]
    cases hk : op.kind with
    | readOnly => rw [ideal_read policy s op hk h0 hl hg, hk]; exact hr hk _
    | writable => rw [ideal_write policy s op hk h0 hl hg, hk]; exact hw hk _
  · rw [view_denied policy s ctx op.kind op.addr hl hg, ideal_denied policy s op h0 hl hg]
    rfl

lemma agrees_of_empty {op : MemOp} (h0 : op.length = 0)
    (hp : op.perform ctx = .ret ⟨none, op.host⟩) : Agrees policy s ctx op := by
  simp only [Agrees]
  rw [hp, ideal_zero policy s op h0]
  rfl

lemma read_agrees (dst : Bytes) : Agrees policy s ctx (.read a dst) := by
  by_cases h0 : dst.length = 0
  · obtain rfl := List.length_eq_zero_iff.mp h0
    exact agrees_of_empty policy s ctx rfl rfl
  refine agrees_of_view policy s ctx h0 ?_ ?_ (fun hk => nomatch hk)
  · rw [MemOp.perform, SyscallContext.read, if_neg (by simpa using h0), Program.bind_assoc]
    refine congrArg (_ >>= ·) (funext fun r => ?_)
    cases r with
    | error e => rfl
    | ok view => exact Program.bind_assoc _ _ _
  · intro _ t
    simp only [MemOp.useView, copyFromView, MemOp.length, if_true]
    rfl

lemma write_agrees (data : Bytes) : Agrees policy s ctx (.write a data) := by
  by_cases h0 : data.length = 0
  · obtain rfl := List.length_eq_zero_iff.mp h0
    exact agrees_of_empty policy s ctx rfl rfl
  refine agrees_of_view policy s ctx h0 ?_ (fun hk => nomatch hk) ?_
  · rw [MemOp.perform, SyscallContext.write, if_neg (by simpa using h0), ExceptT.run_bind,
      Program.bind_assoc]
    refine congrArg (_ >>= ·) (funext fun r => ?_)
    cases r with
    | error e => rfl
    | ok view => exact Program.bind_assoc _ _ _
  · intro _ t
    simp only [MemOp.useView, Slice.copyFromSlice, MemOp.length, if_true]
    rfl

lemma readPod_agrees (T : PodType) (sized : 0 < T.size) :
    Agrees policy s ctx (.readPod T sized a) := by
  refine agrees_of_view policy s ctx sized.ne' ?_ ?_ (fun hk => nomatch hk)
  · rw [MemOp.perform, SyscallContext.readPod, ExceptT.run_bind, Program.bind_assoc]
    refine congrArg (_ >>= ·) (funext fun r => ?_)
    cases r with
    | error e => rfl
    | ok view =>
      refine congrArg (Program.call (I := native) (.load view)) (funext fun bytes => ?_)
      exact Program.bind_assoc (T.readUnaligned bytes) (fun value => .ret (Except.ok value)) _
  · intro _ t
    have hb := t.1.length_load a T.size
    simp only [MemOp.useView, load_bind, Program.run_call, library, MemOp.length, MemOp.addr,
      PodType.readUnaligned, hb, if_true, Program.pure_eq, Program.ret_bind, Program.run_ret,
      T.bytesOf_ofBytes _ hb]

lemma writePod_agrees (T : PodType) (sized : 0 < T.size) (value : T.Carrier) :
    Agrees policy s ctx (.writePod T sized a value) := by
  refine agrees_of_view policy s ctx sized.ne' ?_ (fun hk => nomatch hk) ?_
  · rw [MemOp.perform, SyscallContext.writePod, ExceptT.run_bind, Program.bind_assoc]
    refine congrArg (_ >>= ·) (funext fun r => ?_)
    cases r with
    | error e => rfl
    | ok view => exact Program.bind_assoc _ _ _
  · intro _ t
    simp only [MemOp.useView, Slice.copyFromSlice, T.length_bytesOf, MemOp.length, if_true]
    rfl

lemma perform_agrees (op : MemOp) : Agrees policy s ctx op := by
  cases op with
  | read src dst => exact read_agrees policy s ctx src dst
  | write dst data => exact write_agrees policy s ctx dst data
  | readPod T sized src => exact readPod_agrees policy s ctx src T sized
  | writePod T sized dst value => exact writePod_agrees policy s ctx dst T sized value

end

end Libriscv.GuestMemory

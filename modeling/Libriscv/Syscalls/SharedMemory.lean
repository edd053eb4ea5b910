import Libriscv.Foundations.PossibleMemory
import Libriscv.Machines.Machine
import Libriscv.Syscalls.MemoryContract

/-! The host's copies and the handlers' views of one guest memory. -/

namespace Libriscv.SharedMemory

open Foundations GuestMemory

/-- What libriscv decides about accesses. A copy that it refuses may have copied some of its bytes:
the ones marked. -/
structure Policy (τ : Type) where
  view : ViewPolicy τ
  copy : ViewKind → Addr → ℕ → τ → (Int32 × (ℕ → Bool)) × τ
  string : Addr → ℕ → τ → Option UInt32 × τ
  message : Int32 → Option Bytes

variable {τ : Type}

/-- A buffer after a copy into it that broke off. -/
def blend (dst bytes : Bytes) (copied : ℕ → Bool) : Bytes :=
  (List.range dst.length).map fun i =>
    if copied i then (bytes[i]?).getD (dst.getD i 0) else dst.getD i 0

def library (policy : Policy τ) : Handler native (State τ)
  | .foreign (.copyToGuest _ dst src len), s =>
    let answer := policy.copy .writable dst len.toNat s.2
    (answer.1.1, if answer.1.1 = 0 then s.1.store dst (src.take len.toNat)
      else s.1.smear dst (src.take len.toNat) answer.1.2, answer.2)
  | .foreign (.copyFromGuest _ dst src len), s =>
    let answer := policy.copy .readOnly src len.toNat s.2
    ((answer.1.1, if answer.1.1 = 0 then s.1.load src len.toNat ++ dst.drop len.toNat
      else blend dst (s.1.load src len.toNat) answer.1.2), s.1, answer.2)
  | .foreign (.memstring _ src maxlen), s =>
    let answer := policy.string src maxlen.toNat s.2
    ((answer.1.map fun n => ⟨src, n.toNat⟩, answer.1.getD 0), s.1, answer.2)
  | .foreign (.strerror code), s => (policy.message code, s)
  | action, s => GuestMemory.library policy.view action s

/-- What the host does to a guest's memory between runs, and a handler does during one. -/
inductive Access : Type 1
  | handler (op : MemOp)
  | handlerMemstring (src : Addr) (maxlen : ℕ)
  | copyToGuest (dst : Addr) (src : Bytes)
  | copyFromGuest (src : Addr) (dst : Bytes)
  | readMemory (src : Addr) (len : ℕ)
  | writeMemory (dst : Addr) (data : Bytes)
  | memstring (src : Addr) (maxlen : UInt32)

def reportBytes : Except Error Bytes → Report
  | .ok bytes => ⟨none, bytes⟩
  | .error e => ⟨some e, []⟩

namespace Access

def perform (self : Machine) : Access → Ffi Report
  | .handler op => op.perform ⟨self.ptr⟩
  | .handlerMemstring src maxlen => do
    let result ← (SyscallContext.memstring ⟨self.ptr⟩ src maxlen >>= fun view => view.load).run
    pure (reportBytes result)
  | .copyToGuest dst src => do
    let result ← (self.copyToGuest dst src).run
    pure ⟨errorOf result, src⟩
  | .copyFromGuest src dst => do
    let (result, dst) ← self.copyFromGuest src dst
    pure ⟨errorOf result, dst⟩
  | .readMemory src len => do
    let result ← (self.readMemory src len).run
    pure (reportBytes result)
  | .writeMemory dst data => do
    let result ← (self.writeMemory dst data).run
    pure ⟨errorOf result, data⟩
  | .memstring src maxlen => do
    let result ← (self.memstring src maxlen).run
    pure (reportBytes result)

def target : Access → Option (Addr × Bytes)
  | .handler op => if op.kind = .writable then some (op.addr, op.host) else none
  | .copyToGuest dst bytes | .writeMemory dst bytes => some (dst, bytes)
  | _ => none

def source : Access → Option Addr
  | .handler op => if op.kind = .readOnly ∧ op.length ≠ 0 then some op.addr else none
  | .handlerMemstring src _ | .copyFromGuest src _ | .readMemory src _ | .memstring src _ =>
    some src
  | _ => none

/-- How much an access reads, where its caller decides. -/
def amount : Access → Option ℕ
  | .handler op => if op.kind = .readOnly then some op.length else none
  | .copyFromGuest _ dst => some dst.length
  | .readMemory _ len => some len
  | _ => none

def buffer : Access → Bytes
  | .handler op => op.host
  | .copyToGuest _ bytes | .writeMemory _ bytes | .copyFromGuest _ bytes => bytes
  | _ => []

def granted (policy : Policy τ) (hidden : τ) : Access → Prop
  | .handler op => op.length = 0 ∨
      op.length ≤ u32Max ∧ (policy.view op.kind op.addr op.length hidden).1 = true
  | .handlerMemstring src maxlen =>
    maxlen ≤ u32Max ∧ (policy.string src maxlen hidden).1.isSome = true
  | .copyToGuest dst bytes | .writeMemory dst bytes =>
    bytes.length ≤ u32Max ∧ (policy.copy .writable dst bytes.length hidden).1.1 = 0
  | .copyFromGuest src dst =>
    dst.length ≤ u32Max ∧ (policy.copy .readOnly src dst.length hidden).1.1 = 0
  | .readMemory src len =>
    len ≤ u32Max ∧ (policy.copy .readOnly src len hidden).1.1 = 0
  | .memstring src maxlen => (policy.string src maxlen.toNat hidden).1.isSome = true

end Access

/-- A C call reported a failure, perhaps halfway. -/
def broke (report : Report) : Bool :=
  match report.error with
  | some (.library ..) => true
  | _ => false

structure Contract (access : Access) (before after : Memory 64 UInt8) (report : Report) :
    Prop where
  writes : ∀ a bs, access.target = some (a, bs) → report.error = none → after = before.store a bs
  reads : ∀ a, access.source = some a → report.error = none →
    report.host = before.load a report.host.length
  whole : ∀ n, access.amount = some n → report.error = none → report.host.length = n
  refused : report.error ≠ none → broke report = false →
    after = before ∧ report.host = access.buffer
  inside : ∀ a bs, access.target = some (a, bs) → ∃ written, after = before.smear a bs written
  silent : access.target = none → after = before

section

variable (policy : Policy τ) (s : State τ)

lemma checkCode_ok (op : String) :
    (checkCode op 0).run.run (library policy) s = (some (.ok ()), s) := rfl

lemma checkCode_broke (op : String) {code : Int32} (h : code ≠ 0) : ∃ message,
    (checkCode op code).run.run (library policy) s =
      (some (.error (.library op code message)), s) := by
  rw [checkCode, if_neg h, errorMessage]
  split
  · exact ⟨none, rfl⟩
  · exact ⟨_, rfl⟩

end

def IsView : Action → Prop
  | .foreign (.memview ..) | .foreign (.writableMemview ..) | .load _ | .store .. => True
  | _ => False

lemma library_view (policy : Policy τ) (action : Action) (s : State τ) (h : IsView action) :
    library policy action s = GuestMemory.library policy.view action s := by
  cases action with
  | load view | store view bytes => rfl
  | foreign c => cases c <;> first | rfl | exact False.elim h

section

variable (ctx : SyscallContext)

lemma exposeView_isView (op : String) (expose : UInt32 → Ffi (Option ViewPointer))
    (he : ∀ n, (expose n).Always IsView fun _ => True) (len : ℕ) :
    (SyscallContext.exposeView op expose len).run.Always IsView fun _ => True := by
  by_cases h : len > u32Max
  · rw [SyscallContext.exposeView_long _ _ h]
    trivial
  · rw [SyscallContext.exposeView_short _ _ h]
    refine Program.always_bind (he _) fun ptr _ => ?_
    cases ptr <;> trivial

lemma memview_isView (src : Addr) (len : ℕ) :
    (ctx.memview src len).run.Always IsView fun _ => True :=
  exposeView_isView _ (fun n => call (.memview ctx.machine src n))
    (fun _ => ⟨trivial, fun _ => trivial⟩) len

lemma writableMemview_isView (dst : Addr) (len : ℕ) :
    (ctx.writableMemview dst len).run.Always IsView fun _ => True :=
  exposeView_isView _ (fun n => call (.writableMemview ctx.machine dst n))
    (fun _ => ⟨trivial, fun _ => trivial⟩) len

lemma copyFromSlice_isView (view : Slice) (data : Bytes) :
    (view.copyFromSlice data).Always IsView fun _ => True := by
  rw [Slice.copyFromSlice]
  split
  · exact ⟨trivial, fun _ => trivial⟩
  · trivial

lemma copyFromView_isView (dst : Bytes) (view : Slice) :
    (copyFromView dst view).Always IsView fun _ => True := by
  rw [copyFromView]
  split
  · exact ⟨trivial, fun _ => trivial⟩
  · trivial

lemma read_isView (src : Addr) (dst : Bytes) :
    (ctx.read src dst).Always IsView fun _ => True := by
  rw [SyscallContext.read]
  split
  · trivial
  · refine Program.always_bind (memview_isView ctx src dst.length) fun r _ => ?_
    cases r with
    | error e => trivial
    | ok view => exact Program.always_bind (copyFromView_isView dst view) fun _ _ => trivial

lemma write_isView (dst : Addr) (data : Bytes) :
    (ctx.write dst data).run.Always IsView fun _ => True := by
  rw [SyscallContext.write]
  split
  · trivial
  · rw [ExceptT.run_bind]
    refine Program.always_bind (writableMemview_isView ctx dst data.length) fun r _ => ?_
    cases r with
    | error e => trivial
    | ok view => exact Program.always_bind (copyFromSlice_isView view data) fun _ _ => trivial

lemma readPod_isView (T : PodType) (src : Addr) :
    (ctx.readPod T src).run.Always IsView fun _ => True := by
  rw [SyscallContext.readPod, ExceptT.run_bind]
  refine Program.always_bind (memview_isView ctx src T.size) fun r _ => ?_
  cases r with
  | error e => trivial
  | ok view =>
    refine ⟨trivial, fun bytes => ?_⟩
    change Program.Always IsView _ (T.readUnaligned bytes >>= _)
    rw [PodType.readUnaligned]
    split <;> trivial

lemma writePod_isView (T : PodType) (dst : Addr) (value : T.Carrier) :
    (ctx.writePod T dst value).run.Always IsView fun _ => True := by
  rw [SyscallContext.writePod, ExceptT.run_bind]
  refine Program.always_bind (writableMemview_isView ctx dst T.size) fun r _ => ?_
  cases r with
  | error e => trivial
  | ok view =>
    exact Program.always_bind (copyFromSlice_isView view (T.bytesOf value)) fun _ _ => trivial

lemma perform_isView (op : MemOp) : (op.perform ctx).Always IsView fun _ => True := by
  cases op with
  | read src dst => exact Program.always_bind (read_isView ctx src dst) fun _ _ => trivial
  | write dst data => exact Program.always_bind (write_isView ctx dst data) fun _ _ => trivial
  | readPod T sized src =>
    refine Program.always_bind (readPod_isView ctx T src) fun r _ => ?_
    cases r <;> trivial
  | writePod T sized dst value =>
    exact Program.always_bind (writePod_isView ctx T dst value) fun _ _ => trivial

lemma handler_run (policy : Policy τ) (op : MemOp) (s : State τ) :
    (op.perform ctx).run (library policy) s =
      (some (op.ideal policy.view s).1, (op.ideal policy.view s).2) := by
  rw [← perform_agrees policy.view s ctx op]
  exact Program.run_congr _ s (perform_isView ctx op) fun action t h => library_view policy action t h

end

end Libriscv.SharedMemory

import Libriscv.Errors

/-! The context of a syscall handler: its access to the machine that made the call. -/

namespace Libriscv

open Foundations

structure SyscallContext where
  machine : Handle
  deriving DecidableEq, Repr

structure PodType where
  Carrier : Type
  size : ℕ
  bytesOf : Carrier → Bytes
  ofBytes : Bytes → Carrier
  length_bytesOf : ∀ v, (bytesOf v).length = size
  bytesOf_ofBytes : ∀ bytes, bytes.length = size → bytesOf (ofBytes bytes) = bytes
  ofBytes_bytesOf : ∀ v, ofBytes (bytesOf v) = v

def PodType.readUnaligned (T : PodType) (bytes : Bytes) : Ffi T.Carrier :=
  -- `pod_read_unaligned` panics on a slice of another size
  if bytes.length = T.size then pure (T.ofBytes bytes) else .abort

def copyFromView (dst : Bytes) (view : Slice) : Ffi Bytes :=
  if dst.length = view.len then view.load else .abort

def Slice.copyFromSlice (view : Slice) (data : Bytes) : Ffi Unit :=
  if view.len = data.length then view.store data else .abort

namespace SyscallContext

def fromRaw (machine : Option Handle) : Option SyscallContext := machine.map .mk

variable (ctx : SyscallContext)

def exposeView (op : String) (expose : UInt32 → Ffi (Option ViewPointer)) (len : ℕ) :
    FfiResult Slice :=
  if len > u32Max then throw (.lengthTooLarge op len)
  else do
    let ptr ← expose (UInt32.ofNat len)
    let ptr ← nonNull op ptr
    pure ⟨ptr, len⟩

def memview (src : Addr) (len : ℕ) : FfiResult Slice :=
  exposeView "libriscv_memview" (fun n => call (.memview ctx.machine src n)) len

def writableMemview (src : Addr) (len : ℕ) : FfiResult Slice :=
  exposeView "libriscv_writable_memview" (fun n => call (.writableMemview ctx.machine src n)) len

def memstring (src : Addr) (maxlen : ℕ) : FfiResult Slice :=
  if maxlen > u32Max then throw (.lengthTooLarge "libriscv_memstring" maxlen)
  else do
    let (ptr, length) ← call (.memstring ctx.machine src (UInt32.ofNat maxlen))
    let ptr ← nonNull "libriscv_memstring" ptr
    pure ⟨ptr, length.toNat⟩

def read (src : Addr) (dst : Bytes) : Ffi (Except Error Unit × Bytes) :=
  if dst.isEmpty then pure (.ok (), dst)
  else do
    match ← (ctx.memview src dst.length).run with
    -- beside the result stands the caller's buffer as the call leaves it
    | .error e => pure (.error e, dst)
    | .ok view => do
      let dst ← copyFromView dst view
      pure (.ok (), dst)

def write (dst : Addr) (data : Bytes) : FfiResult Unit :=
  if data.isEmpty then pure ()
  else do
    let view ← ctx.writableMemview dst data.length
    view.copyFromSlice data

def readPod (T : PodType) (src : Addr) : FfiResult T.Carrier := do
  let view ← ctx.memview src T.size
  let bytes ← view.load
  T.readUnaligned bytes

def writePod (T : PodType) (dst : Addr) (value : T.Carrier) : FfiResult Unit := do
  let view ← ctx.writableMemview dst T.size
  view.copyFromSlice (T.bytesOf value)

def registers : FfiResult Pointer := do
  let ptr ← call (.getRegisters ctx.machine)
  nonNull "libriscv_get_registers" ptr

def stop : Ffi Unit := call (.stop ctx.machine)

def instructionCounter : Ffi UInt64 := call (.instructionCounter ctx.machine)

def maxInstructionCounter : Ffi (Option Pointer) := call (.maxCounterPointer ctx.machine)

def triggerException (exception : UInt32) (data : UInt64) : Ffi Unit :=
  call (.triggerException ctx.machine exception data)

def opaquePtr : Ffi (Option Pointer) := call (.opaquePtr ctx.machine)

section

variable (op : String) (expose : UInt32 → Ffi (Option ViewPointer))

lemma exposeView_long {len : ℕ} (h : len > u32Max) :
    (exposeView op expose len).run = .ret (.error (.lengthTooLarge op len)) := by
  rw [exposeView, if_pos h]
  rfl

lemma exposeView_short {len : ℕ} (h : ¬ len > u32Max) :
    (exposeView op expose len).run = expose (UInt32.ofNat len) >>= fun ptr =>
      match ptr with
      | some ptr => .ret (.ok ⟨ptr, len⟩)
      | none => .ret (.error (.nullPointer op)) := by
  rw [exposeView, if_neg h]
  generalize expose (UInt32.ofNat len) = p
  induction p with
  | ret ptr => cases ptr <;> rfl
  | abort => rfl
  | call action next ih => exact congrArg (Program.call (I := native) action) (funext ih)

end

end SyscallContext

end Libriscv

import Libriscv.Foundations.CStrings
import Libriscv.Foundations.Programs

/-! The raw libriscv C API: its types, its functions, and programs that call them. -/

namespace Libriscv

open Foundations

abbrev Bytes := List UInt8

abbrev Addr := BitVec 64

abbrev Handle := ℕ

def syscallsMax : UInt32 := 512
def u32Max : ℕ := 2 ^ 32 - 1
def riscvPageSize : UInt32 := 4096

lemma toNat_ofNat_short {n : ℕ} (h : ¬ n > u32Max) : (UInt32.ofNat n).toNat = n := by
  have hn : n < 2 ^ 32 := by unfold u32Max at h; omega
  exact UInt32.toNat_ofNat_of_lt' hn

/-- A `bool` as a C `int`. -/
def cInt (b : Bool) : Int32 := if b then 1 else 0

/-- The address of a function: the module that it is in, and its name there. -/
structure FnPtr where
  home : String
  symbol : String
  deriving DecidableEq, Repr

/-- What a view function returns: a pointer that is good for `extent` bytes of the guest at `addr`. -/
structure ViewPointer where
  addr : Addr
  extent : ℕ
  deriving DecidableEq, Repr, Inhabited

structure Slice where
  ptr : ViewPointer
  len : ℕ
  deriving DecidableEq, Repr

@[ext]
structure RISCVOptions where
  maxMemory : UInt64
  stackSize : UInt32
  strictSandbox : Int32
  argc : UInt32
  argv : Option Pointer
  error : Option FnPtr
  stdout : Option FnPtr
  opaquePtr : Option Pointer
  useMemoryArena : Int32
  useSharedExecuteSegments : Int32
  defaultExitFunction : Option Pointer
  loadProgram : Int32
  protectSegments : Int32
  nativeSyscallBase : UInt32
  arenaSize : UInt64
  deriving DecidableEq, Repr, Inhabited

def RISCVOptions.zeroed : RISCVOptions :=
  ⟨0, 0, 0, 0, none, none, none, none, 0, 0, none, 0, 0, 0, 0⟩

structure RISCVPageAttributes where
  read : Int32
  write : Int32
  exec : Int32
  isCow : Int32
  nonOwning : Int32
  dontFork : Int32
  userDefined : UInt8
  deriving DecidableEq, Repr, Inhabited

structure RISCVReallocResult where
  ptr : UInt64
  oldSize : UInt64
  deriving DecidableEq, Repr, Inhabited

/-- Calls into libriscv. A pointer argument stands for what C reads behind it. -/
inductive CCall
  | setDefaults (options : RISCVOptions)
  | new (elfProg : Bytes) (elfSize : UInt32) (o : RISCVOptions)
  | delete (m : Handle)
  | fastFork (parent : Handle) (opts : RISCVOptions)
  | run (m : Handle) (instructionLimit : UInt64)
  | stepOne (m : Handle) (verbose : Int32)
  | stop (m : Handle)
  | allowFile (m : Handle) (path : Bytes)
  | strerror (returnValue : Int32)
  | returnValue (m : Handle)
  | setResultRegister (m : Handle) (value : Int64)
  | addressOf (m : Handle) (name : Bytes)
  | opaquePtr (m : Handle)
  | instructionCounter (m : Handle)
  | maxCounterPointer (m : Handle)
  | instructionLimitReached (m : Handle)
  | isForked (m : Handle)
  | getParentPageData (parent : Handle) (pageno : UInt64)
  | setupArena (m : Handle) (syscallBase : UInt32) (addr : Addr) (size : UInt64)
  | hasArena (m : Handle)
  | arenaMalloc (m : Handle) (size : UInt64)
  | arenaFree (m : Handle) (ptr : Addr)
  | arenaRealloc (m : Handle) (ptr : Addr) (newSize : UInt64)
  | arenaSize (m : Handle) (ptr : Addr)
  | arenaHighWatermark (m : Handle)
  | transferArena (dst src : Handle)
  | heapAddress (m : Handle)
  | mmapAllocate (m : Handle) (bytes : UInt64)
  | stackInitial (m : Handle)
  | ownedPagesActive (m : Handle)
  | setupLinuxSyscalls (m : Handle) (filesystem sockets : Int32)
  | setupPosixThreads (m : Handle)
  | jump (m : Handle) (address : Addr)
  | setupVmcall (m : Handle) (address : Addr)
  | copyToGuest (m : Handle) (dst : Addr) (src : Bytes) (len : UInt32)
  | copyFromGuest (m : Handle) (dst : Bytes) (src : Addr) (len : UInt32)
  | memstring (m : Handle) (src : Addr) (maxlen : UInt32)
  | memview (m : Handle) (src : Addr) (length : UInt32)
  | writableMemview (m : Handle) (src : Addr) (length : UInt32)
  | getRegisters (m : Handle)
  | triggerException (m : Handle) (exception : UInt32) (data : UInt64)
  | insertNonOwnedMemory (m : Handle) (dst : Addr) (src : Option Pointer) (size : BitVec 64)
      (attr : RISCVPageAttributes)
  | arenaSetUnknownFree (m : Handle) (handler : Option FnPtr) (user : Option Pointer)
  | arenaSetUnknownRealloc (m : Handle) (handler : Option FnPtr) (user : Option Pointer)
  | setupNativeMemory (syscallBase : UInt32)
  | setSyscallHandler (num : UInt32) (handler : Option FnPtr)

@[reducible] def CCall.Answer : CCall → Type
  | .setDefaults _ => RISCVOptions
  | .new .. => Option Handle
  | .fastFork .. => Option Handle × RISCVOptions
  | .stepOne .. | .returnValue _ => Int64
  | .stop _ | .allowFile .. | .setResultRegister .. | .triggerException ..
  | .arenaSetUnknownFree .. | .arenaSetUnknownRealloc .. => Unit
  | .strerror _ => Option Bytes
  | .addressOf .. | .instructionCounter _ | .arenaMalloc .. | .arenaSize ..
  | .arenaHighWatermark _ | .heapAddress _ | .mmapAllocate .. | .stackInitial _
  | .ownedPagesActive _ => UInt64
  | .opaquePtr _ | .maxCounterPointer _ | .getRegisters _ => Option Pointer
  | .getParentPageData .. => Option Pointer × RISCVPageAttributes
  | .arenaRealloc .. => RISCVReallocResult
  | .copyFromGuest .. => Int32 × Bytes
  | .memstring .. => Option ViewPointer × UInt32
  | .memview .. | .writableMemview .. => Option ViewPointer
  | _ => Int32

instance (c : CCall) : Inhabited c.Answer := by cases c <;> exact inferInstance

def CCall.handles : CCall → List Handle
  | .setDefaults _ | .new .. | .strerror _ | .setupNativeMemory _ | .setSyscallHandler .. => []
  | .delete m | .fastFork m _ | .run m _ | .stepOne m _ | .stop m | .allowFile m _
  | .returnValue m | .setResultRegister m _ | .addressOf m _ | .opaquePtr m
  | .instructionCounter m | .maxCounterPointer m | .instructionLimitReached m
  | .isForked m | .getParentPageData m _ | .setupArena m _ _ _ | .hasArena m
  | .arenaMalloc m _ | .arenaFree m _ | .arenaRealloc m _ _ | .arenaSize m _
  | .arenaHighWatermark m | .heapAddress m | .mmapAllocate m _ | .stackInitial m
  | .ownedPagesActive m | .setupLinuxSyscalls m _ _ | .setupPosixThreads m | .jump m _
  | .setupVmcall m _ | .copyToGuest m _ _ _ | .copyFromGuest m _ _ _ | .memstring m _ _
  | .memview m _ _ | .writableMemview m _ _ | .getRegisters m | .triggerException m _ _
  | .insertNonOwnedMemory m _ _ _ _ | .arenaSetUnknownFree m _ _
  | .arenaSetUnknownRealloc m _ _ => [m]
  | .transferArena dst src => [dst, src]

def CCall.size : CCall → Option UInt32
  | .new _ n _ | .copyToGuest _ _ _ n | .copyFromGuest _ _ _ n | .memstring _ _ n
  | .memview _ _ n | .writableMemview _ _ n | .setSyscallHandler n _ => some n
  | _ => none

inductive Action
  | foreign (c : CCall)
  | load (view : Slice)
  | store (view : Slice) (bytes : Bytes)

@[reducible] def Action.Answer : Action → Type
  | .foreign c => c.Answer
  | .load _ => Bytes
  | .store .. => Unit

abbrev native : Interface := ⟨Action, Action.Answer⟩

abbrev Ffi := Program native

def call (c : CCall) : Ffi c.Answer := Program.perform (I := native) (.foreign c)

def Slice.load (view : Slice) : Ffi Bytes := Program.perform (I := native) (.load view)

def Slice.store (view : Slice) (bytes : Bytes) : Ffi Unit :=
  Program.perform (I := native) (.store view bytes)

@[simp] lemma call_bind {α : Type} (c : CCall) (f : c.Answer → Ffi α) :
    call c >>= f = Program.call (I := native) (.foreign c) f := rfl

@[simp] lemma load_bind {α : Type} (view : Slice) (f : Bytes → Ffi α) :
    view.load >>= f = Program.call (I := native) (.load view) f := rfl

@[simp] lemma store_bind {α : Type} (view : Slice) (bytes : Bytes) (f : Unit → Ffi α) :
    view.store bytes >>= f = Program.call (I := native) (.store view bytes) f := rfl

def foreignCalls (actions : List Action) : List CCall :=
  actions.filterMap fun | .foreign c => some c | _ => none

end Libriscv

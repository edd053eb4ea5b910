import Libriscv.Options.Builder
import Libriscv.Syscalls.Registry

/-! The machine wrapper: each method as the C calls that it makes. -/

namespace Libriscv

open Foundations

structure Machine where
  ptr : Handle
  -- libriscv points into these two while the machine lives
  elf : Bytes
  options : Options
  deriving DecidableEq, Repr

structure ForkedMachine where
  machine : Machine
  deriving DecidableEq, Repr

structure PageAttributes where
  read : Bool
  write : Bool
  execute : Bool
  copyOnWrite : Bool
  nonOwning : Bool
  dontFork : Bool
  userDefined : UInt8
  deriving DecidableEq, Repr

namespace PageAttributes

def fromRaw (raw : RISCVPageAttributes) : PageAttributes where
  read := raw.read ≠ 0
  write := raw.write ≠ 0
  execute := raw.exec ≠ 0
  copyOnWrite := raw.isCow ≠ 0
  nonOwning := raw.nonOwning ≠ 0
  dontFork := raw.dontFork ≠ 0
  userDefined := raw.userDefined

def intoRaw (self : PageAttributes) : RISCVPageAttributes where
  read := cInt self.read
  write := cInt self.write
  exec := cInt self.execute
  isCow := cInt self.copyOnWrite
  nonOwning := cInt self.nonOwning
  dontFork := cInt self.dontFork
  userDefined := self.userDefined

end PageAttributes

structure ArenaReallocResult where
  address : Option UInt64
  oldSize : UInt64
  deriving DecidableEq, Repr

def nonZero (value : UInt64) : Option UInt64 := if value = 0 then none else some value

def cString (text : Bytes) : FfiResult Bytes :=
  match text.findIdx? (· == 0) with
  | some nulPosition => throw (.nulError ⟨nulPosition, text⟩)
  | none => pure text

namespace Machine

def new (elf : Bytes) (options : Options) (_registry : SyscallRegistry) : FfiResult Machine :=
  if elf.length > u32Max then throw (.elfTooLarge elf.length)
  else do
    let ptr ← call (.new elf (UInt32.ofNat elf.length) options.raw)
    let ptr ← nonNull "libriscv_new" ptr
    pure ⟨ptr, elf, options⟩

def withDefaults (elf : Bytes) (registry : SyscallRegistry) : FfiResult Machine := do
  let options ← Options.new
  new elf options registry

variable (self : Machine)

def checked (op : String) (c : CCall) (code : c.Answer → Int32) : FfiResult Unit := do
  let answer ← call c
  checkCode op (code answer)

def run (instructionLimit : UInt64) : FfiResult Unit :=
  checked "libriscv_run" (.run self.ptr instructionLimit) id

def step (verbose : Bool) : FfiResult (Option UInt64) := do
  let value ← call (.stepOne self.ptr (cInt verbose))
  if value < 0 then checkCode "libriscv_step_one" value.toInt32
  pure (if value > 0 then some value.toUInt64 else none)

def stop : Ffi Unit := call (.stop self.ptr)

def allowFile (path : Bytes) : FfiResult Unit :=
  match toStr path with
  | none => throw .nonUtf8Path
  | some _ => do
    let cPath ← cString path
    call (.allowFile self.ptr cPath)

def returnValue : Ffi Int64 := call (.returnValue self.ptr)

def setResult (value : Int64) : Ffi Unit := call (.setResultRegister self.ptr value)

def addressOf (name : Bytes) : FfiResult (Option UInt64) := do
  let cName ← cString name
  let addr ← call (.addressOf self.ptr cName)
  pure (nonZero addr)

def opaquePtr : Ffi (Option Pointer) := call (.opaquePtr self.ptr)

def instructionCounter : Ffi UInt64 := call (.instructionCounter self.ptr)

def maxInstructionCounter : Ffi (Option Pointer) := call (.maxCounterPointer self.ptr)

def asked (c : CCall) (code : c.Answer → Int32) : Ffi Bool := do
  let answer ← call c
  pure (code answer ≠ 0)

def instructionLimitReached : Ffi Bool := asked (.instructionLimitReached self.ptr) id

def isForked : Ffi Bool := asked (.isForked self.ptr) id

def fastFork (options : Options) : FfiResult ForkedMachine := do
  let (ptr, raw) ← call (.fastFork self.ptr options.raw)
  let ptr ← nonNull "libriscv_fast_fork" ptr
  -- the fork owns no ELF bytes of its own
  pure ⟨⟨ptr, [], { options with raw }⟩⟩

def parentPage (pageNumber : UInt64) : Ffi (Option (Pointer × PageAttributes)) := do
  let (ptr, attributes) ← call (.getParentPageData self.ptr pageNumber)
  pure (ptr.map fun ptr => (ptr, .fromRaw attributes))

def setupArena (syscallBase : UInt32) (address : Addr) (size : UInt64) : FfiResult Unit :=
  checked "libriscv_setup_arena" (.setupArena self.ptr syscallBase address size) id

def hasArena : Ffi Bool := asked (.hasArena self.ptr) id

def arenaMalloc (size : UInt64) : Ffi (Option UInt64) := do
  let address ← call (.arenaMalloc self.ptr size)
  pure (nonZero address)

def arenaFree (address : Addr) : FfiResult Unit :=
  checked "libriscv_arena_free" (.arenaFree self.ptr address) id

def arenaRealloc (address : Addr) (newSize : UInt64) : Ffi ArenaReallocResult := do
  let result ← call (.arenaRealloc self.ptr address newSize)
  pure ⟨nonZero result.ptr, result.oldSize⟩

def arenaAllocationSize (address : Addr) : Ffi UInt64 := call (.arenaSize self.ptr address)

def arenaHighWatermark : Ffi UInt64 := call (.arenaHighWatermark self.ptr)

def setArenaUnknownFreeHandler (handler : FnPtr) (user : Option Pointer) : Ffi Unit :=
  call (.arenaSetUnknownFree self.ptr (some handler) user)

def setArenaUnknownReallocHandler (handler : FnPtr) (user : Option Pointer) : Ffi Unit :=
  call (.arenaSetUnknownRealloc self.ptr (some handler) user)

def transferArenaFrom (source : Machine) : FfiResult Unit :=
  checked "libriscv_transfer_arena" (.transferArena self.ptr source.ptr) id

def heapAddress : Ffi UInt64 := call (.heapAddress self.ptr)

def mmapAllocate (bytes : UInt64) : Ffi (Option UInt64) := do
  let address ← call (.mmapAllocate self.ptr bytes)
  pure (nonZero address)

def initialStackPointer : Ffi UInt64 := call (.stackInitial self.ptr)

def ownedPagesActive : Ffi UInt64 := call (.ownedPagesActive self.ptr)

def setupLinuxSyscalls (filesystem sockets : Bool) : FfiResult Unit :=
  checked "libriscv_setup_linux_syscalls" (.setupLinuxSyscalls self.ptr
    (cInt filesystem) (cInt sockets)) id

def setupPosixThreads : FfiResult Unit :=
  checked "libriscv_setup_posix_threads" (.setupPosixThreads self.ptr) id

def insertNonOwnedMemory (destination : Addr) (source : Option Pointer) (size : BitVec 64)
    (attributes : PageAttributes) : FfiResult Unit :=
  if (destination ||| size) &&& (riscvPageSize.toBitVec.setWidth 64 - 1) ≠ 0 then
    throw (.unalignedPageRange destination size)
  else checked "libriscv_insert_non_owned_memory"
    (.insertNonOwnedMemory self.ptr destination source size attributes.intoRaw) id

def jump (address : Addr) : FfiResult Unit := checked "libriscv_jump" (.jump self.ptr address) id

def setupVmcall (address : Addr) : FfiResult Unit :=
  checked "libriscv_setup_vmcall" (.setupVmcall self.ptr address) id

def copyToGuest (dst : Addr) (src : Bytes) : FfiResult Unit :=
  if src.length > u32Max then throw (.lengthTooLarge "libriscv_copy_to_guest" src.length)
  else checked "libriscv_copy_to_guest"
    (.copyToGuest self.ptr dst src (UInt32.ofNat src.length)) id

def copyFromGuest (src : Addr) (dst : Bytes) : Ffi (Except Error Unit × Bytes) :=
  if dst.length > u32Max then
    pure (.error (.lengthTooLarge "libriscv_copy_from_guest" dst.length), dst)
  else do
    let (code, dst) ← call (.copyFromGuest self.ptr dst src (UInt32.ofNat dst.length))
    let result ← (checkCode "libriscv_copy_from_guest" code).run
    pure (result, dst)

def readMemory (src : Addr) (len : ℕ) : FfiResult Bytes :=
  if len > u32Max then throw (.lengthTooLarge "read_memory" len)
  else do
    let (result, buf) ← self.copyFromGuest src (List.replicate len 0)
    result
    pure buf

def writeMemory (dst : Addr) (data : Bytes) : FfiResult Unit := self.copyToGuest dst data

def memstring (src : Addr) (maxlen : UInt32) : FfiResult Bytes := do
  let (ptr, length) ← call (.memstring self.ptr src maxlen)
  let ptr ← nonNull "libriscv_memstring" ptr
  Slice.load ⟨ptr, length.toNat⟩

def registers : FfiResult Pointer := do
  let ptr ← call (.getRegisters self.ptr)
  nonNull "libriscv_get_registers" ptr

def triggerException (exception : UInt32) (data : UInt64) : Ffi Unit :=
  call (.triggerException self.ptr exception data)

def drop : Ffi Unit := do
  let _ ← call (.delete self.ptr)
  pure ()

end Machine

def setupNativeMemory (syscallBase : UInt32) : FfiResult Unit :=
  Machine.checked "libriscv_setup_native_memory" (.setupNativeMemory syscallBase) id

end Libriscv

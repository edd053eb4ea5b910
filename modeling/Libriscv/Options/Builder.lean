import Libriscv.Errors

/-! Machine options: the raw struct for C, its builder, and the storage that C points into. -/

namespace Libriscv

open Foundations

structure ErrorHandler where
  raw : Option FnPtr
  deriving DecidableEq, Repr

structure StdoutHandler where
  raw : Option FnPtr
  deriving DecidableEq, Repr

def ErrorHandler.clear : ErrorHandler := ⟨none⟩
def StdoutHandler.clear : StdoutHandler := ⟨none⟩

structure CString where
  ptr : Pointer
  deriving DecidableEq, Repr

def CString.new (bytes : Bytes) (heap : Heap) : Except NulError (CString × Heap) :=
  match bytes.findIdx? (· == 0) with
  | some nulPosition => .error ⟨nulPosition, bytes⟩
  | none =>
    let (ptr, heap) := heap.alloc (.bytes (bytes ++ [0]))
    .ok (⟨ptr⟩, heap)

def collectCStrings : List Bytes → Heap → Except NulError (List CString × Heap)
  | [], heap => .ok ([], heap)
  | arg :: args, heap => do
    -- `collect` into a `Result` stops at the first failure
    let (cstring, heap) ← CString.new arg heap
    let (cstrings, heap) ← collectCStrings args heap
    .ok (cstring :: cstrings, heap)

def transposeCString : Option Bytes → Heap → Except NulError (Option CString × Heap)
  | none, heap => .ok (none, heap)
  | some symbol, heap => do
    let (cstring, heap) ← CString.new symbol heap
    .ok (some cstring, heap)

structure PtrVec where
  elems : List Pointer
  storage : Option Pointer
  deriving DecidableEq, Repr

def PtrVec.collect (elems : List Pointer) (heap : Heap) : PtrVec × Heap :=
  -- an empty vector has no storage
  if elems.isEmpty then (⟨[], none⟩, heap)
  else
    let (ptr, heap) := heap.alloc (.pointers elems)
    (⟨elems, some ptr⟩, heap)

structure OptionsKeepAlive where
  args : List CString
  argvPtrs : PtrVec
  defaultExitFunction : Option CString
  deriving DecidableEq, Repr

def OptionsKeepAlive.empty : OptionsKeepAlive := ⟨[], ⟨[], none⟩, none⟩

structure Options where
  raw : RISCVOptions
  keepalive : OptionsKeepAlive
  deriving DecidableEq, Repr

def defaultRawOptions : Ffi RISCVOptions := do
  let raw ← call (.setDefaults .zeroed)
  pure { raw with argc := 0, argv := none, error := none, stdout := none, opaquePtr := none }

def Options.new : Ffi Options := do
  let raw ← defaultRawOptions
  pure ⟨raw, .empty⟩

structure OptionsBuilder where
  raw : RISCVOptions
  args : List Bytes
  defaultExitFunction : Option Bytes
  deriving DecidableEq, Repr

namespace OptionsBuilder

def new : Ffi OptionsBuilder := do
  let raw ← defaultRawOptions
  pure ⟨raw, [], none⟩

variable (self : OptionsBuilder)

def maxMemory (bytes : UInt64) : OptionsBuilder :=
  { self with raw := { self.raw with maxMemory := bytes } }

def stackSize (bytes : UInt32) : OptionsBuilder :=
  { self with raw := { self.raw with stackSize := bytes } }

def strictSandbox (strict : Bool) : OptionsBuilder :=
  { self with raw := { self.raw with strictSandbox := cInt strict } }

def useMemoryArena (enabled : Bool) : OptionsBuilder :=
  { self with raw := { self.raw with useMemoryArena := cInt enabled } }

def useSharedExecuteSegments (enabled : Bool) : OptionsBuilder :=
  { self with raw := { self.raw with useSharedExecuteSegments := cInt enabled } }

def setDefaultExitFunction (symbol : Bytes) : OptionsBuilder :=
  { self with defaultExitFunction := some symbol }

def clearDefaultExitFunction : OptionsBuilder := { self with defaultExitFunction := none }

def loadProgram (enabled : Bool) : OptionsBuilder :=
  { self with raw := { self.raw with loadProgram := cInt enabled } }

def protectSegments (enabled : Bool) : OptionsBuilder :=
  { self with raw := { self.raw with protectSegments := cInt enabled } }

def nativeSyscallBase (base : UInt32) : OptionsBuilder :=
  { self with raw := { self.raw with nativeSyscallBase := base } }

def arenaSize (bytes : UInt64) : OptionsBuilder :=
  { self with raw := { self.raw with arenaSize := bytes } }

def setArgs (args : List Bytes) : OptionsBuilder := { self with args }

def clearArgs : OptionsBuilder := { self with args := [] }

def errorHandler (handler : ErrorHandler) : OptionsBuilder :=
  { self with raw := { self.raw with error := handler.raw } }

def stdoutHandler (handler : StdoutHandler) : OptionsBuilder :=
  { self with raw := { self.raw with stdout := handler.raw } }

def setOpaque (ptr : Option Pointer) : OptionsBuilder :=
  { self with raw := { self.raw with opaquePtr := ptr } }

def build (heap : Heap) : Except Error (Options × Heap) :=
  if self.args.length > u32Max then .error (.argsTooLarge self.args.length)
  else do
    let (args, heap) ← (collectCStrings self.args heap).mapError .nulError
    let (argvPtrs, heap) := PtrVec.collect (args.map CString.ptr) heap
    let (defaultExitFunction, heap) ←
      (transposeCString self.defaultExitFunction heap).mapError .nulError
    let raw := { self.raw with
      argc := UInt32.ofNat argvPtrs.elems.length
      argv := if argvPtrs.elems.isEmpty then none else argvPtrs.storage
      defaultExitFunction := defaultExitFunction.map CString.ptr }
    .ok (⟨raw, ⟨args, argvPtrs, defaultExitFunction⟩⟩, heap)

end OptionsBuilder

inductive BuilderCall
  | maxMemory (bytes : UInt64)
  | stackSize (bytes : UInt32)
  | strictSandbox (strict : Bool)
  | useMemoryArena (enabled : Bool)
  | useSharedExecuteSegments (enabled : Bool)
  | defaultExitFunction (symbol : Bytes)
  | clearDefaultExitFunction
  | loadProgram (enabled : Bool)
  | protectSegments (enabled : Bool)
  | nativeSyscallBase (base : UInt32)
  | arenaSize (bytes : UInt64)
  | args (args : List Bytes)
  | clearArgs
  | errorHandler (handler : ErrorHandler)
  | stdoutHandler (handler : StdoutHandler)
  | setOpaque (ptr : Option Pointer)
  deriving DecidableEq, Repr

def OptionsBuilder.apply (self : OptionsBuilder) : BuilderCall → OptionsBuilder
  | .maxMemory bytes => self.maxMemory bytes
  | .stackSize bytes => self.stackSize bytes
  | .strictSandbox strict => self.strictSandbox strict
  | .useMemoryArena enabled => self.useMemoryArena enabled
  | .useSharedExecuteSegments enabled => self.useSharedExecuteSegments enabled
  | .defaultExitFunction symbol => self.setDefaultExitFunction symbol
  | .clearDefaultExitFunction => self.clearDefaultExitFunction
  | .loadProgram enabled => self.loadProgram enabled
  | .protectSegments enabled => self.protectSegments enabled
  | .nativeSyscallBase base => self.nativeSyscallBase base
  | .arenaSize bytes => self.arenaSize bytes
  | .args args => self.setArgs args
  | .clearArgs => self.clearArgs
  | .errorHandler handler => self.errorHandler handler
  | .stdoutHandler handler => self.stdoutHandler handler
  | .setOpaque ptr => self.setOpaque ptr

end Libriscv

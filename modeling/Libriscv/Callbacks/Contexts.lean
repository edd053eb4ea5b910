import Libriscv.Macros.Handlers
import Libriscv.Syscalls.Context

/-! The contexts of the three callbacks, and how a trampoline makes them from its C arguments. -/

namespace Libriscv

open Foundations Macros

inductive ErrorType
  | generalException
  | machineException
  | machineTimeout
  | unknown (code : Int32)
  deriving DecidableEq, Repr

namespace ErrorType

def fromRaw (code : Int32) : ErrorType :=
  if code = -1 then generalException
  else if code = -2 then machineException
  else if code = -3 then machineTimeout
  else unknown code

def asRaw : ErrorType → Int32
  | generalException => -1
  | machineException => -2
  | machineTimeout => -3
  | unknown code => code

lemma asRaw_fromRaw (code : Int32) : (fromRaw code).asRaw = code := by
  simp only [fromRaw]
  split_ifs <;> simp_all [asRaw]

end ErrorType

structure ErrorContext where
  errorType : ErrorType
  message : Option Pointer
  data : Int64
  opaquePtr : Option Pointer
  deriving DecidableEq, Repr

structure HostSlice where
  ptr : Pointer
  len : ℕ
  deriving DecidableEq, Repr

/-- `data` is a `&[u8]`, which is `none` for the empty slice of the crate itself. -/
structure StdoutContext where
  data : Option HostSlice
  opaquePtr : Option Pointer
  deriving DecidableEq, Repr

structure ErrorArgs where
  opaquePtr : Option Pointer
  kind : Int32
  msg : Option Pointer
  data : Int64
  deriving DecidableEq, Repr

structure StdoutArgs where
  opaquePtr : Option Pointer
  msg : Option Pointer
  len : UInt32
  deriving DecidableEq, Repr

def ErrorContext.fromRaw (args : ErrorArgs) : ErrorContext where
  errorType := ErrorType.fromRaw args.kind
  message := args.msg
  data := args.data
  opaquePtr := args.opaquePtr

def StdoutContext.fromRaw (args : StdoutArgs) : StdoutContext where
  data :=
    match args.msg with
    | none => none
    | some msg => if args.len = 0 then none else some ⟨msg, args.len.toNat⟩
  opaquePtr := args.opaquePtr

namespace Macros.Callback

@[reducible] def Args : Callback → Type
  | syscall => Option Handle
  | error => ErrorArgs
  | stdout => StdoutArgs

@[reducible] def Context : Callback → Type
  | syscall => SyscallContext
  | error => ErrorContext
  | stdout => StdoutContext

def fromRaw : (c : Callback) → c.Args → Option c.Context
  | syscall, m => SyscallContext.fromRaw m
  | error, args => some (ErrorContext.fromRaw args)
  | stdout, args => some (StdoutContext.fromRaw args)

end Macros.Callback

end Libriscv

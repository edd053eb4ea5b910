import Libriscv.Machines.Machine
import Libriscv.Syscalls.Context

/-! The API calls with a length or an index, and what each of them asks of C. -/

namespace Libriscv.Lengths

open Foundations

inductive Use : Type 1
  | machineNew (elf : Bytes) (options : Options) (registry : SyscallRegistry)
  | copyToGuest (m : Machine) (dst : Addr) (src : Bytes)
  | writeMemory (m : Machine) (dst : Addr) (data : Bytes)
  | copyFromGuest (m : Machine) (src : Addr) (dst : Bytes)
  | readMemory (m : Machine) (src : Addr) (len : ℕ)
  | memview (ctx : SyscallContext) (src : Addr) (len : ℕ)
  | writableMemview (ctx : SyscallContext) (src : Addr) (len : ℕ)
  | memstring (ctx : SyscallContext) (src : Addr) (maxlen : ℕ)
  | read (ctx : SyscallContext) (src : Addr) (dst : Bytes)
  | write (ctx : SyscallContext) (dst : Addr) (data : Bytes)
  | readPod (ctx : SyscallContext) (T : PodType) (src : Addr)
  | writePod (ctx : SyscallContext) (T : PodType) (dst : Addr) (value : T.Carrier)
  | registerUsize (value : ℕ) (handler : SyscallHandler)
  | registerU32 (value : UInt32) (handler : SyscallHandler)
  | registerNew (index : UInt32) (handler : SyscallHandler)

namespace Use

def len : Use → ℕ
  | .machineNew bytes _ _ | .copyToGuest _ _ bytes | .writeMemory _ _ bytes
  | .copyFromGuest _ _ bytes | .read _ _ bytes | .write _ _ bytes => bytes.length
  | .readMemory _ _ len | .memview _ _ len | .writableMemview _ _ len | .memstring _ _ len => len
  | .readPod _ T _ | .writePod _ T _ _ => T.size
  | .registerUsize value _ => value
  | .registerU32 value _ | .registerNew value _ => value.toNat

def cCall (n : UInt32) : Use → CCall
  | .machineNew elf options _ => .new elf n options.raw
  | .copyToGuest m dst bytes | .writeMemory m dst bytes => .copyToGuest m.ptr dst bytes n
  | .copyFromGuest m src dst => .copyFromGuest m.ptr dst src n
  | .readMemory m src len => .copyFromGuest m.ptr (List.replicate len 0) src n
  | .memview ctx src _ | .read ctx src _ | .readPod ctx _ src => .memview ctx.machine src n
  | .writableMemview ctx dst _ | .write ctx dst _ | .writePod ctx _ dst _ =>
    .writableMemview ctx.machine dst n
  | .memstring ctx src _ => .memstring ctx.machine src n
  | .registerUsize _ handler | .registerU32 _ handler | .registerNew _ handler =>
    .setSyscallHandler n handler.raw

def refusal : Use → Error
  | .machineNew elf _ _ => .elfTooLarge elf.length
  | .copyToGuest _ _ bytes | .writeMemory _ _ bytes =>
    .lengthTooLarge "libriscv_copy_to_guest" bytes.length
  | .copyFromGuest _ _ dst => .lengthTooLarge "libriscv_copy_from_guest" dst.length
  | .readMemory _ _ len => .lengthTooLarge "read_memory" len
  | .memview _ _ len => .lengthTooLarge "libriscv_memview" len
  | .read _ _ dst => .lengthTooLarge "libriscv_memview" dst.length
  | .readPod _ T _ => .lengthTooLarge "libriscv_memview" T.size
  | .writableMemview _ _ len => .lengthTooLarge "libriscv_writable_memview" len
  | .write _ _ data => .lengthTooLarge "libriscv_writable_memview" data.length
  | .writePod _ T _ _ => .lengthTooLarge "libriscv_writable_memview" T.size
  | .memstring _ _ maxlen => .lengthTooLarge "libriscv_memstring" maxlen
  | .registerUsize value _ => .invalidSyscallIndex value 511
  | .registerU32 value _ | .registerNew value _ => .invalidSyscallIndex value.toNat 511

def limit : Use → ℕ
  | .registerUsize .. | .registerU32 .. | .registerNew .. => 511
  | _ => u32Max

/-- The accesses that return before they ask for a view. -/
def Skips : Use → Prop
  | .read _ _ bytes | .write _ _ bytes => bytes = []
  | _ => False

def outcome {α : Type} (slice : α → Option Slice) : Except Error α → Except Error (Option Slice)
  | .ok a => .ok (slice a)
  | .error e => .error e

def silent {α : Type} (p : FfiResult α) : Ffi (Except Error (Option Slice)) := do
  let result ← p.run
  pure (outcome (fun _ => none) result)

def exposing (p : FfiResult Slice) : Ffi (Except Error (Option Slice)) := do
  let result ← p.run
  pure (outcome some result)

def registering (id : Except Error SyscallId) (handler : SyscallHandler) : FfiResult Unit := do
  let id ← id
  SyscallRegistryBuilder.new.register id handler

def perform : Use → Ffi (Except Error (Option Slice))
  | .machineNew elf options registry => silent (Machine.new elf options registry)
  | .copyToGuest m dst src => silent (m.copyToGuest dst src)
  | .writeMemory m dst data => silent (m.writeMemory dst data)
  | .copyFromGuest m src dst => do
    let (result, _) ← m.copyFromGuest src dst
    pure (outcome (fun _ => none) result)
  | .readMemory m src len => silent (m.readMemory src len)
  | .memview ctx src len => exposing (ctx.memview src len)
  | .writableMemview ctx src len => exposing (ctx.writableMemview src len)
  | .memstring ctx src maxlen => silent (ctx.memstring src maxlen)
  | .read ctx src dst => do
    let (result, _) ← ctx.read src dst
    pure (outcome (fun _ => none) result)
  | .write ctx dst data => silent (ctx.write dst data)
  | .readPod ctx T src => silent (ctx.readPod T src)
  | .writePod ctx T dst value => silent (ctx.writePod T dst value)
  | .registerUsize value handler => silent (registering (SyscallId.tryFromUsize value) handler)
  | .registerU32 value handler => silent (registering (SyscallId.tryFromU32 value) handler)
  | .registerNew index handler => silent (registering (SyscallId.new index) handler)

end Use

end Libriscv.Lengths

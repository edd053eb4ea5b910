import Libriscv.Machines.Machine

/-! The safe methods of a machine: how each borrows it, and that each stays with its own handle. -/

namespace Libriscv

open Foundations

inductive Method
  | run (instructionLimit : UInt64)
  | step (verbose : Bool)
  | stop
  | allowFile (path : Bytes)
  | returnValue
  | setResult (value : Int64)
  | addressOf (name : Bytes)
  | opaquePtr
  | instructionCounter
  | maxInstructionCounter
  | instructionLimitReached
  | isForked
  | parentPage (pageNumber : UInt64)
  | setupArena (syscallBase : UInt32) (address : Addr) (size : UInt64)
  | hasArena
  | arenaMalloc (size : UInt64)
  | arenaFree (address : Addr)
  | arenaRealloc (address : Addr) (newSize : UInt64)
  | arenaAllocationSize (address : Addr)
  | arenaHighWatermark
  | heapAddress
  | mmapAllocate (bytes : UInt64)
  | initialStackPointer
  | ownedPagesActive
  | setupLinuxSyscalls (filesystem sockets : Bool)
  | setupPosixThreads
  | jump (address : Addr)
  | setupVmcall (address : Addr)
  | copyToGuest (dst : Addr) (src : Bytes)
  | copyFromGuest (src : Addr) (dst : Bytes)
  | readMemory (src : Addr) (len : ℕ)
  | writeMemory (dst : Addr) (data : Bytes)
  | memstring (src : Addr) (maxlen : UInt32)
  | registers
  deriving DecidableEq, Repr

namespace Method

def exclusive : Method → Bool
  | .returnValue | .addressOf _ | .opaquePtr | .instructionCounter | .instructionLimitReached
  | .isForked | .parentPage _ | .hasArena | .arenaHighWatermark | .heapAddress
  | .initialStackPointer | .ownedPagesActive => false
  | _ => true

def ignore {α : Type} (p : Ffi α) : Ffi Unit := p >>= fun _ => pure ()

def perform (self : Machine) : Method → Ffi Unit
  | .run instructionLimit => ignore (self.run instructionLimit).run
  | .step verbose => ignore (self.step verbose).run
  | .stop => self.stop
  | .allowFile path => ignore (self.allowFile path).run
  | .returnValue => ignore self.returnValue
  | .setResult value => self.setResult value
  | .addressOf name => ignore (self.addressOf name).run
  | .opaquePtr => ignore self.opaquePtr
  | .instructionCounter => ignore self.instructionCounter
  | .maxInstructionCounter => ignore self.maxInstructionCounter
  | .instructionLimitReached => ignore self.instructionLimitReached
  | .isForked => ignore self.isForked
  | .parentPage pageNumber => ignore (self.parentPage pageNumber)
  | .setupArena syscallBase address size => ignore (self.setupArena syscallBase address size).run
  | .hasArena => ignore self.hasArena
  | .arenaMalloc size => ignore (self.arenaMalloc size)
  | .arenaFree address => ignore (self.arenaFree address).run
  | .arenaRealloc address newSize => ignore (self.arenaRealloc address newSize)
  | .arenaAllocationSize address => ignore (self.arenaAllocationSize address)
  | .arenaHighWatermark => ignore self.arenaHighWatermark
  | .heapAddress => ignore self.heapAddress
  | .mmapAllocate bytes => ignore (self.mmapAllocate bytes)
  | .initialStackPointer => ignore self.initialStackPointer
  | .ownedPagesActive => ignore self.ownedPagesActive
  | .setupLinuxSyscalls filesystem sockets => ignore (self.setupLinuxSyscalls filesystem sockets).run
  | .setupPosixThreads => ignore self.setupPosixThreads.run
  | .jump address => ignore (self.jump address).run
  | .setupVmcall address => ignore (self.setupVmcall address).run
  | .copyToGuest dst src => ignore (self.copyToGuest dst src).run
  | .copyFromGuest src dst => ignore (self.copyFromGuest src dst)
  | .readMemory src len => ignore (self.readMemory src len).run
  | .writeMemory dst data => ignore (self.writeMemory dst data).run
  | .memstring src maxlen => ignore (self.memstring src maxlen).run
  | .registers => ignore self.registers.run

end Method

def CCall.lifecycle : CCall → Bool
  | .new .. | .fastFork .. | .delete _ => true
  | _ => false

/-- The action is about no machines but these, and makes or deletes none. -/
def Action.Within (machines : List Handle) : Action → Prop
  | .foreign c => (∀ m ∈ c.handles, m ∈ machines) ∧ c.lifecycle = false
  | .load _ | .store .. => True

abbrev Stays {α : Type} (machines : List Handle) (p : Ffi α) : Prop :=
  p.Always (Action.Within machines) fun _ => True

section

variable {α : Type} {machines : List Handle} {c : CCall}

lemma Stays.bind {β : Type} {p : Ffi α} {f : α → Ffi β} (hp : Stays machines p)
    (hf : ∀ a, Stays machines (f a)) : Stays machines (p >>= f) :=
  Program.always_bind hp fun a _ => hf a

lemma Stays.ignore {p : Ffi α} (hp : Stays machines p) : Stays machines (Method.ignore p) :=
  hp.bind fun _ => trivial

lemma stays_call (hc : (Action.foreign c).Within machines) : Stays machines (call c) :=
  ⟨hc, fun _ => trivial⟩

lemma stays_checkCode (op : String) (code : Int32) : Stays machines (checkCode op code).run :=
  checkCode_always op code ⟨fun _ h => (nomatch h), rfl⟩

lemma stays_checked (op : String) (code : c.Answer → Int32)
    (hc : (Action.foreign c).Within machines) : Stays machines (Machine.checked op c code).run :=
  ⟨hc, fun _ => stays_checkCode op _⟩

lemma stays_nonNull (op : String) (ptr : Option α) : Stays machines (nonNull op ptr).run := by
  cases ptr <;> trivial

lemma stays_cString {text : Bytes} {f : Bytes → FfiResult α}
    (hf : ∀ s, Stays machines (f s).run) : Stays machines (cString text >>= f).run := by
  rw [ExceptT.run_bind, cString]
  split
  · trivial
  · exact hf text

end

lemma within_self {c : CCall} {m : Handle} (h : c.handles = [m]) (hc : c.lifecycle = false) :
    (Action.foreign c).Within [m] :=
  ⟨fun _ hm => h ▸ hm, hc⟩

namespace Method

variable (self : Machine)

lemma stays_copyToGuest (dst : Addr) (src : Bytes) :
    Stays [self.ptr] (self.copyToGuest dst src).run := by
  simp only [Machine.copyToGuest]
  split
  · trivial
  · exact stays_checked _ _ (within_self rfl rfl)

lemma stays_copyFromGuest (src : Addr) (dst : Bytes) :
    Stays [self.ptr] (self.copyFromGuest src dst) := by
  simp only [Machine.copyFromGuest]
  split
  · trivial
  · refine ⟨within_self rfl rfl, fun answer => ?_⟩
    rcases answer with ⟨code, buf⟩
    change Stays _ ((checkCode _ code).run >>= fun result => .ret (result, buf))
    exact Stays.bind (stays_checkCode _ code) fun _ => trivial

lemma stays_readMemory (src : Addr) (len : ℕ) : Stays [self.ptr] (self.readMemory src len).run := by
  simp only [Machine.readMemory]
  split
  · trivial
  · rw [ExceptT.run_bind, Fallible.run_lift, Program.bind_assoc]
    refine Stays.bind (stays_copyFromGuest self src _) fun r => ?_
    rcases r with ⟨result | result, buf⟩ <;> trivial

theorem perform_stays (method : Method) : Stays [self.ptr] (method.perform self) := by
  cases method with
  | stop | setResult value => exact stays_call (within_self rfl rfl)
  | returnValue | opaquePtr | instructionCounter | maxInstructionCounter | instructionLimitReached
  | isForked | parentPage pageNumber | hasArena | arenaMalloc size | arenaRealloc address newSize
  | arenaAllocationSize address | arenaHighWatermark | heapAddress | mmapAllocate bytes
  | initialStackPointer | ownedPagesActive =>
    exact ⟨within_self rfl rfl, fun _ => trivial⟩
  | run instructionLimit | setupArena syscallBase address size | arenaFree address
  | setupLinuxSyscalls filesystem sockets | setupPosixThreads | jump address
  | setupVmcall address => exact (stays_checked _ _ (within_self rfl rfl)).ignore
  | registers => exact Stays.ignore ⟨within_self rfl rfl, fun _ => stays_nonNull _ _⟩
  | step verbose =>
    refine Stays.ignore ⟨within_self rfl rfl, fun value => ?_⟩
    change Stays _ (ExceptT.run (ite _ _ _))
    split
    · exact Stays.bind (stays_checkCode _ _) fun r => by cases r <;> trivial
    · trivial
  | allowFile path =>
    refine Stays.ignore ?_
    simp only [Machine.allowFile]
    split
    · trivial
    · exact stays_cString fun s => ⟨within_self rfl rfl, fun _ => trivial⟩
  | addressOf name =>
    exact Stays.ignore (stays_cString fun s => ⟨within_self rfl rfl, fun _ => trivial⟩)
  | copyToGuest dst src | writeMemory dst src =>
    exact (stays_copyToGuest self dst src).ignore
  | copyFromGuest src dst => exact (stays_copyFromGuest self src dst).ignore
  | readMemory src len => exact (stays_readMemory self src len).ignore
  | memstring src maxlen =>
    refine Stays.ignore ⟨within_self rfl rfl, fun r => ?_⟩
    rcases r with ⟨_ | ptr, length⟩
    · trivial
    · exact ⟨trivial, fun _ => trivial⟩

end Method

end Libriscv

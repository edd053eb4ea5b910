import Libriscv.Lengths.Passing
import Libriscv.Machines.Methods
import Libriscv.Machines.Provenance

/-! What reaches C: for each operation the one call that it stands for, or none. -/

namespace Libriscv.Conveyance

open Foundations Provenance

/-- The other operations of a machine and of its handlers, which cannot fail. -/
inductive Plain
  | stop
  | returnValue
  | setResult (value : Int64)
  | opaquePtr
  | instructionCounter
  | maxInstructionCounter
  | instructionLimitReached
  | isForked
  | parentPage (pageNumber : UInt64)
  | hasArena
  | arenaMalloc (size : UInt64)
  | arenaRealloc (address : Addr) (newSize : UInt64)
  | arenaAllocationSize (address : Addr)
  | arenaHighWatermark
  | setArenaUnknownFreeHandler (handler : FnPtr) (user : Option Pointer)
  | setArenaUnknownReallocHandler (handler : FnPtr) (user : Option Pointer)
  | heapAddress
  | mmapAllocate (bytes : UInt64)
  | initialStackPointer
  | ownedPagesActive
  | triggerException (exception : UInt32) (data : UInt64)
  | drop
  | handlerStop
  | handlerInstructionCounter
  | handlerMaxInstructionCounter
  | handlerTriggerException (exception : UInt32) (data : UInt64)
  | handlerOpaquePtr

def Plain.perform (self : Machine) : Plain → Ffi Unit
  | .stop => self.stop
  | .returnValue => Method.ignore self.returnValue
  | .setResult value => self.setResult value
  | .opaquePtr => Method.ignore self.opaquePtr
  | .instructionCounter => Method.ignore self.instructionCounter
  | .maxInstructionCounter => Method.ignore self.maxInstructionCounter
  | .instructionLimitReached => Method.ignore self.instructionLimitReached
  | .isForked => Method.ignore self.isForked
  | .parentPage pageNumber => Method.ignore (self.parentPage pageNumber)
  | .hasArena => Method.ignore self.hasArena
  | .arenaMalloc size => Method.ignore (self.arenaMalloc size)
  | .arenaRealloc address newSize => Method.ignore (self.arenaRealloc address newSize)
  | .arenaAllocationSize address => Method.ignore (self.arenaAllocationSize address)
  | .arenaHighWatermark => Method.ignore self.arenaHighWatermark
  | .setArenaUnknownFreeHandler handler user => self.setArenaUnknownFreeHandler handler user
  | .setArenaUnknownReallocHandler handler user => self.setArenaUnknownReallocHandler handler user
  | .heapAddress => Method.ignore self.heapAddress
  | .mmapAllocate bytes => Method.ignore (self.mmapAllocate bytes)
  | .initialStackPointer => Method.ignore self.initialStackPointer
  | .ownedPagesActive => Method.ignore self.ownedPagesActive
  | .triggerException exception data => self.triggerException exception data
  | .drop => self.drop
  | .handlerStop => SyscallContext.stop ⟨self.ptr⟩
  | .handlerInstructionCounter => Method.ignore (SyscallContext.instructionCounter ⟨self.ptr⟩)
  | .handlerMaxInstructionCounter =>
    Method.ignore (SyscallContext.maxInstructionCounter ⟨self.ptr⟩)
  | .handlerTriggerException exception data =>
    SyscallContext.triggerException ⟨self.ptr⟩ exception data
  | .handlerOpaquePtr => Method.ignore (SyscallContext.opaquePtr ⟨self.ptr⟩)

inductive Operation : Type 1
  | fallible (request : Request)
  | plain (op : Plain)

def Operation.perform (self : Machine) : Operation → Ffi Unit
  | .fallible request => Method.ignore (request.perform self).run
  | .plain op => op.perform self

/-- The arguments that an operation passes on to C. It refuses all others, and the two copies of a
handler have nothing to do for no bytes. -/
def Allowed : Request → Prop
  | .new elf _ _ | .withDefaults elf _ => elf.length ≤ u32Max
  | .allowFile path => (toStr path).isSome = true ∧ 0 ∉ path
  | .addressOf name => 0 ∉ name
  | .insertNonOwnedMemory destination _ size _ =>
    destination.toNat % 4096 = 0 ∧ size.toNat % 4096 = 0
  | .copyToGuest _ bytes | .writeMemory _ bytes | .copyFromGuest _ bytes => bytes.length ≤ u32Max
  | .readMemory _ len | .handlerMemview _ len | .handlerWritableMemview _ len
  | .handlerMemstring _ len => len ≤ u32Max
  | .handlerRead _ bytes | .handlerWrite _ bytes => bytes ≠ [] ∧ bytes.length ≤ u32Max
  | .handlerReadPod T _ | .handlerWritePod T _ _ => T.size ≤ u32Max
  | _ => True

instance : DecidablePred Allowed
  | .new .. | .withDefaults .. | .copyToGuest .. | .writeMemory .. | .copyFromGuest ..
  | .readMemory .. | .handlerMemview .. | .handlerWritableMemview .. | .handlerMemstring ..
  | .handlerReadPod .. | .handlerWritePod .. => inferInstanceAs (Decidable (_ ≤ _))
  | .allowFile _ | .insertNonOwnedMemory .. | .handlerRead .. | .handlerWrite .. =>
    inferInstanceAs (Decidable (_ ∧ _))
  | .addressOf _ => inferInstanceAs (Decidable (¬ _))
  | .register .. | .setupNativeMemory _ | .run _ | .step _ | .fastFork _ | .setupArena ..
  | .arenaFree _ | .transferArenaFrom _ | .setupLinuxSyscalls .. | .setupPosixThreads | .jump _
  | .setupVmcall _ | .memstring .. | .registers | .handlerRegisters => inferInstanceAs (Decidable True)

/-- The call that an operation stands for. The options of `withDefaults` come from C itself. -/
def asks (self : Machine) (defaults : Options) : Request → CCall
  | .new elf options _ => .new elf (UInt32.ofNat elf.length) options.raw
  | .withDefaults elf _ => .new elf (UInt32.ofNat elf.length) defaults.raw
  | .register num handler => .setSyscallHandler num.get handler.raw
  | .setupNativeMemory syscallBase => .setupNativeMemory syscallBase
  | .run instructionLimit => .run self.ptr instructionLimit
  | .step verbose => .stepOne self.ptr (if verbose then 1 else 0)
  | .allowFile path => .allowFile self.ptr path
  | .addressOf name => .addressOf self.ptr name
  | .fastFork options => .fastFork self.ptr options.raw
  | .setupArena syscallBase address size => .setupArena self.ptr syscallBase address size
  | .arenaFree address => .arenaFree self.ptr address
  | .transferArenaFrom source => .transferArena self.ptr source.ptr
  | .setupLinuxSyscalls filesystem sockets =>
    .setupLinuxSyscalls self.ptr (if filesystem then 1 else 0) (if sockets then 1 else 0)
  | .setupPosixThreads => .setupPosixThreads self.ptr
  | .insertNonOwnedMemory destination source size attributes =>
    .insertNonOwnedMemory self.ptr destination source size
      { read := if attributes.read then 1 else 0
        write := if attributes.write then 1 else 0
        exec := if attributes.execute then 1 else 0
        isCow := if attributes.copyOnWrite then 1 else 0
        nonOwning := if attributes.nonOwning then 1 else 0
        dontFork := if attributes.dontFork then 1 else 0
        userDefined := attributes.userDefined }
  | .jump address => .jump self.ptr address
  | .setupVmcall address => .setupVmcall self.ptr address
  | .copyToGuest dst bytes | .writeMemory dst bytes =>
    .copyToGuest self.ptr dst bytes (UInt32.ofNat bytes.length)
  | .copyFromGuest src dst => .copyFromGuest self.ptr dst src (UInt32.ofNat dst.length)
  | .readMemory src len => .copyFromGuest self.ptr (List.replicate len 0) src (UInt32.ofNat len)
  | .memstring src maxlen => .memstring self.ptr src maxlen
  | .registers | .handlerRegisters => .getRegisters self.ptr
  | .handlerMemview src len => .memview self.ptr src (UInt32.ofNat len)
  | .handlerWritableMemview dst len => .writableMemview self.ptr dst (UInt32.ofNat len)
  | .handlerMemstring src maxlen => .memstring self.ptr src (UInt32.ofNat maxlen)
  | .handlerRead src dst => .memview self.ptr src (UInt32.ofNat dst.length)
  | .handlerWrite dst data => .writableMemview self.ptr dst (UInt32.ofNat data.length)
  | .handlerReadPod T src => .memview self.ptr src (UInt32.ofNat T.size)
  | .handlerWritePod T dst _ => .writableMemview self.ptr dst (UInt32.ofNat T.size)

def Plain.asks (self : Machine) : Plain → CCall
  | .stop | .handlerStop => .stop self.ptr
  | .returnValue => .returnValue self.ptr
  | .setResult value => .setResultRegister self.ptr value
  | .opaquePtr | .handlerOpaquePtr => .opaquePtr self.ptr
  | .instructionCounter | .handlerInstructionCounter => .instructionCounter self.ptr
  | .maxInstructionCounter | .handlerMaxInstructionCounter => .maxCounterPointer self.ptr
  | .instructionLimitReached => .instructionLimitReached self.ptr
  | .isForked => .isForked self.ptr
  | .parentPage pageNumber => .getParentPageData self.ptr pageNumber
  | .hasArena => .hasArena self.ptr
  | .arenaMalloc size => .arenaMalloc self.ptr size
  | .arenaRealloc address newSize => .arenaRealloc self.ptr address newSize
  | .arenaAllocationSize address => .arenaSize self.ptr address
  | .arenaHighWatermark => .arenaHighWatermark self.ptr
  | .setArenaUnknownFreeHandler handler user => .arenaSetUnknownFree self.ptr (some handler) user
  | .setArenaUnknownReallocHandler handler user =>
    .arenaSetUnknownRealloc self.ptr (some handler) user
  | .heapAddress => .heapAddress self.ptr
  | .mmapAllocate bytes => .mmapAllocate self.ptr bytes
  | .initialStackPointer => .stackInitial self.ptr
  | .ownedPagesActive => .ownedPagesActive self.ptr
  | .triggerException exception data | .handlerTriggerException exception data =>
    .triggerException self.ptr exception data
  | .drop => .delete self.ptr

def Operation.Allowed : Operation → Prop
  | .fallible request => Conveyance.Allowed request
  | .plain _ => True

instance : DecidablePred Operation.Allowed
  | .fallible request => inferInstanceAs (Decidable (Conveyance.Allowed request))
  | .plain _ => inferInstanceAs (Decidable True)

def Operation.asks (self : Machine) (defaults : Options) : Operation → CCall
  | .fallible request => Conveyance.asks self defaults request
  | .plain op => op.asks self

def Flag (value : Int32) : Prop := value = 0 ∨ value = 1

/-- What C may rely on: it reads the very bytes that were meant, of a string up to its end and of a
buffer within its bounds, flags are 0 or 1, pages are whole, and a handler is there. -/
def Admissible : CCall → Prop
  | .new bytes n _ | .copyToGuest _ _ bytes n | .copyFromGuest _ bytes _ n =>
    n.toNat = bytes.length
  | .setSyscallHandler num _ => num.toNat < 512
  | .stepOne _ verbose => Flag verbose
  | .setupLinuxSyscalls _ filesystem sockets => Flag filesystem ∧ Flag sockets
  | .allowFile _ path => untilNul (path ++ [0]) = some path ∧ (toStr path).isSome = true
  | .addressOf _ name => untilNul (name ++ [0]) = some name
  | .insertNonOwnedMemory _ destination _ size attr =>
    4096 ∣ destination.toNat ∧ 4096 ∣ size.toNat ∧
      ∀ value ∈ [attr.read, attr.write, attr.exec, attr.isCow, attr.nonOwning, attr.dontFork],
        Flag value
  | .arenaSetUnknownFree _ handler _ | .arenaSetUnknownRealloc _ handler _ => handler ≠ none
  | _ => True

def isPrincipal : CCall → Bool
  | .setDefaults _ | .strerror _ => false
  | _ => true

/-- The calls of an operation, but for those that ask C for defaults and for the texts of errors. -/
def principal (actions : List Action) : List CCall := (foreignCalls actions).filter isPrincipal

def Quiet : Action → Prop
  | .foreign c => isPrincipal c = false
  | .load _ | .store .. => True

def Makes {α : Type} (c : CCall) (p : Ffi α) : Prop :=
  ∃ next, p = .call (.foreign c) next ∧ ∀ answer, (next answer).Always Quiet fun _ => True

section

variable {α β : Type} {c : CCall}

lemma principal_quiet {actions : List Action} (h : ∀ a ∈ actions, Quiet a) :
    principal actions = [] := by
  induction actions with
  | nil => rfl
  | cons a actions ih =>
    have ha := h a List.mem_cons_self
    have hrest := ih fun a' ha' => h a' (List.mem_cons_of_mem _ ha')
    cases a with
    | foreign c =>
      have hc : isPrincipal c = false := ha
      simp only [principal, foreignCalls, List.filterMap_cons, List.filter_cons, hc] at hrest ⊢
      exact hrest
    | load view | store view bytes => exact hrest

lemma principal_makes (hc : isPrincipal c = true) {p : Ffi α} (hp : Makes c p) {σ : Type}
    (H : Handler native σ) (s : σ) : principal (p.trace H s) = [c] := by
  obtain ⟨next, rfl, hn⟩ := hp
  have hq := principal_quiet (Program.always_trace H (H (.foreign c) s).2
    (hn (H (.foreign c) s).1))
  rw [principal] at hq
  rw [principal, Program.trace_call, foreignCalls, List.filterMap_cons]
  simp only [List.filter_cons, hc, if_true]
  exact congrArg _ hq

lemma Makes.bind {p : Ffi α} (hp : Makes c p) {f : α → Ffi β}
    (hf : ∀ a, (f a).Always Quiet fun _ => True) : Makes c (p >>= f) := by
  obtain ⟨next, rfl, hn⟩ := hp
  exact ⟨_, rfl, fun answer => Program.always_bind (hn answer) fun a _ => hf a⟩

lemma Makes.ignore {p : Ffi α} (hp : Makes c p) : Makes c (Method.ignore p) :=
  hp.bind fun _ => trivial

lemma Makes.next {p : FfiResult α} (hp : Makes c p.run) {f : α → FfiResult β}
    (hf : ∀ a, (f a).run.Always Quiet fun _ => True) : Makes c (p >>= f).run := by
  rw [ExceptT.run_bind]
  refine hp.bind fun r => ?_
  cases r with
  | error e => trivial
  | ok a => exact hf a

lemma Makes.void {p : FfiResult α} (hp : Makes c p.run) : Makes c (void p).run :=
  hp.next fun _ => trivial

lemma makes_call : Makes c (call c) := ⟨_, rfl, fun _ => trivial⟩

lemma makes_checked (op : String) (code : c.Answer → Int32) :
    Makes c (Machine.checked op c code).run :=
  ⟨_, rfl, fun _ => checkCode_always op _ rfl⟩

lemma nonNull_quiet (op : String) (ptr : Option α) :
    (nonNull op ptr).run.Always Quiet fun _ => True := by
  cases ptr <;> trivial

end

section

variable (self : Machine)

lemma makes_new {elf : Bytes} (h : elf.length ≤ u32Max) (options : Options)
    (registry : SyscallRegistry) : Makes (.new elf (UInt32.ofNat elf.length) options.raw)
      (Machine.new elf options registry).run := by
  rw [Machine.new, if_neg (by omega)]
  refine ⟨_, rfl, fun ptr => ?_⟩
  cases ptr <;> trivial

lemma makes_step (verbose : Bool) :
    Makes (.stepOne self.ptr (cInt verbose)) (self.step verbose).run := by
  refine ⟨_, rfl, fun value => ?_⟩
  change Program.Always _ _ (ExceptT.run (ite _ _ _))
  split
  · refine Program.always_bind (checkCode_always _ _ rfl) fun r _ => ?_
    cases r <;> trivial
  · trivial

lemma cString_ok {text : Bytes} (h : 0 ∉ text) : cString text = pure text := by
  have hn : text.findIdx? (· == 0) = none := by
    rw [List.findIdx?_eq_none_iff]
    intro b hb
    have h0 : b ≠ 0 := fun he => h (he ▸ hb)
    simpa using h0
  rw [cString, hn]

lemma cString_nul {text : Bytes} (h : 0 ∈ text) :
    ∃ e, (cString text).run = .ret (.error (.nulError e)) := by
  rw [cString]
  cases hf : text.findIdx? (· == 0) with
  | some n => exact ⟨_, rfl⟩
  | none =>
    rw [List.findIdx?_eq_none_iff] at hf
    have := hf 0 h
    simp at this

lemma makes_allowFile {path : Bytes} (hu : (toStr path).isSome = true) (h0 : 0 ∉ path) :
    Makes (.allowFile self.ptr path) (self.allowFile path).run := by
  obtain ⟨text, ht⟩ := Option.isSome_iff_exists.mp hu
  rw [Machine.allowFile, ht]
  simp only [cString_ok h0]
  exact ⟨_, rfl, fun _ => trivial⟩

lemma makes_addressOf {name : Bytes} (h0 : 0 ∉ name) :
    Makes (.addressOf self.ptr name) (self.addressOf name).run := by
  rw [Machine.addressOf, cString_ok h0]
  exact ⟨_, rfl, fun _ => trivial⟩

lemma makes_fastFork (options : Options) :
    Makes (.fastFork self.ptr options.raw) (self.fastFork options).run := by
  refine ⟨_, rfl, fun answer => ?_⟩
  rcases answer with ⟨ptr | ptr, raw⟩ <;> trivial

lemma aligned_iff (destination size : BitVec 64) :
    (destination ||| size) &&& (riscvPageSize.toBitVec.setWidth 64 - 1) = 0 ↔
      destination.toNat % 4096 = 0 ∧ size.toNat % 4096 = 0 := by
  have hm : (riscvPageSize.toBitVec.setWidth 64 - 1 : BitVec 64).toNat = 2 ^ 12 - 1 := by decide
  rw [← BitVec.toNat_inj, BitVec.toNat_and, BitVec.toNat_or, hm, Nat.and_two_pow_sub_one_eq_mod,
    Nat.or_mod_two_pow]
  exact Nat.or_eq_zero_iff

lemma makes_copyToGuest (dst : Addr) {src : Bytes} (h : src.length ≤ u32Max) :
    Makes (.copyToGuest self.ptr dst src (UInt32.ofNat src.length))
      (self.copyToGuest dst src).run := by
  rw [Machine.copyToGuest, if_neg (by omega)]
  exact makes_checked _ _

lemma makes_copyFromGuest (src : Addr) {dst : Bytes} (h : dst.length ≤ u32Max) :
    Makes (.copyFromGuest self.ptr dst src (UInt32.ofNat dst.length))
      (self.copyFromGuest src dst) := by
  rw [Machine.copyFromGuest, if_neg (by omega)]
  refine ⟨_, rfl, fun answer => ?_⟩
  rcases answer with ⟨code, buf⟩
  change Program.Always _ _ ((checkCode _ code).run >>= fun result => .ret (result, buf))
  exact Program.always_bind (checkCode_always _ code rfl) fun _ _ => trivial

lemma makes_readMemory (src : Addr) {len : ℕ} (h : len ≤ u32Max) :
    Makes (.copyFromGuest self.ptr (List.replicate len 0) src (UInt32.ofNat len))
      (self.readMemory src len).run := by
  have hn : (List.replicate len (0 : UInt8)).length = len := List.length_replicate
  have hc := makes_copyFromGuest self src (hn.symm ▸ h)
  rw [hn] at hc
  rw [Machine.readMemory, if_neg (by omega), ExceptT.run_bind, Fallible.run_lift,
    Program.bind_assoc]
  refine hc.bind fun r => ?_
  rcases r with ⟨result | result, buf⟩ <;> trivial

lemma makes_memstring (src : Addr) (maxlen : UInt32) :
    Makes (.memstring self.ptr src maxlen) (self.memstring src maxlen).run := by
  refine ⟨_, rfl, fun answer => ?_⟩
  rcases answer with ⟨ptr | ptr, length⟩
  · trivial
  · exact ⟨trivial, fun _ => trivial⟩

end

section

variable (ctx : SyscallContext) (a : Addr) {len : ℕ}

lemma makes_exposeView {c : CCall} (h : len ≤ u32Max) (op : String)
    {expose : UInt32 → Ffi (Option ViewPointer)} (he : Makes c (expose (UInt32.ofNat len))) :
    Makes c (SyscallContext.exposeView op expose len).run := by
  rw [SyscallContext.exposeView_short _ _ (by omega)]
  refine he.bind fun ptr => ?_
  cases ptr <;> trivial

lemma makes_memview (h : len ≤ u32Max) :
    Makes (.memview ctx.machine a (UInt32.ofNat len)) (ctx.memview a len).run :=
  makes_exposeView h _ makes_call

lemma makes_writableMemview (h : len ≤ u32Max) :
    Makes (.writableMemview ctx.machine a (UInt32.ofNat len)) (ctx.writableMemview a len).run :=
  makes_exposeView h _ makes_call

lemma makes_handlerMemstring (h : len ≤ u32Max) :
    Makes (.memstring ctx.machine a (UInt32.ofNat len)) (ctx.memstring a len).run := by
  rw [SyscallContext.memstring, if_neg (by omega)]
  refine ⟨_, rfl, fun answer => ?_⟩
  rcases answer with ⟨ptr | ptr, length⟩ <;> trivial

lemma copyFromSlice_quiet (view : Slice) (data : Bytes) :
    (view.copyFromSlice data).Always Quiet fun _ => True := by
  rw [Slice.copyFromSlice]
  split
  · exact ⟨trivial, fun _ => trivial⟩
  · trivial

lemma makes_read {dst : Bytes} (h0 : dst ≠ []) (h : dst.length ≤ u32Max) :
    Makes (.memview ctx.machine a (UInt32.ofNat dst.length)) (ctx.read a dst) := by
  rw [SyscallContext.read, if_neg (by simpa using h0)]
  refine (makes_memview ctx a h).bind fun r => ?_
  cases r with
  | error e => trivial
  | ok view =>
    change Program.Always _ _ (copyFromView dst view >>= _)
    rw [copyFromView]
    split
    · exact ⟨trivial, fun _ => trivial⟩
    · trivial

lemma makes_write {data : Bytes} (h0 : data ≠ []) (h : data.length ≤ u32Max) :
    Makes (.writableMemview ctx.machine a (UInt32.ofNat data.length)) (ctx.write a data).run := by
  rw [SyscallContext.write, if_neg (by simpa using h0)]
  refine (makes_writableMemview ctx a h).next fun view => ?_
  exact Program.always_bind (copyFromSlice_quiet view data) fun _ _ => trivial

lemma makes_readPod (T : PodType) (h : T.size ≤ u32Max) :
    Makes (.memview ctx.machine a (UInt32.ofNat T.size)) (ctx.readPod T a).run := by
  refine (makes_memview ctx a h).next fun view => ⟨trivial, fun bytes => ?_⟩
  change Program.Always _ _ (liftM (T.readUnaligned bytes) : FfiResult T.Carrier).run
  rw [Fallible.run_lift, PodType.readUnaligned]
  split <;> trivial

lemma makes_writePod (T : PodType) (value : T.Carrier) (h : T.size ≤ u32Max) :
    Makes (.writableMemview ctx.machine a (UInt32.ofNat T.size)) (ctx.writePod T a value).run :=
  (makes_writableMemview ctx a h).next fun view =>
    Program.always_bind (copyFromSlice_quiet view (T.bytesOf value)) fun _ _ => trivial

end

section

variable (self : Machine)

lemma makes_insertNonOwnedMemory {destination size : BitVec 64}
    (h : destination.toNat % 4096 = 0 ∧ size.toNat % 4096 = 0) (source : Option Pointer)
    (attributes : PageAttributes) :
    Makes (.insertNonOwnedMemory self.ptr destination source size attributes.intoRaw)
      (self.insertNonOwnedMemory destination source size attributes).run := by
  rw [Machine.insertNonOwnedMemory, if_neg (not_not.mpr ((aligned_iff _ _).mpr h))]
  exact makes_checked _ _

lemma makes_perform {request : Request} (h : Allowed request) (defaults : Options)
    (hd : ∀ elf registry, request ≠ .withDefaults elf registry) :
    Makes (asks self defaults request) (request.perform self).run := by
  cases request with
  | new elf options registry => exact (makes_new h options registry).void
  | withDefaults elf registry => exact absurd rfl (hd elf registry)
  | register num handler => exact ⟨_, rfl, fun _ => checkCode_always _ _ rfl⟩
  | setupNativeMemory | run | setupArena | arenaFree | transferArenaFrom | setupLinuxSyscalls
  | setupPosixThreads | jump | setupVmcall => exact makes_checked _ _
  | step verbose => exact (makes_step self verbose).void
  | allowFile path => exact makes_allowFile self h.1 h.2
  | addressOf name => exact (makes_addressOf self h).void
  | fastFork options => exact (makes_fastFork self options).void
  | insertNonOwnedMemory destination source size attributes =>
    exact makes_insertNonOwnedMemory self h source attributes
  | copyToGuest dst src | writeMemory dst src => exact makes_copyToGuest self dst h
  | copyFromGuest src dst => exact (makes_copyFromGuest self src h).bind fun _ => trivial
  | readMemory src len => exact (makes_readMemory self src h).void
  | memstring src maxlen => exact (makes_memstring self src maxlen).void
  | registers | handlerRegisters =>
    exact Makes.void ⟨_, rfl, fun _ => nonNull_quiet _ _⟩
  | handlerMemview src len => exact (makes_memview _ src h).void
  | handlerWritableMemview dst len => exact (makes_writableMemview _ dst h).void
  | handlerMemstring src maxlen => exact (makes_handlerMemstring _ src h).void
  | handlerRead src dst => exact (makes_read _ src h.1 h.2).bind fun _ => trivial
  | handlerWrite dst data => exact makes_write _ dst h.1 h.2
  | handlerReadPod T src => exact (makes_readPod _ src T h).void
  | handlerWritePod T dst value => exact makes_writePod _ dst T value h

lemma returns_void {α : Type} {p : FfiResult α} {r : Except Error α} (h : p.run = .ret r) :
    ∃ r', (void p).run = .ret r' := by
  rw [void, ExceptT.run_bind, h]
  cases r <;> exact ⟨_, rfl⟩

lemma returns_fst {r : Ffi (Except Error Unit × Bytes)} {result : Except Error Unit × Bytes}
    (h : r = .ret result) : ∃ r', (ExceptT.mk (r >>= fun r => pure r.1)).run = .ret r' := by
  rw [h]
  exact ⟨_, rfl⟩

lemma copy_refused {bytes : Bytes} (h : ¬ (bytes ≠ [] ∧ bytes.length ≤ u32Max)) :
    bytes = [] ∨ bytes.length > u32Max := by
  by_contra hn
  rw [not_or] at hn
  exact h ⟨hn.1, not_lt.mp hn.2⟩

lemma returns_perform {request : Request} (h : ¬ Allowed request)
    (hd : ∀ elf registry, request ≠ .withDefaults elf registry) :
    ∃ r, (request.perform self).run = .ret r := by
  cases request with
  | new elf options registry =>
    exact returns_void (Lengths.elf_refused options registry (not_le.mp h))
  | withDefaults elf registry => exact absurd rfl (hd elf registry)
  | allowFile path =>
    change ∃ r, (self.allowFile path).run = .ret r
    rw [Machine.allowFile]
    cases ht : toStr path with
    | none => exact ⟨_, rfl⟩
    | some text =>
      have h0 : 0 ∈ path := by
        by_contra h0
        exact h ⟨by rw [ht]; rfl, h0⟩
      obtain ⟨e, he⟩ := cString_nul h0
      refine ⟨.error (.nulError e), ?_⟩
      rw [ExceptT.run_bind, he]
      rfl
  | addressOf name =>
    obtain ⟨e, he⟩ := cString_nul (not_not.mp h)
    refine returns_void (r := .error (.nulError e)) ?_
    rw [Machine.addressOf, ExceptT.run_bind, he]
    rfl
  | insertNonOwnedMemory destination source size attributes =>
    have ha := fun he => h ((aligned_iff destination size).mp he)
    refine ⟨.error (.unalignedPageRange destination size), ?_⟩
    change (self.insertNonOwnedMemory destination source size attributes).run = _
    rw [Machine.insertNonOwnedMemory, if_pos ha]
    rfl
  | copyToGuest dst src | writeMemory dst src =>
    exact ⟨_, Lengths.copyToGuest_refused self dst (not_le.mp h)⟩
  | copyFromGuest src dst =>
    exact returns_fst (Lengths.copyFromGuest_refused self src (not_le.mp h))
  | readMemory src len => exact returns_void (Lengths.readMemory_refused self src (not_le.mp h))
  | handlerMemview src len | handlerWritableMemview src len =>
    exact returns_void (SyscallContext.exposeView_long _ _ (not_le.mp h))
  | handlerMemstring src maxlen =>
    exact returns_void (Lengths.memstring_refused ⟨self.ptr⟩ src (not_le.mp h))
  | handlerRead src dst =>
    rcases copy_refused h with rfl | hl
    · exact ⟨.ok (), rfl⟩
    · exact returns_fst (Lengths.read_refused ⟨self.ptr⟩ src hl)
  | handlerWrite dst data =>
    rcases copy_refused h with rfl | hl
    · exact ⟨.ok (), rfl⟩
    · exact ⟨_, Lengths.write_refused ⟨self.ptr⟩ dst hl⟩
  | handlerReadPod T src =>
    exact returns_void (Lengths.readPod_refused ⟨self.ptr⟩ src T (not_le.mp h))
  | handlerWritePod T dst value =>
    exact ⟨_, Lengths.writePod_refused ⟨self.ptr⟩ dst T value (not_le.mp h)⟩
  | _ => exact absurd trivial h

lemma plain_makes (op : Plain) : Makes (op.asks self) (op.perform self) := by
  cases op with
  | parentPage pageNumber =>
    refine Makes.ignore ⟨_, rfl, fun answer => ?_⟩
    rcases answer with ⟨ptr | ptr, attributes⟩ <;> trivial
  | _ => exact ⟨_, rfl, fun _ => trivial⟩

lemma plain_principal (op : Plain) : isPrincipal (op.asks self) = true := by cases op <;> rfl

lemma asks_principal (defaults : Options) (request : Request) :
    isPrincipal (asks self defaults request) = true := by cases request <;> rfl

lemma plain_admissible (op : Plain) : Admissible (op.asks self) := by
  cases op with
  | setArenaUnknownFreeHandler | setArenaUnknownReallocHandler => exact Option.some_ne_none _
  | _ => trivial

lemma flag (b : Bool) : Flag (if b then 1 else 0) := by
  cases b
  · exact .inl rfl
  · exact .inr rfl

lemma whole {len : ℕ} (h : len ≤ u32Max) : (UInt32.ofNat len).toNat = len :=
  toNat_ofNat_short (not_lt.mpr h)

lemma asks_admissible {request : Request} (h : Allowed request) (defaults : Options) :
    Admissible (asks self defaults request) := by
  cases request with
  | new | withDefaults | copyToGuest | writeMemory | copyFromGuest => exact whole h
  | readMemory src len => exact (whole h).trans List.length_replicate.symm
  | register num handler => exact num.get_lt
  | step verbose => exact flag verbose
  | setupLinuxSyscalls filesystem sockets => exact ⟨flag filesystem, flag sockets⟩
  | allowFile path => exact ⟨untilNul_terminated h.2 [], h.1⟩
  | addressOf name => exact untilNul_terminated h []
  | insertNonOwnedMemory destination source size attributes =>
    refine ⟨Nat.dvd_of_mod_eq_zero h.1, Nat.dvd_of_mod_eq_zero h.2, ?_⟩
    simp only [List.forall_mem_cons, List.not_mem_nil, false_imp_iff, implies_true, and_true]
    exact ⟨flag _, flag _, flag _, flag _, flag _, flag _⟩
  | _ => trivial

end

section

variable {σ : Type} (H : Handler native σ)

/-- The default options, as C gives them in this state; what the wrapper owns is cleared. -/
def defaultOptions (s : σ) : Options :=
  let raw : RISCVOptions := (H (.foreign (.setDefaults .zeroed)) s).1
  ⟨{ raw with argc := 0, argv := none, error := none, stdout := none, opaquePtr := none }, .empty⟩

abbrev Session := List (Machine × Operation)

def sessionTrace : Session → σ → List Action
  | [], _ => []
  | (self, operation) :: session, s =>
    (operation.perform self).trace H s ++
      sessionTrace session ((operation.perform self).run H s).2

def conveyed : Session → σ → List CCall
  | [], _ => []
  | (self, operation) :: session, s =>
    let rest := conveyed session ((operation.perform self).run H s).2
    if operation.Allowed then operation.asks self (defaultOptions H s) :: rest else rest

lemma principal_append (before after : List Action) :
    principal (before ++ after) = principal before ++ principal after := by
  rw [principal, foreignCalls, List.filterMap_append, List.filter_append]
  rfl

variable (s : σ) (self : Machine)

lemma request_conveyed (request : Request) (defaults : Options)
    (hd : ∀ elf registry, request ≠ .withDefaults elf registry) :
    principal ((Method.ignore (request.perform self).run).trace H s) =
      if Allowed request then [asks self defaults request] else [] := by
  split
  · next h =>
    exact principal_makes (asks_principal self defaults request)
      (makes_perform self h defaults hd).ignore H s
  · next h =>
    obtain ⟨r, hr⟩ := returns_perform self h hd
    rw [hr]
    rfl

lemma operation_conveyed (operation : Operation) :
    principal ((operation.perform self).trace H s) =
      if operation.Allowed then [operation.asks self (defaultOptions H s)] else [] := by
  cases operation with
  | plain op => exact principal_makes (plain_principal self op) (plain_makes self op) H s
  | fallible request =>
    cases request with
    | withDefaults elf registry =>
      -- C fills the options first, then the machine is made as from any others
      exact request_conveyed H _ self (.new elf (defaultOptions H s) registry) (defaultOptions H s)
        (fun _ _ h => nomatch h)
    | _ => exact request_conveyed H s self _ (defaultOptions H s) (fun _ _ h => nomatch h)

lemma operation_admissible {operation : Operation} (h : operation.Allowed) (defaults : Options) :
    Admissible (operation.asks self defaults) := by
  cases operation with
  | fallible request => exact asks_admissible self h defaults
  | plain op => exact plain_admissible self op

/-- Over a whole session C is called once for each operation that is allowed, in their order and
with the very arguments that the operation stands for, and never for another. -/
theorem session_reaches_c (session : Session) :
    principal (sessionTrace H session s) = conveyed H session s ∧
      ∀ c ∈ conveyed H session s, Admissible c := by
  induction session generalizing s with
  | nil => exact ⟨rfl, fun _ h => nomatch h⟩
  | cons entry session ih =>
    obtain ⟨self, operation⟩ := entry
    have hrest := ih ((operation.perform self).run H s).2
    rw [sessionTrace, principal_append, operation_conveyed, hrest.1, conveyed]
    by_cases h : operation.Allowed
    · rw [if_pos h, if_pos h]
      refine ⟨rfl, fun c hc => ?_⟩
      rcases List.mem_cons.mp hc with rfl | hc
      · exact operation_admissible self h _
      · exact hrest.2 c hc
    · rw [if_neg h, if_neg h]
      exact ⟨rfl, hrest.2⟩

end

end Libriscv.Conveyance

import Libriscv.Foundations.Histories
import Libriscv.Machines.Stepping
import Libriscv.Syscalls.Context

/-! Where errors come from: every fallible operation names the C call that failed, and only such. -/

namespace Libriscv

open Foundations

def CCall.symbol : CCall → String
  | .setDefaults _ => "libriscv_set_defaults"
  | .new .. => "libriscv_new"
  | .delete _ => "libriscv_delete"
  | .fastFork .. => "libriscv_fast_fork"
  | .run .. => "libriscv_run"
  | .stepOne .. => "libriscv_step_one"
  | .stop _ => "libriscv_stop"
  | .allowFile .. => "libriscv_allow_file"
  | .strerror _ => "libriscv_strerror"
  | .returnValue _ => "libriscv_return_value"
  | .setResultRegister .. => "libriscv_set_result_register"
  | .addressOf .. => "libriscv_address_of"
  | .opaquePtr _ => "libriscv_opaque"
  | .instructionCounter _ => "libriscv_instruction_counter"
  | .maxCounterPointer _ => "libriscv_max_counter_pointer"
  | .instructionLimitReached _ => "libriscv_instruction_limit_reached"
  | .isForked _ => "libriscv_is_forked"
  | .getParentPageData .. => "libriscv_get_parent_page_data"
  | .setupArena .. => "libriscv_setup_arena"
  | .hasArena _ => "libriscv_has_arena"
  | .arenaMalloc .. => "libriscv_arena_malloc"
  | .arenaFree .. => "libriscv_arena_free"
  | .arenaRealloc .. => "libriscv_arena_realloc"
  | .arenaSize .. => "libriscv_arena_size"
  | .arenaHighWatermark _ => "libriscv_arena_high_watermark"
  | .transferArena .. => "libriscv_transfer_arena"
  | .heapAddress _ => "libriscv_heap_address"
  | .mmapAllocate .. => "libriscv_mmap_allocate"
  | .stackInitial _ => "libriscv_stack_initial"
  | .ownedPagesActive _ => "libriscv_owned_pages_active"
  | .setupLinuxSyscalls .. => "libriscv_setup_linux_syscalls"
  | .setupPosixThreads _ => "libriscv_setup_posix_threads"
  | .jump .. => "libriscv_jump"
  | .setupVmcall .. => "libriscv_setup_vmcall"
  | .copyToGuest .. => "libriscv_copy_to_guest"
  | .copyFromGuest .. => "libriscv_copy_from_guest"
  | .memstring .. => "libriscv_memstring"
  | .memview .. => "libriscv_memview"
  | .writableMemview .. => "libriscv_writable_memview"
  | .getRegisters _ => "libriscv_get_registers"
  | .triggerException .. => "libriscv_trigger_exception"
  | .insertNonOwnedMemory .. => "libriscv_insert_non_owned_memory"
  | .arenaSetUnknownFree .. => "libriscv_arena_set_unknown_free"
  | .arenaSetUnknownRealloc .. => "libriscv_arena_set_unknown_realloc"
  | .setupNativeMemory _ => "libriscv_setup_native_memory"
  | .setSyscallHandler .. => "libriscv_set_syscall_handler"

namespace Provenance

inductive Failure
  | code (code : ℤ)
  | null
  deriving DecidableEq, Repr

def ofCode (code : Int32) : Option Failure := if code = 0 then none else some (.code code.toInt)

def ofPointer {α : Type} : Option α → Option Failure
  | some _ => none
  | none => some .null

/-- What a failed C call answers: a code other than 0, a negative count of steps, or a null pointer
where one is due. -/
def failure : (c : CCall) → c.Answer → Option Failure
  | .run .., code | .setupArena .., code | .arenaFree .., code | .transferArena .., code
  | .setupLinuxSyscalls .., code | .setupPosixThreads _, code | .jump .., code
  | .setupVmcall .., code | .copyToGuest .., code | .insertNonOwnedMemory .., code
  | .setupNativeMemory _, code | .setSyscallHandler .., code => ofCode code
  | .copyFromGuest .., answer => ofCode answer.1
  | .stepOne .., value => if value < 0 then some (.code value.toInt) else none
  | .new .., ptr => ofPointer ptr
  | .memview .., ptr | .writableMemview .., ptr => ofPointer ptr
  | .getRegisters _, ptr => ofPointer ptr
  | .fastFork .., answer => ofPointer answer.1
  | .memstring .., answer => ofPointer answer.1
  | _, _ => none

def eventFailure : Event native → Option Failure
  | ⟨.foreign c, answer⟩ => failure c answer
  | _ => none

def Calm (history : List (Event native)) : Prop := ∀ event ∈ history, eventFailure event = none

def reaches : Event native → List Handle
  | ⟨.foreign c, _⟩ => c.handles
  | ⟨.load _, _⟩ | ⟨.store .., _⟩ => []

def isArgument : Error → Bool
  | .library .. | .nullPointer _ => false
  | _ => true

/-- The asked text of an error code, if C was asked for it: it knows negative codes only. -/
inductive Described (code : Int32) : List (Event native) → Option String → Prop
  | bare (h : code ≥ 0) : Described code [] none
  | asked (h : ¬ code ≥ 0) (text : Option Bytes) :
      Described code [⟨.foreign (.strerror code), text⟩] (text.bind toStr)

/-- How the result of an operation relates to the calls it made. -/
inductive Explains {α : Type} : List (Event native) → Except Error α → Prop
  | success {history : List (Event native)} {a : α} (h : Calm history) :
      Explains history (.ok a)
  | argument {history : List (Event native)} {e : Error} (h : Calm history)
      (hr : ∀ event ∈ history, reaches event = []) (he : isArgument e = true) :
      Explains history (.error e)
  | null {before : List (Event native)} {c : CCall} {answer : c.Answer} (h : Calm before)
      (hf : failure c answer = some .null) :
      Explains (before ++ [⟨.foreign c, answer⟩]) (.error (.nullPointer c.symbol))
  | code {before text : List (Event native)} {c : CCall} {answer : c.Answer} {code : Int32}
      {message : Option String} (h : Calm before) (hf : failure c answer = some (.code code.toInt))
      (hd : Described code text message) :
      Explains (before ++ [⟨.foreign c, answer⟩] ++ text)
        (.error (.library c.symbol code message))

/-- An operation reports its calls as they were, but for a single step: of a count below the codes
it keeps the low half, and one whose low half is 0 is lost. -/
inductive Reported {α : Type} : List (Event native) → Except Error α → Prop
  | told {history : List (Event native)} {result : Except Error α} (h : Explains history result) :
      Reported history result
  | narrowed {ptr : Handle} {verbose code : Int32} {value : Int64} {text : List (Event native)}
      {message : Option String} (hv : value.toInt < -2 ^ 31) (hn : ¬ (2 ^ 32 : ℤ) ∣ value.toInt)
      (hc : code.toInt = value.toInt.bmod (2 ^ 32)) (hd : Described code text message) :
      Reported (⟨.foreign (.stepOne ptr verbose), value⟩ :: text)
        (.error (.library "libriscv_step_one" code message))
  | lost {ptr : Handle} {verbose : Int32} {value : Int64} {a : α} (hv : value.toInt < -2 ^ 31)
      (hn : (2 ^ 32 : ℤ) ∣ value.toInt) :
      Reported [⟨.foreign (.stepOne ptr verbose), value⟩] (.ok a)

abbrev Accounts {α : Type} (earlier : List (Event native)) (p : FfiResult α) : Prop :=
  p.run.Ends Explains earlier

section

variable {α β : Type} {earlier : List (Event native)}

lemma accounts_pure (he : Calm earlier) (a : α) : Accounts earlier (pure a : FfiResult α) :=
  .success he

lemma accounts_throw (he : Calm earlier) (hr : ∀ event ∈ earlier, reaches event = []) {e : Error}
    (ha : isArgument e = true) : Accounts earlier (throw e : FfiResult α) :=
  .argument he hr ha

lemma explains_error {history : List (Event native)} {e : Error}
    (h : Explains history (.error e : Except Error α)) :
    Explains history (.error e : Except Error β) := by
  cases h with
  | argument h hr he => exact .argument h hr he
  | null h hf => exact .null h hf
  | code h hf hd => exact .code h hf hd

lemma calm_of_ok {history : List (Event native)} {a : α}
    (h : Explains history (.ok a : Except Error α)) : Calm history := by
  cases h with
  | success h => exact h

lemma accounts_bind {p : FfiResult α} {f : α → FfiResult β} (hp : Accounts earlier p)
    (hf : ∀ history a, Calm history → Accounts history (f a)) : Accounts earlier (p >>= f) := by
  rw [Accounts, ExceptT.run_bind]
  refine Program.ends_bind hp fun history result h => ?_
  cases result with
  | error e => exact explains_error h
  | ok a => exact hf history a (calm_of_ok h)

lemma calm_concat (he : Calm earlier) {event : Event native} (h : eventFailure event = none) :
    Calm (earlier ++ [event]) := by
  intro event' hm
  rcases List.mem_append.mp hm with hm | hm
  · exact he event' hm
  · rw [List.mem_singleton.mp hm]
    exact h

variable {c : CCall} {answer : c.Answer}

lemma accounts_nonNull (he : Calm earlier) {ptr : Option α}
    (hf : failure c answer = ofPointer ptr) {op : String} (hs : c.symbol = op) :
    Accounts (earlier ++ [⟨.foreign c, answer⟩]) (nonNull op ptr) := by
  subst hs
  cases ptr with
  | none => exact .null he hf
  | some a => exact .success (calm_concat he hf)

lemma ends_checkCode {op : String} {code : Int32} (hc : code ≠ 0) :
    Program.Ends (fun history result => ∃ text message, history = earlier ++ text ∧
      Described code text message ∧ result = .error (.library op code message)) earlier
      (checkCode op code).run := by
  rw [checkCode, if_neg hc, errorMessage]
  by_cases hn : code ≥ 0
  · rw [if_pos hn]
    exact ⟨[], none, (List.append_nil _).symm, .bare hn, rfl⟩
  · rw [if_neg hn]
    exact fun text => ⟨_, _, rfl, .asked hn text, rfl⟩

lemma accounts_checkCode (he : Calm earlier) {code : Int32} (hf : failure c answer = ofCode code)
    {op : String} (hs : c.symbol = op) :
    Accounts (earlier ++ [⟨.foreign c, answer⟩]) (checkCode op code) := by
  subst hs
  by_cases hc : code = 0
  · rw [checkCode, if_pos hc]
    rw [ofCode, if_pos hc] at hf
    exact .success (calm_concat he hf)
  · rw [ofCode, if_neg hc] at hf
    refine Program.ends_mono (ends_checkCode hc) ?_
    rintro _ _ ⟨text, message, rfl, hd, rfl⟩
    exact .code he hf hd

lemma accounts_checked (he : Calm earlier) {op : String} (code : c.Answer → Int32)
    (hf : ∀ answer, failure c answer = ofCode (code answer)) (hs : c.symbol = op) :
    Accounts earlier (Machine.checked op c code) :=
  fun answer => accounts_checkCode he (hf answer) hs

lemma calm_nil : Calm [] := fun _ h => nomatch h

lemma reaches_nil : ∀ event ∈ ([] : List (Event native)), reaches event = [] :=
  fun _ h => nomatch h

end

inductive Request : Type 1
  | new (elf : Bytes) (options : Options) (registry : SyscallRegistry)
  | withDefaults (elf : Bytes) (registry : SyscallRegistry)
  | register (num : SyscallId) (handler : SyscallHandler)
  | setupNativeMemory (syscallBase : UInt32)
  | run (instructionLimit : UInt64)
  | step (verbose : Bool)
  | allowFile (path : Bytes)
  | addressOf (name : Bytes)
  | fastFork (options : Options)
  | setupArena (syscallBase : UInt32) (address : Addr) (size : UInt64)
  | arenaFree (address : Addr)
  | transferArenaFrom (source : Machine)
  | setupLinuxSyscalls (filesystem sockets : Bool)
  | setupPosixThreads
  | insertNonOwnedMemory (destination : Addr) (source : Option Pointer) (size : BitVec 64)
      (attributes : PageAttributes)
  | jump (address : Addr)
  | setupVmcall (address : Addr)
  | copyToGuest (dst : Addr) (src : Bytes)
  | copyFromGuest (src : Addr) (dst : Bytes)
  | readMemory (src : Addr) (len : ℕ)
  | writeMemory (dst : Addr) (data : Bytes)
  | memstring (src : Addr) (maxlen : UInt32)
  | registers
  | handlerMemview (src : Addr) (len : ℕ)
  | handlerWritableMemview (dst : Addr) (len : ℕ)
  | handlerMemstring (src : Addr) (maxlen : ℕ)
  | handlerRead (src : Addr) (dst : Bytes)
  | handlerWrite (dst : Addr) (data : Bytes)
  | handlerReadPod (T : PodType) (src : Addr)
  | handlerWritePod (T : PodType) (dst : Addr) (value : T.Carrier)
  | handlerRegisters

def void {α : Type} (p : FfiResult α) : FfiResult Unit := p >>= fun _ => pure ()

/-- The operations that return a result, on a machine or in its handlers; `self` plays no part in
those that need no machine. -/
def Request.perform (self : Machine) : Request → FfiResult Unit
  | .new elf options registry => void (Machine.new elf options registry)
  | .withDefaults elf registry => void (Machine.withDefaults elf registry)
  | .register num handler => SyscallRegistryBuilder.new.register num handler
  | .setupNativeMemory syscallBase => Libriscv.setupNativeMemory syscallBase
  | .run instructionLimit => self.run instructionLimit
  | .step verbose => void (self.step verbose)
  | .allowFile path => self.allowFile path
  | .addressOf name => void (self.addressOf name)
  | .fastFork options => void (self.fastFork options)
  | .setupArena syscallBase address size => self.setupArena syscallBase address size
  | .arenaFree address => self.arenaFree address
  | .transferArenaFrom source => self.transferArenaFrom source
  | .setupLinuxSyscalls filesystem sockets => self.setupLinuxSyscalls filesystem sockets
  | .setupPosixThreads => self.setupPosixThreads
  | .insertNonOwnedMemory destination source size attributes =>
    self.insertNonOwnedMemory destination source size attributes
  | .jump address => self.jump address
  | .setupVmcall address => self.setupVmcall address
  | .copyToGuest dst src => self.copyToGuest dst src
  | .copyFromGuest src dst => ExceptT.mk (self.copyFromGuest src dst >>= fun r => pure r.1)
  | .readMemory src len => void (self.readMemory src len)
  | .writeMemory dst data => self.writeMemory dst data
  | .memstring src maxlen => void (self.memstring src maxlen)
  | .registers => void self.registers
  | .handlerMemview src len => void (SyscallContext.memview ⟨self.ptr⟩ src len)
  | .handlerWritableMemview dst len => void (SyscallContext.writableMemview ⟨self.ptr⟩ dst len)
  | .handlerMemstring src maxlen => void (SyscallContext.memstring ⟨self.ptr⟩ src maxlen)
  | .handlerRead src dst =>
    ExceptT.mk (SyscallContext.read ⟨self.ptr⟩ src dst >>= fun r => pure r.1)
  | .handlerWrite dst data => SyscallContext.write ⟨self.ptr⟩ dst data
  | .handlerReadPod T src => void (SyscallContext.readPod ⟨self.ptr⟩ T src)
  | .handlerWritePod T dst value => SyscallContext.writePod ⟨self.ptr⟩ T dst value
  | .handlerRegisters => void (SyscallContext.registers ⟨self.ptr⟩)

section

variable {α : Type} {earlier : List (Event native)}

lemma accounts_void {p : FfiResult α} (hp : Accounts earlier p) : Accounts earlier (void p) :=
  accounts_bind hp fun _ _ h => accounts_pure h ()

lemma accounts_new (he : Calm earlier) (hr : ∀ event ∈ earlier, reaches event = [])
    (elf : Bytes) (options : Options) (registry : SyscallRegistry) :
    Accounts earlier (Machine.new elf options registry) := by
  simp only [Machine.new]
  split
  · exact accounts_throw he hr rfl
  · exact fun ptr => accounts_bind (accounts_nonNull he rfl rfl) fun _ _ h => accounts_pure h _

lemma accounts_guarded {refused : Prop} [Decidable refused] {e : Error} {p : FfiResult α}
    (he : isArgument e = true) (hp : Accounts [] p) :
    Accounts [] (if refused then throw e else p) := by
  split
  · exact accounts_throw calm_nil reaches_nil he
  · exact hp

lemma accounts_withDefaults (elf : Bytes) (registry : SyscallRegistry) :
    Accounts [] (Machine.withDefaults elf registry) := by
  intro raw
  refine accounts_new (calm_concat calm_nil rfl) (fun event hm => ?_) elf _ registry
  rw [List.mem_singleton.mp hm]
  rfl

lemma accounts_cString {text : Bytes} {f : Bytes → FfiResult α} (hf : ∀ s, Accounts [] (f s)) :
    Accounts [] (cString text >>= f) := by
  rw [Accounts, ExceptT.run_bind, cString]
  split
  · exact .argument calm_nil reaches_nil rfl
  · exact hf text

variable (self : Machine)

lemma reported_step (verbose : Bool) : Program.Ends Reported [] (self.step verbose).run := by
  intro value
  let c := CCall.stepOne self.ptr (cInt verbose)
  change Program.Ends _ _ (ExceptT.run (ite _ _ _))
  split
  · next h =>
    have hneg := Stepping.neg_iff.mp h
    have hf : failure c value = some (.code value.toInt) := if_pos h
    by_cases hl : -2 ^ 31 ≤ value.toInt
    -- a code that fits is the one that `checkCode` sees
    · have hfits := Stepping.toInt_toInt32_of_fits hl (by omega)
      have hc : ofCode value.toInt32 = some (.code value.toInt) := by
        rw [ofCode, if_neg, hfits]
        intro h0
        rw [h0, Int32.toInt_zero] at hfits
        omega
      refine Program.ends_mono (accounts_bind (accounts_checkCode calm_nil (hf.trans hc.symm) rfl)
        fun _ _ hcalm => accounts_pure hcalm _) fun _ _ => .told
    · by_cases h0 : value.toInt32 = 0
      · rw [checkCode, if_pos h0]
        exact .lost (Int.not_le.mp hl) (Stepping.toInt32_eq_zero_iff.mp h0)
      · rw [ExceptT.run_bind]
        refine Program.ends_bind (ends_checkCode h0) ?_
        rintro _ _ ⟨text, message, rfl, hd, rfl⟩
        exact .narrowed (Int.not_le.mp hl) (mt Stepping.toInt32_eq_zero_iff.mpr h0)
          (Int64.toInt_toInt32 value) hd
  · next h =>
    have hcalm : Calm ([] ++ [⟨.foreign c, value⟩]) := calm_concat calm_nil (if_neg h)
    exact .told (.success hcalm)

lemma reported_void {p : FfiResult α} (hp : Program.Ends Reported earlier p.run) :
    Program.Ends Reported earlier (void p).run := by
  rw [void, ExceptT.run_bind]
  refine Program.ends_bind hp fun history result h => ?_
  cases h with
  | told h =>
    cases result with
    | error e => exact .told (explains_error h)
    | ok a => exact .told (.success (calm_of_ok h))
  | narrowed hv hn hc hd => exact .narrowed hv hn hc hd
  | lost hv hn => exact .lost hv hn

lemma accounts_copyToGuest (dst : Addr) (src : Bytes) :
    Accounts [] (self.copyToGuest dst src) :=
  accounts_guarded rfl (accounts_checked calm_nil _ (fun _ => rfl) rfl)

lemma ends_copyFromGuest (src : Addr) (dst : Bytes) :
    Program.Ends (fun history r => Explains history r.1) [] (self.copyFromGuest src dst) := by
  rw [Machine.copyFromGuest]
  split
  · exact .argument calm_nil reaches_nil rfl
  · rintro ⟨code, buf⟩
    change Program.Ends _ _ ((checkCode "libriscv_copy_from_guest" code).run >>= fun result =>
      .ret (result, buf))
    exact Program.ends_bind (accounts_checkCode calm_nil rfl rfl) fun _ _ h => h

lemma accounts_fst {r : Ffi (Except Error α × Bytes)}
    (h : Program.Ends (fun history r => Explains history r.1) earlier r) :
    Accounts earlier (ExceptT.mk (r >>= fun r => pure r.1) : FfiResult α) :=
  Program.ends_bind h fun _ _ h => h

lemma accounts_readMemory (src : Addr) (len : ℕ) : Accounts [] (self.readMemory src len) := by
  refine accounts_guarded rfl ?_
  rw [Accounts, ExceptT.run_bind, Fallible.run_lift, Program.bind_assoc]
  refine Program.ends_bind (ends_copyFromGuest self src _) fun history r h => ?_
  rcases r with ⟨result | result, buf⟩
  · exact explains_error h
  · exact accounts_pure (calm_of_ok h) buf

lemma accounts_insertNonOwnedMemory (destination : Addr) (source : Option Pointer)
    (size : BitVec 64) (attributes : PageAttributes) :
    Accounts [] (self.insertNonOwnedMemory destination source size attributes) :=
  accounts_guarded rfl (accounts_checked calm_nil _ (fun _ => rfl) rfl)

lemma accounts_allowFile (path : Bytes) : Accounts [] (self.allowFile path) := by
  simp only [Machine.allowFile]
  split
  · exact accounts_throw calm_nil reaches_nil rfl
  · exact accounts_cString fun _ _ => accounts_pure (calm_concat calm_nil rfl) _

lemma accounts_addressOf (name : Bytes) : Accounts [] (self.addressOf name) :=
  accounts_cString fun _ _ => accounts_pure (calm_concat calm_nil rfl) _

lemma accounts_fastFork (options : Options) : Accounts [] (self.fastFork options) :=
  fun _ => accounts_bind (accounts_nonNull calm_nil rfl rfl) fun _ _ h => accounts_pure h _

lemma accounts_memstring (src : Addr) (maxlen : UInt32) :
    Accounts [] (self.memstring src maxlen) :=
  fun _ => accounts_bind (accounts_nonNull calm_nil rfl rfl) fun _ _ h _ =>
    .success (calm_concat h rfl)

end

section

variable (ctx : SyscallContext)

lemma accounts_memview (src : Addr) (len : ℕ) : Accounts [] (ctx.memview src len) :=
  accounts_guarded rfl fun _ => accounts_bind (accounts_nonNull calm_nil rfl rfl) fun _ _ h =>
    accounts_pure h _

lemma accounts_writableMemview (dst : Addr) (len : ℕ) :
    Accounts [] (ctx.writableMemview dst len) :=
  accounts_guarded rfl fun _ => accounts_bind (accounts_nonNull calm_nil rfl rfl) fun _ _ h =>
    accounts_pure h _

lemma accounts_handlerMemstring (src : Addr) (maxlen : ℕ) :
    Accounts [] (ctx.memstring src maxlen) :=
  accounts_guarded rfl fun _ => accounts_bind (accounts_nonNull calm_nil rfl rfl) fun _ _ h =>
    accounts_pure h _

lemma accounts_copyFromSlice {earlier : List (Event native)} (he : Calm earlier) (view : Slice)
    (data : Bytes) : Accounts earlier (liftM (view.copyFromSlice data) : FfiResult Unit) := by
  rw [Accounts, Fallible.run_lift, Slice.copyFromSlice]
  split
  · exact fun _ => .success (calm_concat he rfl)
  · trivial

lemma ends_read (src : Addr) (dst : Bytes) :
    Program.Ends (fun history r => Explains history r.1) [] (ctx.read src dst) := by
  rw [SyscallContext.read]
  split
  · exact .success calm_nil
  · refine Program.ends_bind (accounts_memview ctx src dst.length) fun history r h => ?_
    cases r with
    | error e => exact explains_error h
    | ok view =>
      change Program.Ends _ _ (copyFromView dst view >>= _)
      rw [copyFromView]
      split
      · exact fun _ => .success (calm_concat (calm_of_ok h) rfl)
      · trivial

lemma accounts_write (dst : Addr) (data : Bytes) : Accounts [] (ctx.write dst data) := by
  rw [SyscallContext.write]
  split
  · exact accounts_pure calm_nil ()
  · exact accounts_bind (accounts_writableMemview ctx dst data.length) fun _ view h =>
      accounts_copyFromSlice h view data

lemma accounts_readPod (T : PodType) (src : Addr) : Accounts [] (ctx.readPod T src) := by
  refine accounts_bind (accounts_memview ctx src T.size) fun _ view h bytes => ?_
  change Program.Ends _ _ (liftM (T.readUnaligned bytes) : FfiResult T.Carrier).run
  rw [Fallible.run_lift, PodType.readUnaligned]
  split
  · exact .success (calm_concat h rfl)
  · trivial

lemma accounts_writePod (T : PodType) (dst : Addr) (value : T.Carrier) :
    Accounts [] (ctx.writePod T dst value) :=
  accounts_bind (accounts_writableMemview ctx dst T.size) fun _ view h =>
    accounts_copyFromSlice h view (T.bytesOf value)

end

lemma accounts_perform (self : Machine) {request : Request}
    (hs : ∀ verbose, request ≠ .step verbose) : Accounts [] (request.perform self) := by
  cases request with
  | new elf options registry =>
    exact accounts_void (accounts_new calm_nil reaches_nil elf options registry)
  | withDefaults elf registry => exact accounts_void (accounts_withDefaults elf registry)
  | register num handler => exact fun _ => accounts_checkCode calm_nil rfl rfl
  | setupNativeMemory | run | setupArena | arenaFree | transferArenaFrom | setupLinuxSyscalls
  | setupPosixThreads | jump | setupVmcall =>
    exact accounts_checked calm_nil _ (fun _ => rfl) rfl
  | step verbose => exact absurd rfl (hs verbose)
  | allowFile path => exact accounts_allowFile self path
  | addressOf name => exact accounts_void (accounts_addressOf self name)
  | fastFork options => exact accounts_void (accounts_fastFork self options)
  | insertNonOwnedMemory destination source size attributes =>
    exact accounts_insertNonOwnedMemory self destination source size attributes
  | copyToGuest dst src | writeMemory dst src => exact accounts_copyToGuest self dst src
  | copyFromGuest src dst => exact accounts_fst (ends_copyFromGuest self src dst)
  | readMemory src len => exact accounts_void (accounts_readMemory self src len)
  | memstring src maxlen => exact accounts_void (accounts_memstring self src maxlen)
  | registers | handlerRegisters =>
    exact accounts_void fun _ => accounts_nonNull calm_nil rfl rfl
  | handlerMemview src len => exact accounts_void (accounts_memview _ src len)
  | handlerWritableMemview dst len => exact accounts_void (accounts_writableMemview _ dst len)
  | handlerMemstring src maxlen => exact accounts_void (accounts_handlerMemstring _ src maxlen)
  | handlerRead src dst => exact accounts_fst (ends_read _ src dst)
  | handlerWrite dst data => exact accounts_write _ dst data
  | handlerReadPod T src => exact accounts_void (accounts_readPod _ T src)
  | handlerWritePod T dst value => exact accounts_writePod _ T dst value

lemma reported_perform (self : Machine) (request : Request) :
    Program.Ends Reported [] (request.perform self).run := by
  by_cases hs : ∃ verbose, request = .step verbose
  · obtain ⟨verbose, rfl⟩ := hs
    exact reported_void (reported_step self verbose)
  · rw [not_exists] at hs
    exact Program.ends_mono (accounts_perform self hs) fun _ _ => .told

/-- Every operation accounts for its result: it succeeds only when none of its C calls failed, it
rejects an argument before any call on a machine, and every other error names the call that failed
last, with the code that this answered and the text that C gives for it. A single step does so
while its count is not below the codes. -/
theorem results_name_failed_calls {σ : Type} (H : Handler native σ) (s t : σ) (self : Machine)
    (request : Request) (result : Except Error Unit)
    (h : (request.perform self).run.run H s = (some result, t)) :
    Reported ((request.perform self).run.history H s) result :=
  Program.ends_history (reported_perform self request) h

def refusingLibrary : Handler native Unit
  | .foreign (.run ..), s => ((-1 : Int32), s)
  | .foreign _, s => (default, s)
  | .load _, s => ([], s)
  | .store .., s => ((), s)

theorem refused_run_named :
    Reported (((Request.run 1000).perform ⟨7, [], ⟨.zeroed, .empty⟩⟩).run.history
      refusingLibrary ()) (.error (.library "libriscv_run" (-1) none) : Except Error Unit) :=
  results_name_failed_calls refusingLibrary () () ⟨7, [], ⟨.zeroed, .empty⟩⟩ (.run 1000) _ rfl

end Provenance

end Libriscv

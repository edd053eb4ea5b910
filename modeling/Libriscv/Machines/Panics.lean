import Libriscv.Foundations.Totality
import Libriscv.Machines.Conveyance
import Libriscv.Syscalls.GuestMemory

/-! No operation panics: every slice of guest memory is as long as what is copied from or to it. -/

namespace Libriscv.Panics

open Foundations Conveyance Provenance
open Lengths (Sized)

/-- A slice has as many bytes as its length says. C may answer whatever it likes. -/
def Genuine : (a : Action) → a.Answer → Prop
  | .load view, bytes => bytes.length = view.len
  | .foreign _, _ | .store .., _ => True

abbrev Returns {α : Type} (p : Ffi α) : Prop := p.Surely (I := native) Genuine fun _ => True

section

variable {α β : Type} {p : Ffi α}

lemma returns_call (c : CCall) : Returns (call c) := fun _ _ => trivial

lemma returns_bind (hp : Returns p) {f : α → Ffi β} (hf : ∀ a, Returns (f a)) :
    Returns (p >>= f) :=
  Program.surely_bind hp fun a _ => hf a

lemma returns_ignore (hp : Returns p) : Returns (Method.ignore p) :=
  returns_bind hp fun _ => trivial

lemma returns_next {p : FfiResult α} (hp : Returns p.run) {f : α → FfiResult β}
    (hf : ∀ a, Returns (f a).run) : Returns (p >>= f).run := by
  rw [ExceptT.run_bind]
  refine returns_bind hp fun r => ?_
  cases r with
  | error e => trivial
  | ok a => exact hf a

lemma returns_void {p : FfiResult α} (hp : Returns p.run) : Returns (void p).run :=
  returns_next hp fun _ => trivial

lemma returns_checkCode (op : String) (code : Int32) : Returns (checkCode op code).run := by
  rw [checkCode, errorMessage]
  split
  · trivial
  · split
    · trivial
    · exact fun _ _ => trivial

lemma returns_checked {c : CCall} (op : String) (code : c.Answer → Int32) :
    Returns (Machine.checked op c code).run :=
  fun _ _ => returns_checkCode op _

lemma returns_nonNull (op : String) (ptr : Option α) : Returns (nonNull op ptr).run := by
  cases ptr <;> trivial

lemma returns_guarded {refused : Prop} [Decidable refused] {e : Error} {p : FfiResult α}
    (hp : Returns p.run) : Returns (if refused then throw e else p : FfiResult α).run := by
  split
  · trivial
  · exact hp

lemma returns_cString {text : Bytes} {f : Bytes → FfiResult α} (hf : ∀ s, Returns (f s).run) :
    Returns (cString text >>= f).run := by
  rw [ExceptT.run_bind, cString]
  split
  · trivial
  · exact hf text

end

section

variable (self : Machine)

lemma returns_new (elf : Bytes) (options : Options) (registry : SyscallRegistry) :
    Returns (Machine.new elf options registry).run :=
  returns_guarded fun ptr _ => by cases ptr <;> trivial

lemma returns_step (verbose : Bool) : Returns (self.step verbose).run := by
  intro value _
  change Program.Surely _ _ (ExceptT.run (ite _ _ _))
  split
  · exact returns_bind (returns_checkCode _ _) fun r => by cases r <;> trivial
  · trivial

lemma returns_allowFile (path : Bytes) : Returns (self.allowFile path).run := by
  rw [Machine.allowFile]
  split
  · trivial
  · exact returns_cString fun s _ _ => trivial

lemma returns_copyFromGuest (src : Addr) (dst : Bytes) : Returns (self.copyFromGuest src dst) := by
  rw [Machine.copyFromGuest]
  split
  · trivial
  · rintro ⟨code, buf⟩ _
    change Returns ((checkCode _ code).run >>= fun result => .ret (result, buf))
    exact returns_bind (returns_checkCode _ code) fun _ => trivial

lemma returns_readMemory (src : Addr) (len : ℕ) : Returns (self.readMemory src len).run := by
  refine returns_guarded ?_
  rw [ExceptT.run_bind, Fallible.run_lift, Program.bind_assoc]
  refine returns_bind (returns_copyFromGuest self src _) fun r => ?_
  rcases r with ⟨result | result, buf⟩ <;> trivial

lemma returns_memstring (src : Addr) (maxlen : UInt32) :
    Returns (self.memstring src maxlen).run := by
  rintro ⟨ptr | ptr, length⟩ _
  · trivial
  · exact fun _ _ => trivial

end

section

variable (ctx : SyscallContext) (a : Addr)

lemma surely_exposeView (op : String) {expose : UInt32 → Ffi (Option ViewPointer)}
    (he : ∀ n, Returns (expose n)) (len : ℕ) :
    (SyscallContext.exposeView op expose len).run.Surely Genuine (Sized len) := by
  by_cases h : len > u32Max
  · rw [SyscallContext.exposeView_long _ _ h]
    exact fun _ h => nomatch h
  · rw [SyscallContext.exposeView_short _ _ h]
    refine Program.surely_bind (he _) fun ptr _ => ?_
    cases ptr with
    | none => exact fun _ h => nomatch h
    | some ptr =>
      intro view hv
      cases hv
      rfl

lemma surely_memview (len : ℕ) : (ctx.memview a len).run.Surely Genuine (Sized len) :=
  surely_exposeView _ (fun _ => returns_call _) len

lemma surely_writableMemview (len : ℕ) :
    (ctx.writableMemview a len).run.Surely Genuine (Sized len) :=
  surely_exposeView _ (fun _ => returns_call _) len

lemma returns_of_sized {α : Type} {p : FfiResult Slice} {len : ℕ}
    (hp : p.run.Surely Genuine (Sized len)) {f : Slice → FfiResult α}
    (hf : ∀ view, view.len = len → Returns (f view).run) : Returns (p >>= f).run := by
  rw [ExceptT.run_bind]
  refine Program.surely_bind hp fun r hr => ?_
  cases r with
  | error e => trivial
  | ok view => exact hf view (hr view rfl)

lemma returns_memstring_view (maxlen : ℕ) : Returns (ctx.memstring a maxlen).run :=
  returns_guarded fun answer _ => by rcases answer with ⟨ptr | ptr, length⟩ <;> trivial

lemma returns_copyFromSlice {view : Slice} {data : Bytes} (h : view.len = data.length) :
    Returns (liftM (view.copyFromSlice data) : FfiResult Unit).run := by
  rw [Slice.copyFromSlice, if_pos h]
  exact fun _ _ => trivial

lemma returns_read (dst : Bytes) : Returns (ctx.read a dst) := by
  rw [SyscallContext.read]
  split
  · trivial
  · refine Program.surely_bind (surely_memview ctx a dst.length) fun r hr => ?_
    cases r with
    | error e => trivial
    | ok view =>
      change Returns (copyFromView dst view >>= _)
      rw [copyFromView, if_pos (hr view rfl).symm]
      exact fun _ _ => trivial

lemma returns_write (data : Bytes) : Returns (ctx.write a data).run := by
  rw [SyscallContext.write]
  split
  · trivial
  · exact returns_of_sized (surely_writableMemview ctx a data.length) fun view hv =>
      returns_copyFromSlice hv

lemma returns_readPod (T : PodType) : Returns (ctx.readPod T a).run := by
  refine returns_of_sized (surely_memview ctx a T.size) fun view hv bytes hb => ?_
  change Returns (liftM (T.readUnaligned bytes) : FfiResult T.Carrier).run
  rw [Fallible.run_lift, PodType.readUnaligned, if_pos (hb.trans hv)]
  trivial

lemma returns_writePod (T : PodType) (value : T.Carrier) : Returns (ctx.writePod T a value).run :=
  returns_of_sized (surely_writableMemview ctx a T.size) fun _ hv =>
    returns_copyFromSlice (hv.trans (T.length_bytesOf value).symm)

end

lemma returns_request (self : Machine) (request : Request) :
    Returns (request.perform self).run := by
  cases request with
  | new elf options registry => exact returns_void (returns_new elf options registry)
  | withDefaults elf registry => exact returns_void fun _ _ => returns_new elf _ registry
  | register num handler => exact fun _ _ => returns_checkCode _ _
  | setupNativeMemory | run | setupArena | arenaFree | transferArenaFrom | setupLinuxSyscalls
  | setupPosixThreads | jump | setupVmcall => exact returns_checked _ _
  | step verbose => exact returns_void (returns_step self verbose)
  | allowFile path => exact returns_allowFile self path
  | addressOf name => exact returns_void (returns_cString fun _ _ _ => trivial)
  | fastFork options =>
    exact returns_void fun answer _ => by rcases answer with ⟨ptr | ptr, raw⟩ <;> trivial
  | insertNonOwnedMemory | copyToGuest | writeMemory => exact returns_guarded (returns_checked _ _)
  | copyFromGuest src dst =>
    exact returns_bind (returns_copyFromGuest self src dst) fun _ => trivial
  | readMemory src len => exact returns_void (returns_readMemory self src len)
  | memstring src maxlen => exact returns_void (returns_memstring self src maxlen)
  | registers | handlerRegisters => exact returns_void fun _ _ => returns_nonNull _ _
  | handlerMemview src len =>
    exact returns_of_sized (surely_memview _ src len) fun _ _ => trivial
  | handlerWritableMemview dst len =>
    exact returns_of_sized (surely_writableMemview _ dst len) fun _ _ => trivial
  | handlerMemstring src maxlen => exact returns_void (returns_memstring_view _ src maxlen)
  | handlerRead src dst => exact returns_bind (returns_read _ src dst) fun _ => trivial
  | handlerWrite dst data => exact returns_write _ dst data
  | handlerReadPod T src => exact returns_void (returns_readPod _ src T)
  | handlerWritePod T dst value => exact returns_writePod _ dst T value

lemma returns_plain (self : Machine) (op : Plain) : Returns (op.perform self) := by
  cases op with
  | parentPage pageNumber =>
    refine returns_ignore fun answer _ => ?_
    rcases answer with ⟨ptr | ptr, attributes⟩ <;> trivial
  | _ => exact fun _ _ => trivial

/-- Whatever C answers, every operation of a machine or of a handler comes back to its caller: the
lengths of views and buffers, on which a copy or a cast would panic, always agree. -/
theorem operations_never_panic {σ : Type} {H : Handler native σ}
    (hH : ∀ view s, (H (.load view) s).1.length = view.len) (self : Machine)
    (operation : Operation) (s : σ) :
    ∃ t, (operation.perform self).run H s = (some (), t) := by
  have hg : ∀ a s, Genuine a (H a s).1 := by
    intro a s
    cases a with
    | load view => exact hH view s
    | foreign c | store view bytes => trivial
  have hr : Returns (operation.perform self) := by
    cases operation with
    | fallible request => exact returns_ignore (returns_request self request)
    | plain op => exact returns_plain self op
  obtain ⟨_, t, ht, _⟩ := Program.surely_run hg hr s
  exact ⟨t, ht⟩

theorem granted_read_returns : ∃ t, ((Operation.fallible (.handlerRead 16 [1, 2])).perform
    ⟨7, [], ⟨.zeroed, .empty⟩⟩).run (GuestMemory.library fun _ _ _ hidden => (true, hidden))
      ((fun _ => 5), ()) = (some (), t) :=
  operations_never_panic (fun view s => s.1.length_load view.ptr.addr view.len) _ _ _

end Libriscv.Panics

import Libriscv.Lengths.Uses

/-! How each use opens: with its C call, and with no other length after it. -/

namespace Libriscv.Lengths

open Foundations

/-- No further length goes to C, and a slice is as long as the view that was asked for. -/
def Follows (len : ℕ) : Action → Prop
  | .foreign c => c.size = none
  | .load view | .store view _ => view.len = len

def Yields (len : ℕ) : Except Error (Option Slice) → Prop
  | .ok (some slice) => slice.len = len
  | _ => True

section opening

variable {α β : Type}

def Opens (c : CCall) (len : ℕ) (Q : α → Prop) (p : Ffi α) : Prop :=
  ∃ next, p = .call (.foreign c) next ∧ ∀ answer, (next answer).Always (Follows len) Q

variable {c : CCall} {len : ℕ} {Q : α → Prop} {R : β → Prop}

lemma Opens.bind {p : Ffi α} {f : α → Ffi β} (hp : Opens c len Q p)
    (hf : ∀ a, Q a → (f a).Always (Follows len) R) : Opens c len R (p >>= f) := by
  obtain ⟨next, rfl, hn⟩ := hp
  exact ⟨_, rfl, fun answer => Program.always_bind (hn answer) hf⟩

lemma Opens.silent {p : FfiResult α} {Q : Except Error α → Prop} (hp : Opens c len Q p.run) :
    Opens c len (Yields len) (Use.silent p) :=
  hp.bind fun r _ => by cases r <;> trivial

lemma silent_refused {p : FfiResult α} {e : Error} (hp : p.run = .ret (.error e)) :
    Use.silent p = .ret (.error e) := by
  rw [Use.silent, hp]
  rfl

lemma exposing_refused {p : FfiResult Slice} {e : Error} (hp : p.run = .ret (.error e)) :
    Use.exposing p = .ret (.error e) := by
  rw [Use.exposing, hp]
  rfl

lemma checked_opens (op : String) (code : c.Answer → Int32) :
    Opens c len (fun _ => True) (Machine.checked op c code).run :=
  ⟨_, rfl, fun _ => checkCode_always op _ rfl⟩

end opening

section views

variable (ctx : SyscallContext) (a : Addr) {len : ℕ} (h : ¬ len > u32Max)

def Sized (len : ℕ) (result : Except Error Slice) : Prop := ∀ view, result = .ok view → view.len = len

include h in
lemma exposeView_opens {c : CCall} (op : String) {expose : UInt32 → Ffi (Option ViewPointer)}
    (he : Opens c len (fun _ => True) (expose (UInt32.ofNat len))) :
    Opens c len (Sized len) (SyscallContext.exposeView op expose len).run := by
  rw [SyscallContext.exposeView_short _ _ h]
  refine he.bind fun ptr _ => ?_
  cases ptr with
  | none => exact fun _ hv => nomatch hv
  | some ptr =>
    rintro view hv
    cases hv
    rfl

include h in
lemma memview_opens :
    Opens (.memview ctx.machine a (UInt32.ofNat len)) len (Sized len) (ctx.memview a len).run :=
  exposeView_opens h _ ⟨.ret, rfl, fun _ => trivial⟩

include h in
lemma writableMemview_opens : Opens (.writableMemview ctx.machine a (UInt32.ofNat len)) len
    (Sized len) (ctx.writableMemview a len).run :=
  exposeView_opens h _ ⟨.ret, rfl, fun _ => trivial⟩

lemma exposing_opens {c : CCall} {p : FfiResult Slice} (hp : Opens c len (Sized len) p.run) :
    Opens c len (Yields len) (Use.exposing p) := by
  refine hp.bind fun r hr => ?_
  cases r with
  | error e => trivial
  | ok view => exact hr view rfl

lemma read_opens {dst : Bytes} (h0 : dst ≠ []) (h : ¬ dst.length > u32Max) :
    Opens (.memview ctx.machine a (UInt32.ofNat dst.length)) dst.length (fun _ => True)
      (ctx.read a dst) := by
  rw [SyscallContext.read, if_neg (by simpa using h0)]
  refine (memview_opens ctx a h).bind fun r hr => ?_
  cases r with
  | error e => trivial
  | ok view =>
    have hv : dst.length = view.len := (hr view rfl).symm
    simp only [copyFromView, if_pos hv]
    exact ⟨hv.symm, fun _ => trivial⟩

lemma write_opens {data : Bytes} (h0 : data ≠ []) (h : ¬ data.length > u32Max) :
    Opens (.writableMemview ctx.machine a (UInt32.ofNat data.length)) data.length (fun _ => True)
      (ctx.write a data).run := by
  rw [SyscallContext.write, if_neg (by simpa using h0), ExceptT.run_bind]
  refine (writableMemview_opens ctx a h).bind fun r hr => ?_
  cases r with
  | error e => trivial
  | ok view =>
    have hv : view.len = data.length := hr view rfl
    simp only [Slice.copyFromSlice, if_pos hv]
    exact ⟨hv, fun _ => trivial⟩

lemma readPod_opens (T : PodType) (h : ¬ T.size > u32Max) :
    Opens (.memview ctx.machine a (UInt32.ofNat T.size)) T.size (fun _ => True)
      (ctx.readPod T a).run := by
  rw [SyscallContext.readPod, ExceptT.run_bind]
  refine (memview_opens ctx a h).bind fun r hr => ?_
  cases r with
  | error e => trivial
  | ok view =>
    refine ⟨hr view rfl, fun bytes => ?_⟩
    change (PodType.readUnaligned T bytes >>= fun value => .ret (Except.ok value)).Always _ _
    simp only [PodType.readUnaligned]
    split <;> trivial

lemma writePod_opens (T : PodType) (value : T.Carrier) (h : ¬ T.size > u32Max) :
    Opens (.writableMemview ctx.machine a (UInt32.ofNat T.size)) T.size (fun _ => True)
      (ctx.writePod T a value).run := by
  rw [SyscallContext.writePod, ExceptT.run_bind]
  refine (writableMemview_opens ctx a h).bind fun r hr => ?_
  cases r with
  | error e => trivial
  | ok view =>
    have hv : view.len = (T.bytesOf value).length := (hr view rfl).trans (T.length_bytesOf value).symm
    simp only [Slice.copyFromSlice, if_pos hv]
    exact ⟨hr view rfl, fun _ => trivial⟩

end views

section calls

lemma new_opens {elf : Bytes} (options : Options) (registry : SyscallRegistry)
    (h : ¬ elf.length > u32Max) :
    Opens (.new elf (UInt32.ofNat elf.length) options.raw) elf.length (fun _ => True)
      (Machine.new elf options registry).run := by
  rw [Machine.new, if_neg h]
  refine ⟨_, rfl, fun ptr => ?_⟩
  cases ptr <;> trivial

lemma copyToGuest_opens (m : Machine) (dst : Addr) {src : Bytes} (h : ¬ src.length > u32Max) :
    Opens (.copyToGuest m.ptr dst src (UInt32.ofNat src.length)) src.length (fun _ => True)
      (m.copyToGuest dst src).run := by
  rw [Machine.copyToGuest, if_neg h]
  exact checked_opens _ _

lemma copyFromGuest_opens (m : Machine) (src : Addr) {dst : Bytes} (h : ¬ dst.length > u32Max) :
    Opens (.copyFromGuest m.ptr dst src (UInt32.ofNat dst.length)) dst.length (fun _ => True)
      (m.copyFromGuest src dst) := by
  rw [Machine.copyFromGuest, if_neg h]
  refine ⟨_, rfl, fun answer => ?_⟩
  rcases answer with ⟨code, buf⟩
  change ((checkCode _ code).run >>= fun result => .ret (result, buf)).Always _ _
  exact Program.always_bind (checkCode_always _ _ rfl) fun _ _ => trivial

lemma readMemory_opens (m : Machine) (src : Addr) {len : ℕ} (h : ¬ len > u32Max) :
    Opens (.copyFromGuest m.ptr (List.replicate len 0) src (UInt32.ofNat len)) len (fun _ => True)
      (m.readMemory src len).run := by
  have hl : (List.replicate len (0 : UInt8)).length = len := List.length_replicate
  have ho := copyFromGuest_opens m src (hl.symm ▸ h)
  rw [hl] at ho
  rw [Machine.readMemory, if_neg h, ExceptT.run_bind, Fallible.run_lift, Program.bind_assoc]
  refine ho.bind fun r _ => ?_
  rcases r with ⟨result | result, buf⟩ <;> trivial

lemma memstring_opens (ctx : SyscallContext) (src : Addr) {maxlen : ℕ} (h : ¬ maxlen > u32Max) :
    Opens (.memstring ctx.machine src (UInt32.ofNat maxlen)) maxlen (fun _ => True)
      (ctx.memstring src maxlen).run := by
  rw [SyscallContext.memstring, if_neg h]
  refine ⟨_, rfl, fun r => ?_⟩
  rcases r with ⟨_ | ptr, length⟩ <;> trivial

lemma registering_opens {id : Except Error SyscallId} {num : SyscallId} (hid : id = .ok num)
    (handler : SyscallHandler) : Opens (.setSyscallHandler num.get handler.raw) num.get.toNat
      (fun _ => True) (Use.registering id handler).run := by
  subst hid
  exact ⟨_, rfl, fun _ => checkCode_always _ _ rfl⟩

end calls

end Libriscv.Lengths

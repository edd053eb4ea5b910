import Libriscv.Lengths.Opening

/-! Every length and index passes whole into C, or is refused with the original value. -/

namespace Libriscv.Lengths

open Foundations

lemma new_refuses {index : UInt32} (h : 511 < index.toNat) :
    SyscallId.new index = .error (.invalidSyscallIndex index.toNat 511) := by
  have hn : ¬ index < syscallsMax := fun hlt => by
    have := UInt32.lt_iff_toNat_lt.mp hlt
    have : syscallsMax.toNat = 512 := rfl
    omega
  rw [SyscallId.new, dif_neg hn]
  rfl

lemma tryFromUsize_refuses {value : ℕ} (h : 511 < value) :
    SyscallId.tryFromUsize value = .error (.invalidSyscallIndex value 511) := by
  simp only [SyscallId.tryFromUsize]
  split
  · rfl
  · next hl =>
    rw [new_refuses (by rw [toNat_ofNat_short hl]; exact h), toNat_ofNat_short hl]

section refusals

variable (m : Machine) (ctx : SyscallContext) (a : Addr) {bytes : Bytes}

lemma elf_refused (options : Options) (registry : SyscallRegistry) (h : bytes.length > u32Max) :
    (Machine.new bytes options registry).run = .ret (.error (.elfTooLarge bytes.length)) := by
  rw [Machine.new, if_pos h]
  rfl

lemma copyToGuest_refused (h : bytes.length > u32Max) : (m.copyToGuest a bytes).run =
    .ret (.error (.lengthTooLarge "libriscv_copy_to_guest" bytes.length)) := by
  rw [Machine.copyToGuest, if_pos h]
  rfl

lemma copyFromGuest_refused (h : bytes.length > u32Max) : m.copyFromGuest a bytes =
    .ret (.error (.lengthTooLarge "libriscv_copy_from_guest" bytes.length), bytes) := by
  rw [Machine.copyFromGuest, if_pos h]
  rfl

lemma readMemory_refused {len : ℕ} (h : len > u32Max) :
    (m.readMemory a len).run = .ret (.error (.lengthTooLarge "read_memory" len)) := by
  rw [Machine.readMemory, if_pos h]
  rfl

lemma memstring_refused {maxlen : ℕ} (h : maxlen > u32Max) :
    (ctx.memstring a maxlen).run = .ret (.error (.lengthTooLarge "libriscv_memstring" maxlen)) := by
  rw [SyscallContext.memstring, if_pos h]
  rfl

lemma isEmpty_long (h : bytes.length > u32Max) : ¬ bytes.isEmpty := by
  intro h0
  rw [List.isEmpty_iff.mp h0] at h
  exact absurd h (by decide)

lemma read_refused (h : bytes.length > u32Max) : ctx.read a bytes =
    .ret (.error (.lengthTooLarge "libriscv_memview" bytes.length), bytes) := by
  rw [SyscallContext.read, if_neg (isEmpty_long h), SyscallContext.memview,
    SyscallContext.exposeView_long _ _ h]
  rfl

lemma write_refused (h : bytes.length > u32Max) : (ctx.write a bytes).run =
    .ret (.error (.lengthTooLarge "libriscv_writable_memview" bytes.length)) := by
  rw [SyscallContext.write, if_neg (isEmpty_long h), ExceptT.run_bind,
    SyscallContext.writableMemview, SyscallContext.exposeView_long _ _ h]
  rfl

lemma readPod_refused (T : PodType) (h : T.size > u32Max) :
    (ctx.readPod T a).run = .ret (.error (.lengthTooLarge "libriscv_memview" T.size)) := by
  rw [SyscallContext.readPod, ExceptT.run_bind, SyscallContext.memview,
    SyscallContext.exposeView_long _ _ h]
  rfl

lemma writePod_refused (T : PodType) (value : T.Carrier) (h : T.size > u32Max) :
    (ctx.writePod T a value).run =
      .ret (.error (.lengthTooLarge "libriscv_writable_memview" T.size)) := by
  rw [SyscallContext.writePod, ExceptT.run_bind, SyscallContext.writableMemview,
    SyscallContext.exposeView_long _ _ h]
  rfl

lemma registering_refused {id : Except Error SyscallId} {e : Error} (h : id = .error e)
    (handler : SyscallHandler) : (Use.registering id handler).run = .ret (.error e) := by
  subst h
  rfl

end refusals

lemma perform_refused (use : Use) (h : use.limit < use.len) :
    use.perform = .ret (.error use.refusal) := by
  cases use with
  | machineNew elf options registry => exact silent_refused (elf_refused options registry h)
  | copyToGuest m dst src | writeMemory m dst src => exact silent_refused (copyToGuest_refused m dst h)
  | copyFromGuest m src dst => rw [Use.perform, copyFromGuest_refused m src h]; rfl
  | readMemory m src len => exact silent_refused (readMemory_refused m src h)
  | memview ctx src len | writableMemview ctx src len =>
    exact exposing_refused (SyscallContext.exposeView_long _ _ h)
  | memstring ctx src maxlen => exact silent_refused (memstring_refused ctx src h)
  | read ctx src dst => rw [Use.perform, read_refused ctx src h]; rfl
  | write ctx dst data => exact silent_refused (write_refused ctx dst h)
  | readPod ctx T src => exact silent_refused (readPod_refused ctx src T h)
  | writePod ctx T dst value => exact silent_refused (writePod_refused ctx dst T value h)
  | registerUsize value handler =>
    exact silent_refused (registering_refused (tryFromUsize_refuses h) handler)
  | registerU32 value handler | registerNew value handler =>
    exact silent_refused (registering_refused (new_refuses h) handler)

lemma perform_skips (use : Use) (h : use.Skips) : use.perform = .ret (.ok none) := by
  cases use with
  | read ctx src bytes | write ctx src bytes =>
    cases h
    rfl
  | _ => exact h.elim

lemma index_opens {value : UInt32} (h : value.toNat ≤ 511) (handler : SyscallHandler) :
    Opens (.setSyscallHandler value handler.raw) value.toNat (Yields value.toNat)
      (Use.silent (Use.registering (SyscallId.new value) handler)) := by
  obtain ⟨num, hn, rfl⟩ := SyscallId.new_of_lt (show value.toNat < 512 by omega)
  exact Opens.silent (registering_opens hn handler)

lemma perform_opens (use : Use) (h : use.len ≤ use.limit) (h0 : ¬ use.Skips) :
    Opens (use.cCall (UInt32.ofNat use.len)) use.len (Yields use.len) use.perform := by
  have hl := not_lt.mpr h
  cases use with
  | machineNew elf options registry => exact (new_opens options registry hl).silent
  | copyToGuest m dst src | writeMemory m dst src => exact (copyToGuest_opens m dst hl).silent
  | copyFromGuest m src dst =>
    exact (copyFromGuest_opens m src hl).bind fun r _ => by rcases r with ⟨_ | _, _⟩ <;> trivial
  | readMemory m src len => exact (readMemory_opens m src hl).silent
  | memview ctx src len => exact exposing_opens (memview_opens ctx src hl)
  | writableMemview ctx src len => exact exposing_opens (writableMemview_opens ctx src hl)
  | memstring ctx src maxlen => exact (memstring_opens ctx src hl).silent
  | read ctx src dst =>
    exact (read_opens ctx src h0 hl).bind fun r _ => by rcases r with ⟨_ | _, _⟩ <;> trivial
  | write ctx dst data => exact (write_opens ctx dst h0 hl).silent
  | readPod ctx T src => exact (readPod_opens ctx src T hl).silent
  | writePod ctx T dst value => exact (writePod_opens ctx dst T value hl).silent
  | registerUsize value handler =>
    have hs : ¬ value > u32Max := fun hv => hl (by unfold u32Max at hv; change 511 < value; omega)
    have hn : (UInt32.ofNat value).toNat = value := toNat_ofNat_short hs
    have hi := index_opens (hn.symm ▸ h) handler
    rw [hn] at hi
    rwa [Use.perform, SyscallId.tryFromUsize, if_neg hs]
  | registerU32 value handler | registerNew value handler =>
    change Opens (Use.cCall (UInt32.ofNat value.toNat) _) _ _ _
    rw [UInt32.ofNat_toNat]
    exact index_opens h handler

section

variable (use : Use) {σ : Type} (H : Handler native σ) (s : σ)

def sizes (actions : List Action) : List UInt32 := (foreignCalls actions).filterMap CCall.size

/-- C is called with the length or index itself, and every slice of guest memory that is accessed
or returned is as long as the view that C was asked for. -/
structure PassesWhole (n : UInt32) : Prop where
  whole : n.toNat = use.len
  within : n.toNat ≤ use.limit
  called : (foreignCalls (use.perform.trace H s)).head? = some (use.cCall n)
  sizes : sizes (use.perform.trace H s) = [n]
  loads : ∀ view, .load view ∈ use.perform.trace H s → view.len = n.toNat
  stores : ∀ view bytes, .store view bytes ∈ use.perform.trace H s → view.len = n.toNat
  exposes : ∀ view t, use.perform.run H s = (some (.ok (some view)), t) → view.len = n.toNat

structure Refuses : Prop where
  beyond : use.limit < use.len
  error : use.perform.run H s = (some (.error use.refusal), s)
  silent : use.perform.trace H s = []

structure Succeeds : Prop where
  skips : use.Skips
  ok : use.perform.run H s = (some (.ok none), s)
  silent : use.perform.trace H s = []

lemma size_cCall (n : UInt32) : (use.cCall n).size = some n := by cases use <;> rfl

lemma sizes_follow {len : ℕ} {actions : List Action} (h : ∀ a ∈ actions, Follows len a) :
    sizes actions = [] := by
  rw [sizes, List.filterMap_eq_nil_iff]
  intro c hc
  obtain ⟨a, ha, hac⟩ := List.mem_filterMap.mp hc
  cases a with
  | foreign c' =>
    cases hac
    exact h _ ha
  | load | store => cases hac

lemma limit_le : use.limit ≤ u32Max := by
  simp only [Use.limit]
  split <;> decide

lemma passesWhole_of_opens (h : use.len ≤ use.limit)
    (ho : Opens (use.cCall (UInt32.ofNat use.len)) use.len (Yields use.len) use.perform) :
    PassesWhole use H s (UInt32.ofNat use.len) := by
  have hn : (UInt32.ofNat use.len).toNat = use.len :=
    toNat_ofNat_short (not_lt.mpr (h.trans (limit_le use)))
  -- the first action is the call into C; what follows is bound to its length
  obtain ⟨next, hp, hnext⟩ := ho
  have hf := Program.always_trace H (H (.foreign (use.cCall (UInt32.ofNat use.len))) s).2
    (hnext (H (.foreign (use.cCall (UInt32.ofNat use.len))) s).1)
  constructor
  case whole => exact hn
  case within => rwa [hn]
  case called => rw [hp]; rfl
  case sizes =>
    rw [hp, Program.trace_call, Lengths.sizes, foreignCalls, List.filterMap_cons,
      List.filterMap_cons, size_cCall]
    exact congrArg _ (sizes_follow hf)
  case loads =>
    intro view hv
    rw [hp, Program.trace_call, List.mem_cons] at hv
    rw [hn]
    exact hf _ (hv.resolve_left (fun he => nomatch he))
  case stores =>
    intro view bytes hv
    rw [hp, Program.trace_call, List.mem_cons] at hv
    rw [hn]
    exact hf _ (hv.resolve_left (fun he => nomatch he))
  case exposes =>
    intro view t hv
    rw [hp, Program.run_call] at hv
    rw [hn]
    exact Program.always_value H _ (hnext _) hv

/-- A length or an index reaches C whole, or it is refused with its original value and C is not
called; only an access of no bytes does neither and succeeds. -/
theorem lengths_reach_c : (∃ n, PassesWhole use H s n) ∨ Refuses use H s ∨ Succeeds use H s := by
  by_cases h0 : use.Skips
  · have hp := perform_skips use h0
    exact .inr (.inr ⟨h0, by rw [hp]; rfl, by rw [hp]; rfl⟩)
  by_cases h : use.limit < use.len
  · have hp := perform_refused use h
    exact .inr (.inl ⟨h, by rw [hp]; rfl, by rw [hp]; rfl⟩)
  · exact .inl ⟨_, passesWhole_of_opens use H s (not_lt.mp h) (perform_opens use (not_lt.mp h) h0)⟩

end

theorem empty_read_is_silent :
    ¬ ((∃ n, PassesWhole (.read ⟨0⟩ 0 []) tableLibrary (fun _ => none) n) ∨
      Refuses (.read ⟨0⟩ 0 []) tableLibrary fun _ => none) := by
  rintro (⟨n, hn⟩ | hr)
  · exact nomatch hn.called
  · exact absurd hr.beyond (by decide)

end Libriscv.Lengths

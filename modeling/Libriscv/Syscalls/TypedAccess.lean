import Libriscv.Syscalls.GuestMemory

/-! Guest memory read and written as values of a type, beside the same as slices of bytes. -/

namespace Libriscv.GuestMemory

open Foundations

variable {τ : Type}

section programs

variable (ctx : SyscallContext) (T : PodType) (a : Addr)

def typed : Except Error Unit × Bytes → Ffi (Except Error T.Carrier)
  | (.ok _, bytes) => T.readUnaligned bytes >>= fun value => .ret (.ok value)
  | (.error e, _) => .ret (.error e)

lemma writePod_eq_write (h : T.size ≠ 0) (value : T.Carrier) :
    ctx.writePod T a value = ctx.write a (T.bytesOf value) := by
  have hl := T.length_bytesOf value
  have hb : ¬ (T.bytesOf value).isEmpty := by
    rw [List.isEmpty_iff_length_eq_zero, hl]
    exact h
  rw [SyscallContext.write, if_neg hb, SyscallContext.writePod, hl]

lemma readPod_eq_read (h : T.size ≠ 0) {buf : Bytes} (hb : buf.length = T.size) :
    (ctx.readPod T a).run = ctx.read a buf >>= typed T := by
  have hn : ¬ buf.isEmpty := by
    rw [List.isEmpty_iff_length_eq_zero, hb]
    exact h
  rw [SyscallContext.read, if_neg hn, SyscallContext.readPod, ExceptT.run_bind, Program.bind_assoc,
    hb, SyscallContext.memview]
  by_cases hl : T.size > u32Max
  · rw [SyscallContext.exposeView_long _ _ hl]
    rfl
  -- both ask for the same view, and a view that is granted has the length that was asked for
  rw [SyscallContext.exposeView_short _ _ hl, Program.bind_assoc, Program.bind_assoc]
  refine congrArg (_ >>= ·) (funext fun ptr => ?_)
  cases ptr with
  | none => rfl
  | some ptr =>
    simp only [Program.ret_bind, copyFromView, if_pos hb]
    rfl

end programs

section agreement

variable (policy : ViewPolicy τ) (s : State τ) (ctx : SyscallContext) (T : PodType) (a : Addr)

def ReadsAgree : Prop := ∀ buf : Bytes, buf.length = T.size → ∃ value slice t u,
  (ctx.readPod T a).run.run (library policy) s = (some value, t) ∧
    (ctx.read a buf).run (library policy) s = (some slice, u) ∧
    (∀ v, value = .ok v ↔ slice = (.ok (), T.bytesOf v)) ∧
    ∀ e, value = .error e ↔ ∃ rest, slice = (.error e, rest)

def WritesAgree : Prop := ∀ value : T.Carrier, ∃ result t u,
  (ctx.writePod T a value).run.run (library policy) s = (some result, t) ∧
    (ctx.write a (T.bytesOf value)).run.run (library policy) s = (some result, u) ∧ t.1 = u.1

variable {policy s ctx T a}

lemma ofBytes_eq_iff {bytes : Bytes} (h : bytes.length = T.size) {v : T.Carrier} :
    T.ofBytes bytes = v ↔ bytes = T.bytesOf v := by
  refine ⟨?_, ?_⟩
  · rintro rfl
    rw [T.bytesOf_ofBytes bytes h]
  · rintro rfl
    rw [T.ofBytes_bytesOf]

lemma ideal_read_length (buf : Bytes) :
    ((MemOp.read a buf).ideal policy s).1.host.length = buf.length := by
  by_cases h0 : buf.length = 0
  · rw [ideal_zero policy s (.read a buf) h0]
    rfl
  by_cases hl : buf.length > u32Max
  · rw [ideal_long policy s (.read a buf) hl]
    rfl
  by_cases hg : (policy .readOnly a buf.length s.2).1 = true
  · rw [ideal_read policy s (.read a buf) rfl h0 hl hg]
    exact s.1.length_load a buf.length
  · rw [ideal_denied policy s (.read a buf) h0 hl hg]
    rfl

lemma read_returns (buf : Bytes) : ∃ result bytes t,
    (ctx.read a buf).run (library policy) s = (some (result, bytes), t) ∧
      bytes.length = buf.length := by
  obtain ⟨⟨result, bytes⟩, t, hr, hf⟩ :=
    Program.run_of_bind _ _ (perform_agrees policy s ctx (.read a buf))
  have hi : ⟨errorOf result, bytes⟩ = ((MemOp.read a buf).ideal policy s).1 :=
    Option.some.inj (congrArg Prod.fst hf)
  refine ⟨result, bytes, t, hr, ?_⟩
  rw [← @ideal_read_length _ policy s a buf, ← hi]

lemma write_returns (data : Bytes) : ∃ result t,
    (ctx.write a data).run.run (library policy) s = (some result, t) := by
  obtain ⟨result, t, hr, _⟩ :=
    Program.run_of_bind _ _ (perform_agrees policy s ctx (.write a data))
  exact ⟨result, t, hr⟩

lemma readsAgree_sized (h : T.size ≠ 0) : ReadsAgree policy s ctx T a := by
  intro buf hb
  obtain ⟨result, bytes, t, hr, hl⟩ := @read_returns _ policy s ctx a buf
  have hp := Program.run_bind_some _ _ (f := typed T) hr
  rw [← readPod_eq_read ctx T a h hb] at hp
  cases result with
  | error e =>
    refine ⟨.error e, (.error e, bytes), t, t, hp, hr, fun v => ?_, fun e' => ?_⟩
    · simp
    · simp
  | ok _ =>
    have hs : bytes.length = T.size := hl.trans hb
    rw [typed, PodType.readUnaligned, if_pos hs] at hp
    refine ⟨.ok (T.ofBytes bytes), (.ok (), bytes), t, t, hp, hr, fun v => ?_, fun e => ?_⟩
    · simp only [Except.ok.injEq, Prod.mk.injEq, true_and]
      exact ofBytes_eq_iff hs
    · simp

lemma writesAgree_sized (h : T.size ≠ 0) : WritesAgree policy s ctx T a := by
  intro value
  obtain ⟨result, t, hw⟩ := @write_returns _ policy s ctx a (T.bytesOf value)
  rw [writePod_eq_write ctx T a h]
  exact ⟨result, t, t, hw, hw, rfl⟩

section empty

variable (h : T.size = 0)

include h

lemma empty_short : ¬ T.size > u32Max := by
  rw [h]
  exact Nat.not_lt_zero _

lemma bytesOf_empty (value : T.Carrier) : T.bytesOf value = [] :=
  List.length_eq_zero_iff.mp ((T.length_bytesOf value).trans h)

lemma readPod_granted (hg : (policy .readOnly a T.size s.2).1 = true) :
    (ctx.readPod T a).run.run (library policy) s =
      (some (.ok (T.ofBytes [])), s.1, (policy .readOnly a T.size s.2).2) := by
  have hv : (ctx.memview a T.size).run.run (library policy) s = _ :=
    view_granted policy s ctx .readOnly a (empty_short h) hg
  have hb : s.1.load a T.size = [] := by
    rw [h]
    rfl
  rw [SyscallContext.readPod, ExceptT.run_bind, Program.run_bind_some _ _ hv]
  simp only [ExceptT.run_bind, Fallible.run_lift, load_bind, Program.call_bind, Program.ret_bind,
    Program.run_call, library, hb, PodType.readUnaligned, List.length_nil, if_pos h.symm]
  rfl

lemma readPod_denied (hg : ¬ (policy .readOnly a T.size s.2).1 = true) :
    (ctx.readPod T a).run.run (library policy) s =
      (some (.error (.nullPointer "libriscv_memview")), s.1,
        (policy .readOnly a T.size s.2).2) := by
  have hv : (ctx.memview a T.size).run.run (library policy) s = _ :=
    view_denied policy s ctx .readOnly a (empty_short h) hg
  rw [SyscallContext.readPod, ExceptT.run_bind, Program.run_bind_some _ _ hv]
  rfl

lemma writePod_granted (value : T.Carrier) (hg : (policy .writable a T.size s.2).1 = true) :
    (ctx.writePod T a value).run.run (library policy) s =
      (some (.ok ()), s.1, (policy .writable a T.size s.2).2) := by
  have hv : (ctx.writableMemview a T.size).run.run (library policy) s = _ :=
    view_granted policy s ctx .writable a (empty_short h) hg
  have hb := bytesOf_empty h value
  rw [SyscallContext.writePod, ExceptT.run_bind, Program.run_bind_some _ _ hv]
  simp only [Fallible.run_lift, Slice.copyFromSlice, hb, List.length_nil, if_pos h, store_bind,
    Program.run_call, library, Memory.store_nil]
  rfl

lemma writePod_denied (value : T.Carrier) (hg : ¬ (policy .writable a T.size s.2).1 = true) :
    (ctx.writePod T a value).run.run (library policy) s =
      (some (.error (.nullPointer "libriscv_writable_memview")), s.1,
        (policy .writable a T.size s.2).2) := by
  have hv : (ctx.writableMemview a T.size).run.run (library policy) s = _ :=
    view_denied policy s ctx .writable a (empty_short h) hg
  rw [SyscallContext.writePod, ExceptT.run_bind, Program.run_bind_some _ _ hv]
  rfl

lemma readsAgree_empty :
    ReadsAgree policy s ctx T a ↔ (policy .readOnly a T.size s.2).1 = true := by
  refine ⟨fun ha => ?_, fun hg => ?_⟩
  · by_contra hg
    obtain ⟨value, slice, t, u, hp, hr, -, he⟩ := ha [] h.symm
    rw [readPod_denied h hg] at hp
    cases hp
    cases hr
    obtain ⟨_, hn⟩ := (he _).mp rfl
    cases hn
  · intro buf hb
    obtain rfl := List.length_eq_zero_iff.mp (hb.trans h)
    refine ⟨_, _, _, _, readPod_granted h hg, rfl, fun v => ?_, fun e => ?_⟩
    · rw [bytesOf_empty h, ← T.ofBytes_bytesOf v, bytesOf_empty h]
      exact ⟨fun _ => rfl, fun _ => rfl⟩
    · simp

lemma writesAgree_empty :
    WritesAgree policy s ctx T a ↔ (policy .writable a T.size s.2).1 = true := by
  refine ⟨fun ha => ?_, fun hg value => ?_⟩
  · by_contra hg
    obtain ⟨result, t, u, hp, hr, -⟩ := ha (T.ofBytes [])
    rw [writePod_denied h _ hg] at hp
    rw [bytesOf_empty h] at hr
    cases hp
    cases hr
  · rw [bytesOf_empty h]
    exact ⟨_, _, _, writePod_granted h value hg, rfl, rfl⟩

end empty

end agreement

/-- The typed and the slice paths agree except on an empty value at an address where libriscv grants
no empty view: the typed paths ask for one, and the slice paths do not. -/
theorem typed_access_agrees_iff (policy : ViewPolicy τ) (s : State τ) (ctx : SyscallContext)
    (T : PodType) (a : Addr) :
    (ReadsAgree policy s ctx T a ↔ T.size ≠ 0 ∨ (policy .readOnly a 0 s.2).1 = true) ∧
      (WritesAgree policy s ctx T a ↔ T.size ≠ 0 ∨ (policy .writable a 0 s.2).1 = true) := by
  by_cases h : T.size = 0
  · rw [readsAgree_empty h, writesAgree_empty h, h]
    simp only [ne_eq, not_true_eq_false, false_or, and_self]
  · exact ⟨⟨fun _ => .inl h, fun _ => readsAgree_sized h⟩,
      ⟨fun _ => .inl h, fun _ => writesAgree_sized h⟩⟩

def unitType : PodType where
  Carrier := Unit
  size := 0
  bytesOf _ := []
  ofBytes _ := ()
  length_bytesOf _ := rfl
  bytesOf_ofBytes _ h := (List.length_eq_zero_iff.mp h).symm
  ofBytes_bytesOf _ := rfl

def refusing : ViewPolicy Unit := fun _ _ _ hidden => (false, hidden)

theorem empty_value_is_refused :
    ((SyscallContext.readPod ⟨0⟩ unitType 0).run.run (library refusing) (fun _ => 0, ())).1 =
        some (.error (.nullPointer "libriscv_memview")) ∧
      ((SyscallContext.read ⟨0⟩ 0 []).run (library refusing) (fun _ => 0, ())).1 =
        some (.ok (), []) ∧
      ¬ ReadsAgree refusing (fun _ => 0, ()) ⟨0⟩ unitType 0 ∧
      ¬ WritesAgree refusing (fun _ => 0, ()) ⟨0⟩ unitType 0 :=
  ⟨rfl, rfl, fun h => (nomatch (readsAgree_empty rfl).mp h),
    fun h => (nomatch (writesAgree_empty rfl).mp h)⟩

end Libriscv.GuestMemory

import Libriscv.Lengths.Passing
import Libriscv.Syscalls.SharedMemory

/-! Host copies, handler accesses and the guest in turns: what each sees, and what it leaves. -/

namespace Libriscv.SharedMemory

open Foundations GuestMemory

variable {τ : Type}

/-- Between two accesses the guest may run: it stores, and what libriscv grants may change. -/
inductive Turn (τ : Type) : Type 1
  | access (access : Access)
  | guest (dst : Addr) (bytes : Bytes) (hidden : τ)

def play (policy : Policy τ) (self : Machine) :
    List (Turn τ) → State τ → Option (List Report) × State τ
  | [], s => (some [], s)
  | .guest dst bytes hidden :: turns, s => play policy self turns (s.1.store dst bytes, hidden)
  | .access access :: turns, s =>
    match (access.perform self).run (library policy) s with
    | (none, t) => (none, t)
    | (some report, t) =>
      ((play policy self turns t).1.map (report :: ·), (play policy self turns t).2)

/-- What the guest's cells may hold after an access that was reported so. -/
def Access.possible (access : Access) (report : Report) (p : Possible 64 UInt8) :
    Possible 64 UInt8 :=
  match access.target with
  | none => p
  | some (a, bs) =>
    if report.error = none then p.store a bs else if broke report then p.smear a bs else p

def possibleAfter (p : Possible 64 UInt8) : List (Turn τ) → List Report → Possible 64 UInt8
  | .guest dst bytes _ :: turns, reports => possibleAfter (p.store dst bytes) turns reports
  | .access access :: turns, report :: reports =>
    possibleAfter (access.possible report p) turns reports
  | _, _ => p

def writesOf : List (Turn τ) → List Report → List (Addr × Bytes)
  | .guest dst bytes _ :: turns, reports => (dst, bytes) :: writesOf turns reports
  | .access access :: turns, report :: reports =>
    (if report.error = none then access.target.toList else []) ++ writesOf turns reports
  | _, _ => []

section

variable {access : Access} {before after : Memory 64 UInt8} {report : Report}

lemma whole_inside (mem : Memory 64 UInt8) (a : Addr) (bs : Bytes) :
    ∃ written, mem.store a bs = mem.smear a bs written :=
  ⟨fun _ => true, funext fun _ => (if_pos rfl).symm⟩

lemma nothing_inside (mem : Memory 64 UInt8) (a : Addr) (bs : Bytes) :
    ∃ written, mem = mem.smear a bs written :=
  ⟨fun _ => false, funext fun _ => (if_neg Bool.false_ne_true).symm⟩

lemma refused_contract (access : Access) (mem : Memory 64 UInt8) (e : Error) :
    Contract access mem mem ⟨some e, access.buffer⟩ where
  writes _ _ _ h := nomatch h
  reads _ _ h := nomatch h
  whole _ _ h := nomatch h
  refused _ _ := ⟨rfl, rfl⟩
  inside a bs _ := nothing_inside mem a bs
  silent _ := rfl

lemma read_contract (ht : access.target = none) (mem : Memory 64 UInt8) {a : Addr} {n : ℕ}
    (hs : access.source = some a) (hn : ∀ k, access.amount = some k → k = n) :
    Contract access mem mem ⟨none, mem.load a n⟩ where
  writes _ _ h _ := by rw [ht] at h; cases h
  reads b hb _ := by
    obtain rfl : a = b := Option.some.inj (hs.symm.trans hb)
    rw [Memory.length_load]
  whole k hk _ := (Memory.length_load mem a n).trans (hn k hk).symm
  refused h := absurd rfl h
  inside _ _ h := by rw [ht] at h; cases h
  silent _ := rfl

lemma broken_read_contract (ht : access.target = none) (mem : Memory 64 UInt8) {op : String}
    {code : Int32} {message : Option String} (host : Bytes) :
    Contract access mem mem ⟨some (.library op code message), host⟩ where
  writes _ _ h _ := by rw [ht] at h; cases h
  reads _ _ h := nomatch h
  whole _ _ h := nomatch h
  refused _ h := nomatch h
  inside _ _ h := by rw [ht] at h; cases h
  silent _ := rfl

lemma write_contract {a : Addr} {bs : Bytes} (ht : access.target = some (a, bs))
    (hs : access.source = none) (hn : access.amount = none) (mem : Memory 64 UInt8)
    (host : Bytes) : Contract access mem (mem.store a bs) ⟨none, host⟩ where
  writes b cs h _ := by rw [ht] at h; cases h; rfl
  reads _ h _ := by rw [hs] at h; cases h
  whole _ h _ := by rw [hn] at h; cases h
  refused h := absurd rfl h
  inside b cs h := by
    rw [ht] at h
    cases h
    exact whole_inside mem a bs
  silent h := by rw [ht] at h; cases h

lemma broken_write_contract {a : Addr} {bs : Bytes} (ht : access.target = some (a, bs))
    (mem : Memory 64 UInt8) (written : ℕ → Bool) {op : String} {code : Int32}
    {message : Option String} (host : Bytes) :
    Contract access mem (mem.smear a bs written)
      ⟨some (.library op code message), host⟩ where
  writes _ _ _ h := nomatch h
  reads _ _ h := nomatch h
  whole _ _ h := nomatch h
  refused _ h := nomatch h
  inside b cs h := by
    rw [ht] at h
    cases h
    exact ⟨written, rfl⟩
  silent h := by rw [ht] at h; cases h

lemma allowed_after {p : Possible 64 UInt8} (hc : Contract access before after report)
    (hp : before.AllowedBy p) : after.AllowedBy (access.possible report p) := by
  rw [Access.possible]
  cases ht : access.target with
  | none =>
    rw [hc.silent ht]
    exact hp
  | some target =>
    rcases target with ⟨a, bs⟩
    by_cases he : report.error = none
    · simp only [if_pos he]
      rw [hc.writes a bs ht he]
      exact Possible.allowed_store hp a bs
    · simp only [if_neg he]
      by_cases hb : broke report = true
      · obtain ⟨written, rfl⟩ := hc.inside a bs ht
        rw [if_pos hb]
        exact Possible.allowed_smear hp a bs written
      · rw [if_neg hb, (hc.refused he (by simpa using hb)).1]
        exact hp

lemma exact_after (mem : Memory 64 UInt8) (hb : broke report = false) :
    access.possible report (.exactly mem) =
      .exactly (mem.replay (if report.error = none then access.target.toList else [])) := by
  rw [Access.possible]
  cases access.target with
  | none => rw [Option.toList_none, ite_self, Memory.replay_nil]
  | some target =>
    by_cases he : report.error = none
    · simp only [if_pos he]
      rw [Possible.store_exactly, Option.toList_some, Memory.replay_cons, Memory.replay_nil]
    · simp only [if_neg he, hb]
      rw [if_neg Bool.false_ne_true, Memory.replay_nil]

end

/-- An access runs to an end, succeeds exactly when libriscv grants it, and keeps its contract. -/
def Meets (policy : Policy τ) (self : Machine) (access : Access) (s : State τ) : Prop :=
  ∃ report after hidden, (access.perform self).run (library policy) s =
      (some report, after, hidden) ∧
    (report.error = none ↔ access.granted policy s.2) ∧ Contract access s.1 after report

section

variable (policy : Policy τ) (self : Machine) (s : State τ)

lemma reading_handler {op : MemOp} (hk : op.kind = .readOnly) :
    (Access.handler op).target = none ∧ (Access.handler op).amount = some op.length := by
  rw [Access.target, Access.amount, hk]
  exact ⟨rfl, rfl⟩

lemma writing_handler {op : MemOp} (hk : op.kind = .writable) :
    (Access.handler op).target = some (op.addr, op.host) ∧ (Access.handler op).source = none ∧
      (Access.handler op).amount = none := by
  rw [Access.target, Access.source, Access.amount, hk]
  exact ⟨rfl, if_neg fun h => (nomatch h.1), rfl⟩

lemma empty_handler_contract {op : MemOp} (h0 : op.length = 0) (mem : Memory 64 UInt8) :
    Contract (.handler op) mem mem ⟨none, op.host⟩ := by
  cases hk : op.kind with
  | readOnly =>
    obtain ⟨ht, hn⟩ := reading_handler hk
    have hs : (Access.handler op).source = none := if_neg fun h => h.2 h0
    have hh : op.host.length = op.length := by
      cases op with
      | read src dst => rfl
      | readPod T sized src => exact h0.symm
      | write | writePod => cases hk
    exact
      { writes := fun _ _ h _ => by rw [ht] at h; cases h
        reads := fun _ h _ => by rw [hs] at h; cases h
        whole := fun _ h _ => hh.trans (Option.some.inj (hn.symm.trans h))
        refused := fun h => absurd rfl h
        inside := fun _ _ h => by rw [ht] at h; cases h
        silent := fun _ => rfl }
  | writable =>
    obtain ⟨ht, hs, hn⟩ := writing_handler hk
    have hh : op.host = [] := List.length_eq_zero_iff.mp ((length_host op hk).trans h0)
    have hc := write_contract ht hs hn mem op.host
    rw [hh, Memory.store_nil] at hc
    rwa [hh]

lemma handler_contract (op : MemOp) :
    Contract (.handler op) s.1 (op.ideal policy.view s).2.1 (op.ideal policy.view s).1 := by
  by_cases h0 : op.length = 0
  · rw [ideal_zero policy.view s op h0]
    exact empty_handler_contract h0 s.1
  by_cases hl : op.length > u32Max
  · rw [ideal_long policy.view s op hl]
    exact refused_contract _ s.1 _
  by_cases hg : (policy.view op.kind op.addr op.length s.2).1 = true
  · cases hk : op.kind with
    | readOnly =>
      rw [ideal_read policy.view s op hk h0 hl hg]
      obtain ⟨ht, hn⟩ := reading_handler hk
      exact read_contract ht s.1 (if_pos ⟨hk, h0⟩) fun k h => Option.some.inj (h.symm.trans hn)
    | writable =>
      rw [ideal_write policy.view s op hk h0 hl hg]
      obtain ⟨ht, hs, hn⟩ := writing_handler hk
      exact write_contract ht hs hn s.1 op.host
  · rw [ideal_denied policy.view s op h0 hl hg]
    exact refused_contract _ s.1 _

lemma handler_meets (op : MemOp) : Meets policy self (.handler op) s :=
  ⟨_, _, _, handler_run ⟨self.ptr⟩ policy op s, (ideal_contract policy.view op s).succeeds,
    handler_contract policy s op⟩

section

variable {dst : Addr} {src : Bytes}

lemma copyToGuest_long (h : src.length > u32Max) :
    (self.copyToGuest dst src).run.run (library policy) s =
      (some (.error (.lengthTooLarge "libriscv_copy_to_guest" src.length)), s) := by
  rw [Lengths.copyToGuest_refused self dst h, Program.run_ret]

lemma copyToGuest_short (h : ¬ src.length > u32Max) :
    (self.copyToGuest dst src).run.run (library policy) s =
      (checkCode "libriscv_copy_to_guest"
        (policy.copy .writable dst src.length s.2).1.1).run.run (library policy)
        (if (policy.copy .writable dst src.length s.2).1.1 = 0 then s.1.store dst src
          else s.1.smear dst src (policy.copy .writable dst src.length s.2).1.2,
        (policy.copy .writable dst src.length s.2).2) := by
  have hr : (self.copyToGuest dst src).run = .call (.foreign (.copyToGuest self.ptr dst src
      (UInt32.ofNat src.length))) fun code => (checkCode "libriscv_copy_to_guest" code).run := by
    rw [Machine.copyToGuest, if_neg h]
    rfl
  rw [hr, Program.run_call]
  simp only [library, toNat_ofNat_short h, List.take_length]

lemma write_meets {access : Access} (hp : access.perform self =
      (self.copyToGuest dst src).run >>= fun result => .ret ⟨errorOf result, src⟩)
    (ht : access.target = some (dst, src)) (hs : access.source = none)
    (hn : access.amount = none) (hb : access.buffer = src)
    (hg : access.granted policy s.2 ↔
      src.length ≤ u32Max ∧ (policy.copy .writable dst src.length s.2).1.1 = 0) :
    Meets policy self access s := by
  rw [Meets, hp]
  by_cases hl : src.length > u32Max
  · refine ⟨_, _, _, Program.run_bind_some _ _ (copyToGuest_long policy self s hl), ?_,
      hb ▸ refused_contract access s.1 _⟩
    rw [hg]
    exact ⟨fun h => (nomatch h), fun h => by omega⟩
  have hrun := @copyToGuest_short τ policy self s dst src hl
  by_cases hc : (policy.copy .writable dst src.length s.2).1.1 = 0
  · rw [hc, checkCode_ok, if_pos rfl] at hrun
    refine ⟨_, _, _, Program.run_bind_some _ _ hrun, ?_, write_contract ht hs hn s.1 src⟩
    rw [hg]
    exact ⟨fun _ => ⟨by omega, hc⟩, fun _ => rfl⟩
  · obtain ⟨message, hm⟩ := checkCode_broke policy
      (s.1.smear dst src (policy.copy .writable dst src.length s.2).1.2,
        (policy.copy .writable dst src.length s.2).2) "libriscv_copy_to_guest" hc
    rw [if_neg hc, hm] at hrun
    refine ⟨_, _, _, Program.run_bind_some _ _ hrun, ?_, broken_write_contract ht s.1 _ src⟩
    rw [hg]
    exact ⟨fun h => (nomatch h), fun h => absurd h.2 hc⟩

end

section

variable {src : Addr} {dst : Bytes}

lemma copyFromGuest_long (h : dst.length > u32Max) :
    (self.copyFromGuest src dst).run (library policy) s =
      (some (.error (.lengthTooLarge "libriscv_copy_from_guest" dst.length), dst), s) := by
  rw [Lengths.copyFromGuest_refused self src h, Program.run_ret]

lemma copyFromGuest_ok (h : ¬ dst.length > u32Max)
    (hc : (policy.copy .readOnly src dst.length s.2).1.1 = 0) :
    (self.copyFromGuest src dst).run (library policy) s =
      (some (.ok (), s.1.load src dst.length), s.1,
        (policy.copy .readOnly src dst.length s.2).2) := by
  rw [Machine.copyFromGuest, if_neg h, call_bind, Program.run_call]
  simp only [library, toNat_ofNat_short h, hc, if_true, List.drop_length, List.append_nil,
    Program.run_bind, checkCode_ok]
  rfl

lemma copyFromGuest_broke (h : ¬ dst.length > u32Max)
    (hc : (policy.copy .readOnly src dst.length s.2).1.1 ≠ 0) : ∃ message buf,
    (self.copyFromGuest src dst).run (library policy) s =
      (some (.error (.library "libriscv_copy_from_guest"
        (policy.copy .readOnly src dst.length s.2).1.1 message), buf), s.1,
        (policy.copy .readOnly src dst.length s.2).2) := by
  obtain ⟨message, hm⟩ := checkCode_broke policy
    (s.1, (policy.copy .readOnly src dst.length s.2).2) "libriscv_copy_from_guest" hc
  refine ⟨message, blend dst (s.1.load src dst.length)
    (policy.copy .readOnly src dst.length s.2).1.2, ?_⟩
  rw [Machine.copyFromGuest, if_neg h, call_bind, Program.run_call]
  simp only [library, toNat_ofNat_short h, if_neg hc, Program.run_bind, hm]
  rfl

lemma copyFromGuest_meets : Meets policy self (.copyFromGuest src dst) s := by
  rw [Meets, Access.perform, Access.granted]
  by_cases hl : dst.length > u32Max
  · refine ⟨_, _, _, Program.run_bind_some _ _ (copyFromGuest_long policy self s hl), ?_,
      refused_contract (.copyFromGuest src dst) s.1 _⟩
    exact ⟨fun h => (nomatch h), fun h => by omega⟩
  by_cases hc : (policy.copy .readOnly src dst.length s.2).1.1 = 0
  · refine ⟨_, _, _, Program.run_bind_some _ _ (copyFromGuest_ok policy self s hl hc), ?_,
      read_contract rfl s.1 rfl fun k h => (Option.some.inj h).symm⟩
    exact ⟨fun _ => ⟨by omega, hc⟩, fun _ => rfl⟩
  · obtain ⟨message, buf, hrun⟩ := copyFromGuest_broke policy self s hl hc
    refine ⟨_, _, _, Program.run_bind_some _ _ hrun, ?_, broken_read_contract rfl s.1 buf⟩
    exact ⟨fun h => (nomatch h), fun h => absurd h.2 hc⟩

end

section

variable (src : Addr) (len : ℕ)

lemma readMemory_short (h : ¬ len > u32Max) : (self.readMemory src len).run =
    self.copyFromGuest src (List.replicate len 0) >>= fun answer =>
      .ret (answer.1.map fun _ => answer.2) := by
  rw [Machine.readMemory, if_neg h, ExceptT.run_bind, Fallible.run_lift, Program.bind_assoc]
  refine congrArg (_ >>= ·) (funext fun answer => ?_)
  rcases answer with ⟨result | result, buf⟩ <;> rfl

lemma readMemory_meets : Meets policy self (.readMemory src len) s := by
  rw [Meets, Access.perform, Access.granted]
  by_cases hl : len > u32Max
  · refine ⟨⟨some (.lengthTooLarge "read_memory" len), []⟩, s.1, s.2, ?_, ?_,
      refused_contract (.readMemory src len) s.1 _⟩
    · rw [Lengths.readMemory_refused self src hl]
      rfl
    · exact ⟨fun h => (nomatch h), fun h => by omega⟩
  rw [readMemory_short self src len hl, Program.bind_assoc]
  have hn : (List.replicate len (0 : UInt8)).length = len := List.length_replicate
  have hl' : ¬ (List.replicate len (0 : UInt8)).length > u32Max := by rwa [hn]
  by_cases hc : (policy.copy .readOnly src len s.2).1.1 = 0
  · have hrun := copyFromGuest_ok policy self s hl' (by rwa [hn])
    rw [hn] at hrun
    refine ⟨_, _, _, Program.run_bind_some _ _ hrun, ?_,
      read_contract rfl s.1 rfl fun k h => (Option.some.inj h).symm⟩
    exact ⟨fun _ => ⟨by omega, hc⟩, fun _ => rfl⟩
  · obtain ⟨message, buf, hrun⟩ := copyFromGuest_broke policy self s hl' (by rwa [hn])
    refine ⟨_, _, _, Program.run_bind_some _ _ hrun, ?_, broken_read_contract rfl s.1 []⟩
    exact ⟨fun h => (nomatch h), fun h => absurd h.2 hc⟩

end

section

variable {src : Addr}

lemma string_meets {access : Access} {maxlen : UInt32}
    (hp : access.perform self = .call (.foreign (.memstring self.ptr src maxlen)) fun answer =>
      answer.1.elim (.ret ⟨some (.nullPointer "libriscv_memstring"), []⟩) fun ptr =>
        .call (.load ⟨ptr, answer.2.toNat⟩) fun bytes => .ret ⟨none, bytes⟩)
    (ht : access.target = none) (hs : access.source = some src) (hn : access.amount = none)
    (hb : access.buffer = [])
    (hg : access.granted policy s.2 ↔ (policy.string src maxlen.toNat s.2).1.isSome = true) :
    Meets policy self access s := by
  rw [Meets, hp, hg, Program.run_call]
  cases hlen : (policy.string src maxlen.toNat s.2).1 with
  | none =>
    refine ⟨⟨some (.nullPointer "libriscv_memstring"), []⟩, s.1,
      (policy.string src maxlen.toNat s.2).2, ?_, ?_, ?_⟩
    · simp only [library, hlen]
      rfl
    · exact ⟨fun h => (nomatch h), fun h => (nomatch h)⟩
    · rw [← hb]
      exact refused_contract _ s.1 _
  | some n =>
    have ha : library policy (.foreign (.memstring self.ptr src maxlen)) s =
        ((some ⟨src, n.toNat⟩, n), s.1, (policy.string src maxlen.toNat s.2).2) := by
      simp only [library, hlen]
      rfl
    refine ⟨⟨none, s.1.load src n.toNat⟩, s.1, (policy.string src maxlen.toNat s.2).2, ?_, ?_, ?_⟩
    · rw [ha]
      rfl
    · exact ⟨fun _ => rfl, fun _ => rfl⟩
    · exact read_contract ht s.1 hs fun k hk => (nomatch hn.symm.trans hk)

lemma memstring_meets (maxlen : UInt32) : Meets policy self (.memstring src maxlen) s := by
  refine string_meets policy self s ?_ rfl rfl rfl rfl Iff.rfl
  refine congrArg (Program.call (I := native) _) (funext fun answer => ?_)
  rcases answer with ⟨ptr | ptr, length⟩ <;> rfl

lemma handlerMemstring_meets (maxlen : ℕ) :
    Meets policy self (.handlerMemstring src maxlen) s := by
  by_cases hl : maxlen > u32Max
  · refine ⟨⟨some (.lengthTooLarge "libriscv_memstring" maxlen), []⟩, s.1, s.2, ?_, ?_,
      refused_contract (.handlerMemstring src maxlen) s.1 _⟩
    · rw [Access.perform, ExceptT.run_bind, Lengths.memstring_refused ⟨self.ptr⟩ src hl]
      rfl
    · exact ⟨fun h => (by cases h), fun h => absurd h.1 (by omega)⟩
  have hg : (Access.handlerMemstring src maxlen).granted policy s.2 ↔
      (policy.string src (UInt32.ofNat maxlen).toNat s.2).1.isSome = true := by
    rw [toNat_ofNat_short hl]
    exact ⟨fun h => h.2, fun h => ⟨by omega, h⟩⟩
  refine string_meets policy self s ?_ rfl rfl rfl rfl hg
  rw [Access.perform, SyscallContext.memstring, if_neg hl]
  refine congrArg (Program.call (I := native) _) (funext fun answer => ?_)
  rcases answer with ⟨ptr | ptr, length⟩ <;> rfl

end

lemma meets (access : Access) : Meets policy self access s := by
  cases access with
  | handler op => exact handler_meets policy self s op
  | handlerMemstring src maxlen => exact handlerMemstring_meets policy self s maxlen
  | copyToGuest dst bytes | writeMemory dst bytes =>
    exact write_meets policy self s rfl rfl rfl rfl rfl Iff.rfl
  | copyFromGuest src dst => exact copyFromGuest_meets policy self s
  | readMemory src len => exact readMemory_meets policy self s src len
  | memstring src maxlen => exact memstring_meets policy self s maxlen

lemma play_possible (turns : List (Turn τ)) {p : Possible 64 UInt8} (hp : s.1.AllowedBy p) :
    ∃ reports t, play policy self turns s = (some reports, t) ∧
      t.1.AllowedBy (possibleAfter p turns reports) := by
  induction turns generalizing s p with
  | nil => exact ⟨[], s, rfl, hp⟩
  | cons turn turns ih =>
    cases turn with
    | guest dst bytes hidden => exact ih _ (Possible.allowed_store hp dst bytes)
    | access access =>
      obtain ⟨report, after, hidden, hrun, -, hc⟩ := meets policy self s access
      obtain ⟨reports, t, hr, ht⟩ := ih (after, hidden) (allowed_after hc hp)
      refine ⟨report :: reports, t, ?_, ht⟩
      simp only [play, hrun, hr, Option.map_some]

end

lemma possibleAfter_exact (turns : List (Turn τ)) (reports : List Report)
    (mem : Memory 64 UInt8) (hb : ∀ report ∈ reports, broke report = false) :
    possibleAfter (.exactly mem) turns reports =
      .exactly (mem.replay (writesOf turns reports)) := by
  induction turns generalizing reports mem with
  | nil => rfl
  | cons turn turns ih =>
    cases turn with
    | guest dst bytes hidden =>
      rw [possibleAfter, Possible.store_exactly, ih reports _ hb, writesOf, Memory.replay_cons]
    | access access =>
      cases reports with
      | nil => rfl
      | cons report reports =>
        rw [possibleAfter, exact_after mem (hb report List.mem_cons_self),
          ih reports _ fun r hr => hb r (List.mem_cons_of_mem _ hr), writesOf,
          Memory.replay_append]

/-- The host, the handlers and the guest share one memory: after any turns of theirs a cell holds
what was last written to it, or what a copy that libriscv failed may have left on its way; and the
next access succeeds exactly when it is granted, reads what is there, and changes nothing else. -/
theorem accesses_share_memory (policy : Policy τ) (self : Machine) (initial : Memory 64 UInt8)
    (hidden : τ) (earlier : List (Turn τ)) (access : Access) :
    ∃ reports s, play policy self earlier (initial, hidden) = (some reports, s) ∧
      s.1.AllowedBy (possibleAfter (.exactly initial) earlier reports) ∧
      ((∀ report ∈ reports, broke report = false) →
        s.1 = initial.replay (writesOf earlier reports)) ∧
      Meets policy self access s := by
  obtain ⟨reports, s, hr, hs⟩ := play_possible policy self (initial, hidden) earlier
    (@Possible.allowed_exactly 64 UInt8 initial)
  refine ⟨reports, s, hr, hs, fun hb => ?_, meets policy self s access⟩
  rw [possibleAfter_exact earlier reports initial hb] at hs
  exact funext hs

end Libriscv.SharedMemory

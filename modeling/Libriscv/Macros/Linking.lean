import Libriscv.Macros.Acceptance
import Libriscv.Macros.Expanding

/-! The generated `register` and `registry`, with their names resolved, and their runs. -/

namespace Libriscv.Macros

open Foundations

section

variable (build : Build) (defs : Definitions)

def callConstructor (handler : Ident) : Option SyscallHandler :=
  match defs.lookup handler.name with
  | some (.handlerConstructor trampoline) => some (.new ⟨build.home, trampoline.name⟩)
  | _ => none

def link : List Registration → Option (List (LitInt × SyscallHandler))
  | [] => some []
  | r :: rs => do
    -- a name without a definition in scope does not compile
    let handler ← callConstructor build defs r.handler
    let steps ← link rs
    some ((r.id, handler) :: steps)

def runRegister (ok : Captured) (builder : SyscallRegistryBuilder) :
    List (LitInt × SyscallHandler) → FfiResult Unit
  | [] => ok.unit
  | (id, handler) :: steps => do
    let num ← liftExcept (SyscallId.new (UInt32.ofNat id.value))
    builder.register num handler
    runRegister ok builder steps

def runRegistry (ok : Captured) (steps : List (LitInt × SyscallHandler)) :
    FfiResult SyscallRegistry := do
  let builder := SyscallRegistryBuilder.new
  runRegister ok builder steps
  ok.token builder.build

def registryProgram : Option (FfiResult SyscallRegistry) :=
  match defs.lookup "registry", defs.lookup "register" with
  | some (.function ⟨_, _, _, .registry⟩), some (.function ⟨_, _, _, .register registrations⟩) => do
    let ok ← resolveOk build defs
    let steps ← link build defs registrations
    some (runRegistry ok steps)
  | _, _ => none

def trampolinePtr (func : ItemFn) : FnPtr := ⟨build.home, (trampolineName .syscall func).name⟩

/-- The function that a trampoline of the module calls, by the names in the module. -/
def handlerOf (ptr : FnPtr) : Option ItemFn :=
  if ptr.home = build.home then
    match defs.lookup ptr.symbol with
    | some (.trampoline .syscall handler) =>
      match defs.lookup handler.name with
      | some (.function func) => some func
      | _ => none
    | _ => none
  else none

end

/-- What is left of a registry once the handlers are registered. -/
def Captured.finish (ok : Captured) : FfiResult SyscallRegistry := do
  ok.unit
  ok.token .empty

section running

variable {σ : Type} {H : Handler native σ} {table : σ → SyscallTable}

lemma runRegister_cons (ok : Captured) (builder : SyscallRegistryBuilder) {id : LitInt}
    (hid : id.value < 512) (handler : SyscallHandler) (steps : List (LitInt × SyscallHandler)) :
    ∃ num : SyscallId, num.get.toNat = id.value ∧
      runRegister ok builder ((id, handler) :: steps) =
        builder.register num handler >>= fun _ => runRegister ok builder steps := by
  have hn : (UInt32.ofNat id.value).toNat = id.value :=
    UInt32.toNat_ofNat_of_lt' (hid.trans (by decide))
  obtain ⟨num, hnum, hget⟩ := SyscallId.new_of_lt (hn.symm ▸ hid)
  refine ⟨num, by rw [hget, hn], ?_⟩
  rw [runRegister, hnum]
  rfl

lemma runRegister_run (hH : StoresHandlers H table) (ok : Captured)
    (builder : SyscallRegistryBuilder) {steps : List (LitInt × SyscallHandler)}
    (hs : ∀ p ∈ steps, p.1.value < 512) (s : σ) :
    ∃ s', (runRegister ok builder steps).run.run H s = ok.unit.run.run H s' ∧
      table s' = (steps.map fun p => (p.1.value, p.2.raw)).foldl
        (fun t write => Function.update t write.1 write.2) (table s) := by
  induction steps generalizing s with
  | nil => exact ⟨s, rfl, rfl⟩
  | cons p steps ih =>
    obtain ⟨id, handler⟩ := p
    obtain ⟨num, hget, hr⟩ := runRegister_cons ok builder (hs _ List.mem_cons_self) handler steps
    obtain ⟨s₁, hr₁, ht₁⟩ := register_stores hH builder num handler s
    obtain ⟨s₂, hr₂, ht₂⟩ := ih (fun p hp => hs p (List.mem_cons_of_mem _ hp)) s₁
    refine ⟨s₂, ?_, ?_⟩
    · rw [hr, ExceptT.run_bind, Program.run_bind_some H s hr₁]
      exact hr₂
    · rw [ht₂, ht₁, hget, List.map_cons, List.foldl_cons]

lemma runRegistry_run {s s' : σ} {ok : Captured} {steps : List (LitInt × SyscallHandler)}
    (h : (runRegister ok .new steps).run.run H s = ok.unit.run.run H s') :
    (runRegistry ok steps).run.run H s = ok.finish.run.run H s' := by
  rw [runRegistry, Captured.finish, ExceptT.run_bind, ExceptT.run_bind]
  exact Program.run_bind_congr H s h _

/-- A library that has nothing to do for the next registrations of what its table already has. -/
def unmoved (H : Handler native σ) (table : σ → SyscallTable) : Handler native (σ × ℕ)
  | .foreign (.setSyscallHandler num handler), (s, n + 1) =>
    if num.toNat < 512 ∧ table s num.toNat = handler then ((0 : Int32), (s, n))
    else
      let (answer, t) := H (.foreign (.setSyscallHandler num handler)) s
      (answer, (t, n + 1))
  | a, (s, n) =>
    let (answer, t) := H a s
    (answer, (t, n))

lemma unmoved_installed {s : σ} {n : ℕ} {num : UInt32} {handler : Option FnPtr}
    (hn : num.toNat < 512) (ht : table s num.toNat = handler) :
    unmoved H table (.foreign (.setSyscallHandler num handler)) (s, n + 1) =
      ((0 : Int32), (s, n)) := if_pos ⟨hn, ht⟩

lemma unmoved_stores (hH : StoresHandlers H table) :
    StoresHandlers (unmoved H table) fun s => table s.1 where
  accepts num handler s hn := by
    obtain ⟨s, n | n⟩ := s
    · exact hH.accepts num handler s hn
    · by_cases h : table s num.toNat = handler
      · rw [unmoved_installed hn h]
      · rw [unmoved, if_neg fun h' => h h'.2]
        exact hH.accepts num handler s hn
  stores num handler s hn := by
    obtain ⟨s, n | n⟩ := s
    · exact hH.stores num handler s hn
    · by_cases h : table s num.toNat = handler
      · rw [unmoved_installed hn h, ← h, Function.update_eq_self]
      · rw [unmoved, if_neg fun h' => h h'.2]
        exact hH.stores num handler s hn

lemma unmoved_run {α : Type} (p : Ffi α) (s : σ) :
    p.run (unmoved H table) (s, 0) = ((p.run H s).1, ((p.run H s).2, 0)) := by
  refine Program.run_map (f := fun s => (s, 0)) H s (fun op s => ?_) p
  cases op with
  | foreign c => cases c <;> rfl
  | load | store => rfl

lemma runRegister_unmoved (ok : Captured) (builder : SyscallRegistryBuilder)
    {steps : List (LitInt × SyscallHandler)} {s : σ}
    (hs : ∀ p ∈ steps, p.1.value < 512 ∧ table s p.1.value = p.2.raw) :
    (runRegister ok builder steps).run.run (unmoved H table) (s, steps.length) =
      ok.unit.run.run (unmoved H table) (s, 0) := by
  induction steps with
  | nil => rfl
  | cons p steps ih =>
    obtain ⟨id, handler⟩ := p
    obtain ⟨hid, ht⟩ := hs _ List.mem_cons_self
    obtain ⟨num, hget, hr⟩ := runRegister_cons ok builder hid handler steps
    have hreg : (builder.register num handler).run.run (unmoved H table) (s, steps.length + 1) =
        (some (.ok ()), (s, steps.length)) := by
      rw [SyscallRegistryBuilder.register, registerSyscallHandler, ExceptT.run_bind,
        Fallible.run_lift, call_bind, Program.call_bind, Program.run_call,
        unmoved_installed (hget ▸ hid) (hget ▸ ht)]
      rfl
    rw [hr, ExceptT.run_bind, List.length_cons, Program.run_bind_some _ _ hreg]
    exact ih fun p hp => hs p (List.mem_cons_of_mem _ hp)

end running

section linking

variable (build : Build) {defs : Definitions} {ms : List Marked} {lits : List LitInt}

def installed (m : Marked) (lit : LitInt) : ℕ × Option FnPtr :=
  (lit.value, some (trampolinePtr build m.1))

variable {build}

lemma link_eq (hf : List.Forall₂ (fun m lit => Asks m.2 lit) ms lits)
    (hd : ∀ m ∈ ms, callConstructor build defs (wrapperName m.1) =
      some (.new (trampolinePtr build m.1))) :
    ∃ steps, link build defs ((List.zipWith reading ms lits).map Prod.fst) = some steps ∧
      (steps.map fun p => (p.1.value, p.2.raw)) = List.zipWith (installed build) ms lits := by
  induction hf with
  | nil => exact ⟨[], rfl, rfl⟩
  | @cons m lit ms lits hl _ ih =>
    obtain ⟨steps, hs, hlog⟩ := ih fun m hm => hd m (List.mem_cons_of_mem _ hm)
    refine ⟨(.ofU32 (UInt32.ofNat lit.value) lit.span, .new (trampolinePtr build m.1)) :: steps, ?_, ?_⟩
    · rw [List.zipWith_cons_cons, List.map_cons, link, hs]
      simp only [reading, hd m List.mem_cons_self]
      rfl
    · rw [List.map_cons, hlog, LitInt.value_ofU32, UInt32.toNat_ofNat_of_lt' hl.fits]
      rfl

end linking

end Libriscv.Macros

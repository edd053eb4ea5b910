import Libriscv.Errors
import Libriscv.Foundations.LastWrite

/-! Syscall numbers, handlers, and the builder that installs them in libriscv's global table. -/

namespace Libriscv

open Foundations

structure SyscallId where
  index : UInt32
  valid : index < syscallsMax
  deriving DecidableEq, Repr

namespace SyscallId

def new (index : UInt32) : Except Error SyscallId :=
  if h : index < syscallsMax then .ok ⟨index, h⟩
  else .error (.invalidSyscallIndex index.toNat (syscallsMax - 1).toNat)

def tryFromU32 (value : UInt32) : Except Error SyscallId := new value

def tryFromUsize (value : ℕ) : Except Error SyscallId :=
  if value > u32Max then .error (.invalidSyscallIndex value (syscallsMax - 1).toNat)
  else new (UInt32.ofNat value)

def get (id : SyscallId) : UInt32 := id.index

lemma get_lt (id : SyscallId) : id.get.toNat < 512 := UInt32.lt_iff_toNat_lt.mp id.valid

lemma new_of_lt {index : UInt32} (h : index.toNat < 512) :
    ∃ id, new index = .ok id ∧ id.get = index := by
  have hi : index < syscallsMax := UInt32.lt_iff_toNat_lt.mpr h
  exact ⟨⟨index, hi⟩, by rw [new, dif_pos hi], rfl⟩

end SyscallId

structure SyscallHandler where
  raw : Option FnPtr
  deriving DecidableEq, Repr

def SyscallHandler.clear : SyscallHandler := ⟨none⟩

def SyscallHandler.new (handler : FnPtr) : SyscallHandler := ⟨some handler⟩

def registerSyscallHandler (num : SyscallId) (handler : SyscallHandler) : FfiResult Unit := do
  let code ← call (.setSyscallHandler num.get handler.raw)
  checkCode "libriscv_set_syscall_handler" code

structure SyscallRegistryBuilder where
  deriving DecidableEq, Repr

structure SyscallRegistry where
  deriving DecidableEq, Repr

def SyscallRegistryBuilder.new : SyscallRegistryBuilder := {}

def SyscallRegistryBuilder.register (_self : SyscallRegistryBuilder) (num : SyscallId)
    (handler : SyscallHandler) : FfiResult Unit :=
  registerSyscallHandler num handler

def SyscallRegistryBuilder.build (_self : SyscallRegistryBuilder) : SyscallRegistry := {}

def SyscallRegistry.empty : SyscallRegistry := {}

abbrev SyscallTable := ℕ → Option FnPtr

def tableLibrary : Handler native SyscallTable
  | .foreign (.setSyscallHandler num handler), t =>
    if num.toNat < 512 then (0, Function.update t num.toNat handler) else (-1, t)
  | .foreign _, t => (default, t)
  | .load _, t => ([], t)
  | .store .., t => ((), t)

/-- What libriscv does with a handler for a number in range: store it there, and return 0. -/
structure StoresHandlers {σ : Type} (H : Handler native σ) (table : σ → SyscallTable) : Prop where
  accepts : ∀ num handler s, num.toNat < 512 →
    (H (.foreign (.setSyscallHandler num handler)) s).1 = (0 : Int32)
  stores : ∀ num handler s, num.toNat < 512 →
    table (H (.foreign (.setSyscallHandler num handler)) s).2 =
      Function.update (table s) num.toNat handler

lemma tableLibrary_stores : StoresHandlers tableLibrary id where
  accepts _ _ _ h := congrArg Prod.fst (if_pos h)
  stores _ _ _ h := congrArg Prod.snd (if_pos h)

lemma register_stores {σ : Type} {H : Handler native σ} {table : σ → SyscallTable}
    (hH : StoresHandlers H table) (builder : SyscallRegistryBuilder) (num : SyscallId)
    (handler : SyscallHandler) (s : σ) : ∃ s', (builder.register num handler).run.run H s =
      (some (.ok ()), s') ∧ table s' = Function.update (table s) num.get.toNat handler.raw := by
  refine ⟨_, ?_, hH.stores _ _ s num.get_lt⟩
  rw [SyscallRegistryBuilder.register, registerSyscallHandler, ExceptT.run_bind,
    Fallible.run_lift, call_bind, Program.call_bind, Program.run_call, hH.accepts _ _ _ num.get_lt]
  rfl

lemma register_run (builder : SyscallRegistryBuilder) (num : SyscallId) (handler : SyscallHandler)
    (t : SyscallTable) : (builder.register num handler).run.run tableLibrary t =
      (some (.ok ()), Function.update t num.get.toNat handler.raw) := by
  obtain ⟨t', hr, ht⟩ := register_stores tableLibrary_stores builder num handler t
  exact hr.trans (congrArg (Prod.mk _) ht)

end Libriscv

import Libriscv.Errors
import Libriscv.Foundations.LastWrite
import Mathlib.Logic.Function.Basic

/-! The two register views, which write into the emulator's register file without a copy. -/

namespace Libriscv

open Foundations

abbrev F32 := BitVec 32

abbrev F64 := BitVec 64

/-- A union on a little-endian host. Floats are their bit patterns. -/
structure RISCVFloat where
  bits : BitVec 64
  deriving DecidableEq, Repr

namespace RISCVFloat

def f32 (self : RISCVFloat) : F32 := self.bits.extractLsb' 0 32

def f64 (self : RISCVFloat) : F64 := self.bits

def setF32 (self : RISCVFloat) (value : F32) : RISCVFloat :=
  -- only the first element of `f32_` is written; the upper half stays
  ⟨self.bits.extractLsb' 32 32 ++ value⟩

def setF64 (_self : RISCVFloat) (value : F64) : RISCVFloat := ⟨value⟩

end RISCVFloat

structure RISCVRegisters where
  r : Vector UInt64 32
  pc : UInt64
  fcsr : UInt32
  fr : Vector RISCVFloat 32
  deriving DecidableEq, Repr

/-- The register file behind each pointer that `libriscv_get_registers` may return. -/
abbrev RegisterFiles := Pointer → RISCVRegisters

section access

variable {α : Type} (ptr : Pointer) (index : ℕ) (files : RegisterFiles)

def checkIndex : Except Error (Fin 32) :=
  if h : index < 32 then .ok ⟨index, h⟩ else .error (.invalidRegisterIndex index 31)

def readIndexed (field : RISCVRegisters → Fin 32 → α) : Except Error α :=
  (checkIndex index).map (field (files ptr))

def writeField (store : RISCVRegisters → RISCVRegisters) : RegisterFiles :=
  Function.update files ptr (store (files ptr))

def writeIndexed (store : RISCVRegisters → Fin 32 → RISCVRegisters) :
    Except Error Unit × RegisterFiles :=
  match checkIndex index with
  | .error e => (.error e, files)
  | .ok i => (.ok (), writeField ptr files fun regs => store regs i)

end access

structure Registers where
  ptr : Pointer
  deriving DecidableEq, Repr

namespace Registers

variable (self : Registers) (files : RegisterFiles)

def x (index : ℕ) : Except Error UInt64 :=
  readIndexed self.ptr index files fun regs i => regs.r[i]

def setX (index : ℕ) (value : UInt64) : Except Error Unit × RegisterFiles :=
  writeIndexed self.ptr index files fun regs i => { regs with r := regs.r.set i value }

def pc : UInt64 := (files self.ptr).pc

def setPc (value : UInt64) : RegisterFiles :=
  writeField self.ptr files fun regs => { regs with pc := value }

def fcsr : UInt32 := (files self.ptr).fcsr

def setFcsr (value : UInt32) : RegisterFiles :=
  writeField self.ptr files fun regs => { regs with fcsr := value }

def f32 (index : ℕ) : Except Error F32 :=
  readIndexed self.ptr index files fun regs i => regs.fr[i].f32

def setF32 (index : ℕ) (value : F32) : Except Error Unit × RegisterFiles :=
  writeIndexed self.ptr index files fun regs i =>
    { regs with fr := regs.fr.set i (regs.fr[i].setF32 value) }

def f64 (index : ℕ) : Except Error F64 :=
  readIndexed self.ptr index files fun regs i => regs.fr[i].f64

def setF64 (index : ℕ) (value : F64) : Except Error Unit × RegisterFiles :=
  writeIndexed self.ptr index files fun regs i =>
    { regs with fr := regs.fr.set i (regs.fr[i].setF64 value) }

end Registers

structure SyscallRegisters where
  ptr : Pointer
  deriving DecidableEq, Repr

namespace SyscallRegisters

variable (self : SyscallRegisters) (files : RegisterFiles)

def x (index : ℕ) : Except Error UInt64 :=
  readIndexed self.ptr index files fun regs i => regs.r[i]

def setX (index : ℕ) (value : UInt64) : Except Error Unit × RegisterFiles :=
  writeIndexed self.ptr index files fun regs i => { regs with r := regs.r.set i value }

def pc : UInt64 := (files self.ptr).pc

def setPc (value : UInt64) : RegisterFiles :=
  writeField self.ptr files fun regs => { regs with pc := value }

def fcsr : UInt32 := (files self.ptr).fcsr

def setFcsr (value : UInt32) : RegisterFiles :=
  writeField self.ptr files fun regs => { regs with fcsr := value }

def f32 (index : ℕ) : Except Error F32 :=
  readIndexed self.ptr index files fun regs i => regs.fr[i].f32

def setF32 (index : ℕ) (value : F32) : Except Error Unit × RegisterFiles :=
  writeIndexed self.ptr index files fun regs i =>
    { regs with fr := regs.fr.set i (regs.fr[i].setF32 value) }

def f64 (index : ℕ) : Except Error F64 :=
  readIndexed self.ptr index files fun regs i => regs.fr[i].f64

def setF64 (index : ℕ) (value : F64) : Except Error Unit × RegisterFiles :=
  writeIndexed self.ptr index files fun regs i =>
    { regs with fr := regs.fr.set i (regs.fr[i].setF64 value) }

end SyscallRegisters

inductive RegisterView
  | registers (self : Registers)
  | syscallRegisters (self : SyscallRegisters)
  deriving DecidableEq, Repr

inductive RegisterWrite
  | setX (index : ℕ) (value : UInt64)
  | setPc (value : UInt64)
  | setFcsr (value : UInt32)
  | setF32 (index : ℕ) (value : F32)
  | setF64 (index : ℕ) (value : F64)
  deriving DecidableEq, Repr

namespace RegisterView

def ptr : RegisterView → Pointer
  | .registers self => self.ptr
  | .syscallRegisters self => self.ptr

def x (files : RegisterFiles) (index : ℕ) : RegisterView → Except Error UInt64
  | .registers self => self.x files index
  | .syscallRegisters self => self.x files index

def write (files : RegisterFiles) : RegisterView → RegisterWrite → Except Error Unit × RegisterFiles
  | .registers self, .setX index value => self.setX files index value
  | .registers self, .setPc value => (.ok (), self.setPc files value)
  | .registers self, .setFcsr value => (.ok (), self.setFcsr files value)
  | .registers self, .setF32 index value => self.setF32 files index value
  | .registers self, .setF64 index value => self.setF64 files index value
  | .syscallRegisters self, .setX index value => self.setX files index value
  | .syscallRegisters self, .setPc value => (.ok (), self.setPc files value)
  | .syscallRegisters self, .setFcsr value => (.ok (), self.setFcsr files value)
  | .syscallRegisters self, .setF32 index value => self.setF32 files index value
  | .syscallRegisters self, .setF64 index value => self.setF64 files index value

end RegisterView

section access

variable {ptr : Pointer} {index : ℕ} {files : RegisterFiles}

lemma writeIndexed_out {store : RISCVRegisters → Fin 32 → RISCVRegisters} (h : 32 ≤ index) :
    writeIndexed ptr index files store = (.error (.invalidRegisterIndex index 31), files) := by
  rw [writeIndexed, checkIndex, dif_neg (not_lt.mpr h)]

lemma writeIndexed_in {store : RISCVRegisters → Fin 32 → RISCVRegisters} (h : index < 32) :
    writeIndexed ptr index files store =
      (.ok (), writeField ptr files fun regs => store regs ⟨index, h⟩) := by
  rw [writeIndexed, checkIndex, dif_pos h]

lemma writeField_x0 {store : RISCVRegisters → RISCVRegisters}
    (h : ∀ regs, (store regs).r[0] = regs.r[0]) (p : Pointer) :
    (writeField ptr files store p).r[0] = (files p).r[0] := by
  rw [writeField]
  by_cases hp : p = ptr
  · rw [hp, Function.update_self, h]
  · rw [Function.update_of_ne hp]

lemma writeIndexed_x0 {store : RISCVRegisters → Fin 32 → RISCVRegisters}
    (h : ∀ regs i, i.val = index → (store regs i).r[0] = regs.r[0]) (p : Pointer) :
    ((writeIndexed ptr index files store).2 p).r[0] = (files p).r[0] := by
  by_cases hi : index < 32
  · rw [writeIndexed_in hi]
    exact writeField_x0 (fun regs => h regs _ rfl) p
  · rw [writeIndexed_out (not_lt.mp hi)]

end access

def RegisterWrite.index : RegisterWrite → Option ℕ
  | .setX index _ | .setF32 index _ | .setF64 index _ => some index
  | .setPc _ | .setFcsr _ => none

def RegisterWrite.toX0 : RegisterWrite → Option UInt64
  | .setX index value => if index = 0 then some value else none
  | .setPc _ | .setFcsr _ | .setF32 .. | .setF64 .. => none

namespace RegisterView

variable (view : RegisterView) (files : RegisterFiles)

lemma write_out {write : RegisterWrite} {index : ℕ} (hw : write.index = some index)
    (hi : 32 ≤ index) :
    view.write files write = (.error (.invalidRegisterIndex index 31), files) := by
  cases view <;> cases write with
  | setX _ value | setF32 _ value | setF64 _ value =>
    cases hw
    exact writeIndexed_out hi
  | setPc value | setFcsr value => cases hw

lemma write_setX (index : ℕ) (value : UInt64) : view.write files (.setX index value) =
    writeIndexed view.ptr index files fun regs i => { regs with r := regs.r.set i value } := by
  cases view <;> rfl

lemma write_x0 (write : RegisterWrite) (p : Pointer) : ((view.write files write).2 p).r[0] =
    (if view.ptr = p then write.toX0 else none).getD (files p).r[0] := by
  cases write with
  | setX index value =>
    rw [write_setX, RegisterWrite.toX0]
    by_cases hi : index = 0
    · subst hi
      rw [if_pos rfl, writeIndexed_in (by decide), writeField]
      by_cases hp : view.ptr = p
      · subst hp
        simp only [Function.update_self, if_true]
        exact Vector.getElem_set_self _
      · simp only [Function.update_of_ne (Ne.symm hp), if_neg hp, Option.getD_none]
    · rw [if_neg hi, ite_self, Option.getD_none]
      refine writeIndexed_x0 (fun regs i he => ?_) p
      exact Vector.getElem_set_ne i.isLt (by decide) (he ▸ hi)
  | setPc value | setFcsr value =>
    rw [RegisterWrite.toX0, ite_self, Option.getD_none]
    cases view
    all_goals
      refine writeField_x0 (fun regs => ?_) p
      rfl
  | setF32 index value | setF64 index value =>
    rw [RegisterWrite.toX0, ite_self, Option.getD_none]
    cases view
    all_goals
      refine writeIndexed_x0 (fun regs i _ => ?_) p
      rfl

lemma x_zero (p : Pointer) (hp : view.ptr = p) : view.x files 0 = .ok (files p).r[0] := by
  subst hp
  cases view <;> rfl

end RegisterView

abbrev RegisterCall := RegisterView × RegisterWrite

namespace RegisterCall

def perform (files : RegisterFiles) (c : RegisterCall) : Except Error Unit × RegisterFiles :=
  c.1.write files c.2

def toX0 (p : Pointer) (c : RegisterCall) : Option UInt64 :=
  if c.1.ptr = p then c.2.toX0 else none

def run (files : RegisterFiles) (calls : List RegisterCall) : RegisterFiles :=
  calls.foldl (fun files c => (c.perform files).2) files

lemma run_x0 (files : RegisterFiles) (p : Pointer) (calls : List RegisterCall) :
    (run files calls p).r[0] = (lastSome (toX0 p) calls).getD (files p).r[0] :=
  foldl_field (fun files : RegisterFiles => (files p).r[0])
    (fun files c => c.1.write_x0 files c.2 p) files calls

/-- x0 is a register like any other: it keeps what was last written to it. An index out of range is
refused by every writer, and nothing changes. -/
theorem x0_reads_last_write {files : RegisterFiles} {p : Pointer} (h : (files p).r[0] = 0)
    (calls : List RegisterCall) :
    (run files calls p).r[0] = (lastSome (toX0 p) calls).getD 0 ∧
      (∀ view : RegisterView, view.ptr = p →
        view.x (run files calls) 0 = .ok ((lastSome (toX0 p) calls).getD 0)) ∧
      ∀ (now : RegisterFiles) (c : RegisterCall) (index : ℕ), c.2.index = some index → 32 ≤ index →
        c.perform now = (.error (.invalidRegisterIndex index 31), now) := by
  have hx := run_x0 files p calls
  rw [h] at hx
  refine ⟨hx, fun view hp => ?_, fun now c index hw hi => c.1.write_out now hw hi⟩
  rw [view.x_zero _ p hp, hx]

def zeroed : RegisterFiles := fun _ => ⟨Vector.replicate 32 0, 0, 0, Vector.replicate 32 ⟨0⟩⟩

theorem mixed_writes_keep_x0 : (run zeroed [(.registers ⟨⟨0, 0⟩⟩, .setX 10 7),
      (.syscallRegisters ⟨⟨0, 0⟩⟩, .setPc 4096), (.syscallRegisters ⟨⟨0, 0⟩⟩, .setX 32 1),
      (.registers ⟨⟨0, 0⟩⟩, .setF32 0 1)] ⟨0, 0⟩).r[0] = 0 :=
  (@x0_reads_last_write zeroed _ rfl _).1

theorem x0_can_be_written : (zeroed ⟨0, 0⟩).r[0] = 0 ∧
    (run zeroed [(.registers ⟨⟨0, 0⟩⟩, .setX 0 1)] ⟨0, 0⟩).r[0] = 1 ∧
    (RegisterView.registers ⟨⟨0, 0⟩⟩).x (run zeroed [(.registers ⟨⟨0, 0⟩⟩, .setX 0 1)]) 0 = .ok 1 :=
  ⟨rfl, rfl, rfl⟩

end RegisterCall

end Libriscv

import Libriscv.Machines.Registers

/-! The register views as one store: every reader finds what was last written, through any view. -/

namespace Libriscv

open Foundations

namespace RISCVFloat

def high (self : RISCVFloat) : BitVec 32 := self.bits.extractLsb' 32 32

lemma f64_eq (self : RISCVFloat) : self.f64 = self.high ++ self.f32 :=
  (@BitVec.extractLsb'_append_extractLsb' 32 32 self.bits).symm

@[simp] lemma f32_setF32 (self : RISCVFloat) (value : F32) : (self.setF32 value).f32 = value :=
  BitVec.extractLsb'_append_eq_right

@[simp] lemma high_setF32 (self : RISCVFloat) (value : F32) : (self.setF32 value).high = self.high :=
  BitVec.extractLsb'_append_eq_left

end RISCVFloat

namespace RegisterView

def pc (files : RegisterFiles) : RegisterView → UInt64
  | .registers self => self.pc files
  | .syscallRegisters self => self.pc files

def fcsr (files : RegisterFiles) : RegisterView → UInt32
  | .registers self => self.fcsr files
  | .syscallRegisters self => self.fcsr files

def f32 (files : RegisterFiles) (index : ℕ) : RegisterView → Except Error F32
  | .registers self => self.f32 files index
  | .syscallRegisters self => self.f32 files index

def f64 (files : RegisterFiles) (index : ℕ) : RegisterView → Except Error F64
  | .registers self => self.f64 files index
  | .syscallRegisters self => self.f64 files index

end RegisterView

section vectors

variable {α : Type} (v : Vector α 32) (index : ℕ) (f : α → α)

def setAt : Vector α 32 := if h : index < 32 then v.set index (f v[index]) else v

lemma get_setAt (i : Fin 32) :
    (setAt v index f).get i = if index = i then f (v.get i) else v.get i := by
  rw [setAt]
  split
  · next h =>
    change (v.set index (f v[index]))[i.val] = _
    rw [Vector.getElem_set]
    split
    · next he =>
      subst he
      rfl
    · rfl
  · next h =>
    rw [if_neg]
    rintro rfl
    exact h i.isLt

end vectors

namespace RegisterWrite

def apply (regs : RISCVRegisters) : RegisterWrite → RISCVRegisters
  | .setX index value => { regs with r := setAt regs.r index fun _ => value }
  | .setPc value => { regs with pc := value }
  | .setFcsr value => { regs with fcsr := value }
  | .setF32 index value => { regs with fr := setAt regs.fr index fun float => float.setF32 value }
  | .setF64 index value => { regs with fr := setAt regs.fr index fun float => float.setF64 value }

def toX (i : Fin 32) : RegisterWrite → Option UInt64
  | .setX index value => if index = i then some value else none
  | .setPc _ | .setFcsr _ | .setF32 .. | .setF64 .. => none

def toPc : RegisterWrite → Option UInt64
  | .setPc value => some value
  | .setX .. | .setFcsr _ | .setF32 .. | .setF64 .. => none

def toFcsr : RegisterWrite → Option UInt32
  | .setFcsr value => some value
  | .setX .. | .setPc _ | .setF32 .. | .setF64 .. => none

-- both writers reach the lower half of a float register, and only `set_f64` the upper half
def toLow (i : Fin 32) : RegisterWrite → Option F32
  | .setF32 index value => if index = i then some value else none
  | .setF64 index value => if index = i then some (value.extractLsb' 0 32) else none
  | .setX .. | .setPc _ | .setFcsr _ => none

def toHigh (i : Fin 32) : RegisterWrite → Option (BitVec 32)
  | .setF64 index value => if index = i then some (value.extractLsb' 32 32) else none
  | .setX .. | .setPc _ | .setFcsr _ | .setF32 .. => none

section apply

variable (write : RegisterWrite) (regs : RISCVRegisters) (i : Fin 32)

lemma apply_x : (write.apply regs).r.get i = (write.toX i).getD (regs.r.get i) := by
  cases write with
  | setX index value =>
    simp only [apply, toX, get_setAt]
    split <;> rfl
  | setPc | setFcsr | setF32 | setF64 => rfl

lemma apply_pc : (write.apply regs).pc = write.toPc.getD regs.pc := by cases write <;> rfl

lemma apply_fcsr : (write.apply regs).fcsr = write.toFcsr.getD regs.fcsr := by cases write <;> rfl

lemma apply_low : ((write.apply regs).fr.get i).f32 = (write.toLow i).getD (regs.fr.get i).f32 := by
  cases write with
  | setX | setPc | setFcsr => rfl
  | setF32 index value =>
    simp only [apply, toLow, get_setAt]
    split
    · exact RISCVFloat.f32_setF32 _ value
    · rfl
  | setF64 index value =>
    simp only [apply, toLow, get_setAt]
    split <;> rfl

lemma apply_high : ((write.apply regs).fr.get i).high = (write.toHigh i).getD (regs.fr.get i).high := by
  cases write with
  | setX | setPc | setFcsr => rfl
  | setF32 index value =>
    simp only [apply, toHigh, get_setAt]
    split
    · exact RISCVFloat.high_setF32 _ value
    · rfl
  | setF64 index value =>
    simp only [apply, toHigh, get_setAt]
    split <;> rfl

end apply

end RegisterWrite

lemma writeIndexed_setAt {store : RISCVRegisters → Fin 32 → RISCVRegisters}
    {whole : RISCVRegisters → RISCVRegisters} {ptr : Pointer} {index : ℕ} {files : RegisterFiles}
    (hin : ∀ regs (h : index < 32), store regs ⟨index, h⟩ = whole regs)
    (hout : ∀ regs, 32 ≤ index → whole regs = regs) :
    (writeIndexed ptr index files store).2 = writeField ptr files whole := by
  by_cases h : index < 32
  · rw [writeIndexed_in h]
    exact congrArg (writeField ptr files) (funext fun regs => hin regs h)
  · rw [writeIndexed_out (not_lt.mp h), writeField, hout _ (not_lt.mp h), Function.update_eq_self]

lemma setAt_in {α : Type} (v : Vector α 32) {index : ℕ} (h : index < 32) (f : α → α) :
    setAt v index f = v.set index (f v[index]) := dif_pos h

lemma setAt_out {α : Type} (v : Vector α 32) {index : ℕ} (h : 32 ≤ index) (f : α → α) :
    setAt v index f = v := dif_neg (not_lt.mpr h)

namespace RegisterView

variable (view : RegisterView) (files : RegisterFiles)

lemma write_eq (write : RegisterWrite) :
    (view.write files write).2 = writeField view.ptr files write.apply := by
  cases write with
  | setPc value | setFcsr value => cases view <;> rfl
  | setX index value =>
    rw [write_setX]
    refine writeIndexed_setAt (fun regs h => ?_) fun regs h => ?_
    · simp only [RegisterWrite.apply, setAt_in _ h]
    · simp only [RegisterWrite.apply, setAt_out _ h]
  | setF32 index value | setF64 index value =>
    cases view
    all_goals
      refine writeIndexed_setAt (fun regs h => ?_) fun regs h => ?_
      · simp only [RegisterWrite.apply, setAt_in _ h]
        rfl
      · simp only [RegisterWrite.apply, setAt_out _ h]

lemma write_accepted (write : RegisterWrite) : (view.write files write).1 = .ok () ↔
    ∀ index, write.index = some index → index < 32 := by
  refine ⟨fun h index hw => ?_, fun h => ?_⟩
  · by_contra hn
    rw [view.write_out files hw (not_lt.mp hn)] at h
    cases h
  · cases view <;> cases write with
    | setX index value | setF32 index value | setF64 index value =>
      exact congrArg Prod.fst (writeIndexed_in (h index rfl))
    | setPc value | setFcsr value => rfl

lemma x_eq (index : ℕ) : view.x files index =
    readIndexed view.ptr index files fun regs i => regs.r.get i := by cases view <;> rfl

lemma f32_eq (index : ℕ) : view.f32 files index =
    readIndexed view.ptr index files fun regs i => (regs.fr.get i).f32 := by cases view <;> rfl

lemma f64_eq (index : ℕ) : view.f64 files index =
    readIndexed view.ptr index files fun regs i => (regs.fr.get i).f64 := by cases view <;> rfl

lemma read_in {α : Type} {ptr : Pointer} (field : RISCVRegisters → Fin 32 → α) (i : Fin 32) :
    readIndexed ptr i files field = .ok (field (files ptr) i) := by
  rw [readIndexed, checkIndex, dif_pos i.isLt]
  rfl

lemma read_out {α : Type} {ptr : Pointer} (field : RISCVRegisters → Fin 32 → α) {index : ℕ}
    (h : 32 ≤ index) :
    readIndexed ptr index files field = .error (.invalidRegisterIndex index 31) := by
  rw [readIndexed, checkIndex, dif_neg (not_lt.mpr h)]
  rfl

end RegisterView

namespace RegisterCall

def toFile {α : Type} (p : Pointer) (f : RegisterWrite → Option α) (c : RegisterCall) : Option α :=
  if c.1.ptr = p then f c.2 else none

lemma run_field {α : Type} {field : RISCVRegisters → α} {f : RegisterWrite → Option α}
    (h : ∀ write regs, field (write.apply regs) = (f write).getD (field regs)) (files : RegisterFiles)
    (p : Pointer) (calls : List RegisterCall) :
    field (run files calls p) = (lastSome (toFile p f) calls).getD (field (files p)) := by
  refine foldl_field (fun files : RegisterFiles => field (files p)) (fun files c => ?_) files calls
  rw [perform, c.1.write_eq, writeField, toFile]
  by_cases hp : c.1.ptr = p
  · subst hp
    rw [Function.update_self, if_pos rfl, h]
  · rw [Function.update_of_ne (Ne.symm hp), if_neg hp, Option.getD_none]

/-- What a view reads after some calls is what the calls last wrote to its file, through whatever
view, and the file's own value where they wrote nothing. -/
structure ReadsLast (files : RegisterFiles) (calls : List RegisterCall) (view : RegisterView) :
    Prop where
  x : ∀ i : Fin 32, view.x (run files calls) i =
    .ok ((lastSome (toFile view.ptr (RegisterWrite.toX i)) calls).getD ((files view.ptr).r.get i))
  pc : view.pc (run files calls) =
    (lastSome (toFile view.ptr RegisterWrite.toPc) calls).getD (files view.ptr).pc
  fcsr : view.fcsr (run files calls) =
    (lastSome (toFile view.ptr RegisterWrite.toFcsr) calls).getD (files view.ptr).fcsr
  f32 : ∀ i : Fin 32, view.f32 (run files calls) i =
    .ok ((lastSome (toFile view.ptr (RegisterWrite.toLow i)) calls).getD ((files view.ptr).fr.get i).f32)
  f64 : ∀ i : Fin 32, view.f64 (run files calls) i = .ok
    ((lastSome (toFile view.ptr (RegisterWrite.toHigh i)) calls).getD ((files view.ptr).fr.get i).high ++
      (lastSome (toFile view.ptr (RegisterWrite.toLow i)) calls).getD ((files view.ptr).fr.get i).f32)
  refused : ∀ index, 32 ≤ index →
    view.x (run files calls) index = .error (.invalidRegisterIndex index 31) ∧
    view.f32 (run files calls) index = .error (.invalidRegisterIndex index 31) ∧
    view.f64 (run files calls) index = .error (.invalidRegisterIndex index 31)

/-- The two kinds of views over all register files are one store, whatever is written in whatever
order; a write is accepted exactly when its index is in range. -/
theorem registers_read_last_write (files : RegisterFiles) (calls : List RegisterCall) :
    (∀ view, ReadsLast files calls view) ∧
      ∀ c : RegisterCall, (c.perform (run files calls)).1 = .ok () ↔
        ∀ index, c.2.index = some index → index < 32 := by
  refine ⟨fun view => ?_, fun c => c.1.write_accepted _ c.2⟩
  have hlow (i : Fin 32) := @run_field _ (fun regs => (regs.fr.get i).f32) (RegisterWrite.toLow i)
    (fun write regs => write.apply_low regs i) files view.ptr calls
  have hhigh (i : Fin 32) := @run_field _ (fun regs => (regs.fr.get i).high) (RegisterWrite.toHigh i)
    (fun write regs => write.apply_high regs i) files view.ptr calls
  constructor
  case x =>
    intro i
    rw [← @run_field _ (fun regs => regs.r.get i) (RegisterWrite.toX i)
      (fun write regs => write.apply_x regs i), view.x_eq, RegisterView.read_in]
  case pc =>
    rw [← run_field RegisterWrite.apply_pc]
    cases view <;> rfl
  case fcsr =>
    rw [← run_field RegisterWrite.apply_fcsr]
    cases view <;> rfl
  case f32 =>
    intro i
    rw [← hlow, view.f32_eq, RegisterView.read_in]
  case f64 =>
    intro i
    rw [← hlow, ← hhigh, ← RISCVFloat.f64_eq, view.f64_eq, RegisterView.read_in]
  case refused =>
    intro index h
    rw [view.x_eq, view.f32_eq, view.f64_eq]
    exact ⟨RegisterView.read_out _ _ h, RegisterView.read_out _ _ h, RegisterView.read_out _ _ h⟩

end RegisterCall

end Libriscv

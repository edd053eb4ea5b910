import Libriscv.Bindings

/-! The wrapper's error type and the translation of C results into it. -/

namespace Libriscv

open Foundations

structure NulError where
  nulPosition : ℕ
  bytes : Bytes
  deriving DecidableEq, Repr

inductive Error
  | argsTooLarge (len : ℕ)
  | elfTooLarge (len : ℕ)
  | invalidRegisterIndex (index max : ℕ)
  | invalidSyscallIndex (index max : ℕ)
  | lengthTooLarge (op : String) (len : ℕ)
  | unalignedPageRange (destination size : BitVec 64)
  | library (op : String) (code : Int32) (message : Option String)
  | nonUtf8Path
  | nullPointer (op : String)
  | nulError (err : NulError)
  deriving DecidableEq, Repr

abbrev FfiResult (α : Type) := Fallible native Error α

def toStr (bytes : Bytes) : Option String := String.fromUTF8? ⟨bytes.toArray⟩

def errorMessage (code : Int32) : Ffi (Option String) :=
  if code ≥ 0 then pure none
  else do
    let ptr ← call (.strerror code)
    pure (ptr.bind toStr)

def checkCode (op : String) (code : Int32) : FfiResult Unit :=
  if code = 0 then pure ()
  else do
    let message ← errorMessage code
    throw (.library op code message)

def nonNull {α : Type} (op : String) : Option α → FfiResult α
  | some ptr => pure ptr
  | none => throw (.nullPointer op)

@[simp] lemma nonNull_some {α : Type} (op : String) (ptr : α) :
    nonNull op (some ptr) = pure ptr := rfl

@[simp] lemma nonNull_none {α : Type} (op : String) :
    (nonNull op none : FfiResult α) = throw (.nullPointer op) := rfl

@[simp] lemma checkCode_zero (op : String) : checkCode op 0 = pure () := rfl

section

variable {σ : Type} (H : Handler native σ) (s : σ)

lemma checkCode_fails (op : String) {code : Int32} (h : code ≠ 0) :
    ∃ message t, (checkCode op code).run.run H s = (some (.error (.library op code message)), t) := by
  rw [checkCode, if_neg h, errorMessage]
  split
  · exact ⟨none, s, rfl⟩
  · exact ⟨_, _, rfl⟩

end

lemma checkCode_always {P : Action → Prop} (op : String) (code : Int32)
    (hP : P (.foreign (.strerror code))) : (checkCode op code).run.Always P fun _ => True := by
  rw [checkCode, errorMessage]
  split
  · trivial
  · split
    · trivial
    · exact ⟨hP, fun _ => trivial⟩

end Libriscv

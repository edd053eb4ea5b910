import Mathlib.Algebra.Group.Nat.Defs
import Mathlib.Data.List.ReduceOption

/-! The syntax that the attribute macros read and write. -/

namespace Libriscv.Macros

inductive Span
  | callSite
  | source (lo hi : ℕ)
  deriving DecidableEq, Repr

structure SynError where
  span : Span
  message : String
  deriving DecidableEq, Repr

structure Ident where
  raw : Bool
  name : String
  deriving DecidableEq, Repr

def Ident.is (ident : Ident) (s : String) : Bool := !ident.raw && ident.name == s

def formatIdent (start : String) (ident : Ident) (tail : String) : Ident :=
  -- `format_ident!` leaves the `r#` of its argument out
  ⟨false, start ++ ident.name ++ tail⟩

structure Lifetime where
  name : String
  deriving DecidableEq, Repr

mutual

inductive Ty
  | path (qself : Option String) (path : Path)
  | reference (lifetime : Option Lifetime) (mutability : Bool) (elem : Ty)
  | other (tokens : String)

inductive Path
  | mk (leadingColon : Bool) (segments : List PathSegment)

inductive PathSegment
  | mk (ident : Ident) (arguments : PathArguments)

inductive PathArguments
  | none
  | angleBracketed (args : List GenericArgument)
  | parenthesized

inductive GenericArgument
  | lifetime (lifetime : Lifetime)
  | type (ty : Ty)
  | other (tokens : String)

end

namespace PathSegment

def ident : PathSegment → Ident
  | mk ident _ => ident

def arguments : PathSegment → PathArguments
  | mk _ arguments => arguments

end PathSegment

namespace Path

def segments : Path → List PathSegment
  | mk _ segments => segments

def ofIdent (name : String) : Path := mk false [.mk ⟨false, name⟩ .none]

def isIdent (name : String) : Path → Bool
  | mk false [.mk ident .none] => ident.is name
  | _ => false

lemma isIdent_iff {name : String} {path : Path} : path.isIdent name = true ↔ path = ofIdent name := by
  simp only [isIdent, ofIdent]
  split
  · next ident =>
    rcases ident with ⟨raw, name'⟩
    simp [Ident.is]
  · next h =>
    simp only [Bool.false_eq_true, false_iff]
    intro he
    exact h _ he

end Path

inductive Radix
  | binary
  | octal
  | decimal
  | hexadecimal
  deriving DecidableEq, Repr

def Radix.base : Radix → ℕ
  | .binary => 2
  | .octal => 8
  | .decimal => 10
  | .hexadecimal => 16

structure LitInt where
  negative : Bool
  radix : Radix
  -- `none` is an underscore between the digits
  digits : List (Option (Fin radix.base))
  suffix : String
  span : Span
  deriving DecidableEq, Repr

namespace LitInt

def ofDigits {base : ℕ} (digits : List (Fin base)) : ℕ :=
  digits.foldl (fun n d => n * base + d.val) 0

def value (lit : LitInt) : ℕ := ofDigits lit.digits.reduceOption

def base10Parse (lit : LitInt) : Except SynError UInt32 :=
  if lit.negative then .error ⟨lit.span, "invalid digit found in string"⟩
  else if lit.value < 2 ^ 32 then .ok (UInt32.ofNat lit.value)
  else .error ⟨lit.span, "number too large to fit in target type"⟩

def decimalDigits : ℕ → ℕ → List (Fin 10)
  | 0, _ => []
  | length + 1, n =>
    if n < 10 then [Fin.ofNat 10 n] else decimalDigits length (n / 10) ++ [Fin.ofNat 10 n]

def ofU32 (value : UInt32) (span : Span) : LitInt where
  negative := false
  radix := .decimal
  digits := (decimalDigits 10 value.toNat).map some
  suffix := ""
  span

lemma ofDigits_decimalDigits {length n : ℕ} (h : n < 10 ^ length) :
    ofDigits (decimalDigits length n) = n := by
  induction length generalizing n with
  | zero =>
    rw [Nat.pow_zero, Nat.lt_one_iff] at h
    exact h.symm
  | succ length ih =>
    simp only [decimalDigits]
    split
    · next hn => exact (Nat.zero_add _).trans (Nat.mod_eq_of_lt hn)
    · have hl : n / 10 < 10 ^ length := Nat.div_lt_of_lt_mul (by rwa [Nat.pow_succ'] at h)
      have hd := ih hl
      rw [ofDigits] at hd
      rw [ofDigits, List.foldl_concat, hd, Fin.val_ofNat]
      omega

lemma value_ofU32 (value : UInt32) (span : Span) : (ofU32 value span).value = value.toNat := by
  have h := value.toNat_lt
  have hs : (ofU32 value span).digits.reduceOption = decimalDigits 10 value.toNat := by
    change ((decimalDigits 10 value.toNat).map some).filterMap id = _
    rw [List.filterMap_map]
    exact List.filterMap_some
  rw [LitInt.value, hs]
  exact ofDigits_decimalDigits (by omega)

lemma base10Parse_ofU32 (value : UInt32) (span : Span) :
    (ofU32 value span).base10Parse = .ok value := by
  rw [base10Parse, if_neg (by simp [ofU32]), value_ofU32, if_pos value.toNat_lt, UInt32.ofNat_toNat]

lemma base10Parse_eq_ok {lit : LitInt} {value : UInt32} :
    lit.base10Parse = .ok value ↔ lit.negative = false ∧ lit.value = value.toNat := by
  unfold base10Parse
  split
  · next h => simp [h]
  · next h =>
    rw [Bool.not_eq_true] at h
    split
    · next hv =>
      rw [Except.ok.injEq, ← UInt32.toNat_inj, UInt32.toNat_ofNat_of_lt' hv]
      simp [h]
    · next hv =>
      have := value.toNat_lt
      refine ⟨?_, ?_⟩
      · exact fun he => nomatch he
      · rintro ⟨_, he⟩
        omega

end LitInt

inductive Lit
  | int (lit : LitInt)
  | other (span : Span)
  deriving DecidableEq, Repr

inductive Expr
  | lit (lit : Lit)
  | other (span : Span)
  deriving DecidableEq, Repr

inductive Meta
  | path (path : Path) (span : Span)
  | list (path : Path) (span : Span)
  | nameValue (path : Path) (pathSpan : Span) (value : Expr) (span : Span)

end Libriscv.Macros

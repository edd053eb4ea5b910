import Libriscv.Foundations.LastWrite
import Libriscv.Macros.Acceptance
import Libriscv.Macros.Compiler

/-! The registry under a build configuration: when it registers what the compiler expands. -/

namespace Libriscv.Macros

open Foundations

section

variable (build : Build)

def survives : Item → Bool
  | .fn func => build.enabled func.attrs
  | .other attrs _ _ => build.enabled attrs
  | .mod .. | .impl _ => true

def registerBody : Item → Option (List Registration)
  | .fn ⟨_, _, _, .register registrations⟩ => some registrations
  | _ => none

def pairs (registrations : List Registration) : List (ℕ × Ident) :=
  registrations.map fun r => (r.id.value, r.handler)

def registeredPairs (out : ItemMod) : List (ℕ × Ident) :=
  pairs ((lastSome registerBody ((out.content.getD []).filter (survives build))).getD [])

def Agree : Except SynError ItemMod → Except SynError (List (Registration × UInt32)) → Prop
  | .ok out, .ok rs => ∀ p, p ∈ registeredPairs build out ↔ p ∈ pairs (rs.map Prod.fst)
  | .error e, .error e' => e = e'
  | _, _ => False

/-- The macro registers the pairs of the functions that are expanded; where the number of one of
these cannot be read, or is there twice, it reports just that error. -/
def Commutes (ident : Ident) (items : List Item) (span : Span) : Prop :=
  Agree build (syscallRegistry true ⟨ident, some items, span⟩) (scanMarked [] (expanded build items))

/-- Only the registry macro sees the attribute: the function is disabled, or the name `syscall`
stands for another macro. -/
def Stray (m : Marked) : Prop := build.enabled m.1.attrs = false ∨ build.expands m.2 = false

end

/-- Only the compiler sees the attribute: its function comes out of a macro, or the attribute comes
out of a `cfg_attr` or is spelled differently. -/
def Hidden (items : List Item) (m : Marked) : Prop :=
  Item.fn m.1 ∉ items ∨ m.2 ∉ m.1.attrs ∨ m.2.isSyscall = false

def PairOf (m : Marked) (p : ℕ × Ident) : Prop :=
  ∃ lit, Asks m.2 lit ∧ p = (lit.value, wrapperName m.1)

def Matched (m : Marked) (ms : List Marked) : Prop := ∃ m' ∈ ms, ∃ p, PairOf m p ∧ PairOf m' p

lemma PairOf.unique {m : Marked} {p q : ℕ × Ident} (hp : PairOf m p) (hq : PairOf m q) : p = q := by
  obtain ⟨lit, hl, rfl⟩ := hp
  obtain ⟨lit', hl', rfl⟩ := hq
  rw [hl.unique hl']

section

variable {build : Build} {items : List Item} {ms : List Marked}

lemma mem_pairs {rs : List (Registration × UInt32)} (h : scanMarked [] ms = .ok rs)
    (p : ℕ × Ident) : p ∈ pairs (rs.map Prod.fst) ↔ ∃ m ∈ ms, PairOf m p := by
  obtain ⟨lits, hf, hn, rfl⟩ := scanMarked_eq_ok.mp h
  clear h hn
  induction hf with
  | nil => simp [pairs]
  | @cons m lit _ _ hl _ ih =>
    have hp : PairOf m p ↔ p = (lit.value, wrapperName m.1) := by
      refine ⟨?_, ?_⟩
      · exact fun hp => hp.unique ⟨lit, hl, rfl⟩
      · exact fun hp => ⟨lit, hl, hp⟩
    rw [List.exists_mem_cons_iff, ← ih, hp]
    simp only [pairs, reading, List.zipWith_cons_cons, List.map_cons, LitInt.value_ofU32,
      UInt32.toNat_ofNat_of_lt' hl.fits, List.mem_cons]

lemma registeredPairs_withRegistry (input : ItemMod) (items : List Item)
    (registrations : List Registration) :
    registeredPairs build (input.withRegistry items registrations) = pairs registrations := by
  have hs : ((input.withRegistry items registrations).content.getD []).filter (survives build) =
      items.filter (survives build) ++ [.fn (registerFn registrations)] ++ [.fn registryFn] := by
    rw [List.append_assoc]
    exact List.filter_append ..
  rw [registeredPairs, hs, lastSome_concat, lastSome_concat]
  rfl

lemma commutes_iff {ident : Ident} {span : Span} : Commutes build ident items span ↔
    (∃ e, FirstOffence (marked items) e ∧ FirstOffence (expanded build items) e) ∨
      WellFormed (marked items) ∧ WellFormed (expanded build items) ∧
        ∀ p, (∃ m ∈ marked items, PairOf m p) ↔ ∃ m ∈ expanded build items, PairOf m p := by
  rw [Commutes, syscallRegistry_eq rfl, wellFormed_iff, wellFormed_iff]
  simp only [← scan_eq_error_iff]
  cases hm : scanMarked [] (marked items) with
  | error e =>
    cases scanMarked [] (expanded build items) with
    | error e' => simp [Except.map, Agree, eq_comm]
    | ok rs => simp [Except.map, Agree]
  | ok rs =>
    cases he : scanMarked [] (expanded build items) with
    | error e => simp [Except.map, Agree]
    | ok rs' =>
      simp only [Except.map, Agree, registeredPairs_withRegistry, mem_pairs hm, mem_pairs he]
      simp

lemma mem_configureAttrs {attr : Attribute} {attrs : List Attribute} (hx : build.expands attr)
    (hm : attr ∈ attrs) : attr ∈ build.configureAttrs attrs := by
  induction attrs with
  | nil => cases hm
  | cons attr' attrs ih =>
    rw [Build.configureAttrs, List.mem_append]
    rcases List.mem_cons.mp hm with rfl | hm
    · left
      cases attr with
      | plain path args span => exact List.mem_singleton.mpr rfl
      | cfg | cfgAttr => cases hx
    · exact .inr (ih hm)

lemma expanded_of_marked {m : Marked} (hm : m ∈ marked items) (hs : ¬ Stray build m) :
    m ∈ expanded build items := by
  obtain ⟨hi, ha, _⟩ := mem_marked.mp hm
  rw [Stray, not_or, Bool.not_eq_false, Bool.not_eq_false] at hs
  exact mem_expanded.mpr ⟨mem_functions_of_mem hi, hs.1, mem_configureAttrs hs.2 ha, hs.2⟩

lemma marked_of_visible {m : Marked} (hh : ¬ Hidden items m) : m ∈ marked items := by
  rw [Hidden, not_or, not_or, not_not, not_not, Bool.not_eq_false] at hh
  exact mem_marked.mpr hh

lemma exists_pairOf {m : Marked} (h : WellFormed ms) (hm : m ∈ ms) : ∃ p, PairOf m p := by
  obtain ⟨lits, hf, hn⟩ := h
  clear hn
  induction hf with
  | nil => cases hm
  | cons hl _ ih =>
    rcases List.mem_cons.mp hm with rfl | hm
    · exact ⟨_, _, hl, rfl⟩
    · exact ih hm

lemma pairs_subset_iff {ms' : List Marked} {Only : Marked → Prop} (h : WellFormed ms)
    (ho : ∀ m ∈ ms, ¬ Only m → m ∈ ms') :
    (∀ p, (∃ m ∈ ms, PairOf m p) → ∃ m ∈ ms', PairOf m p) ↔ ∀ m ∈ ms, Only m → Matched m ms' := by
  refine ⟨?_, ?_⟩
  · intro hp m hm _
    obtain ⟨p, hmp⟩ := exists_pairOf h hm
    obtain ⟨m', hm', hmp'⟩ := hp p ⟨m, hm, hmp⟩
    exact ⟨m', hm', p, hmp, hmp'⟩
  -- an attribute that both sides see matches itself
  · rintro hm p ⟨m, hmem, hmp⟩
    by_cases hmo : Only m
    · obtain ⟨m', hm', q, hq, hq'⟩ := hm m hmem hmo
      exact ⟨m', hm', hmp.unique hq ▸ hq'⟩
    · exact ⟨m, ho m hmem hmo, hmp⟩

end

def unixBuild : Build where
  holds predicate := predicate == "unix"
  namesSyscall
    | .mk _ [.mk name .none] => name.is "syscall"
    | .mk _ [.mk crate .none, .mk name .none] => crate.is "libriscv" && name.is "syscall"
    | _ => false

end Libriscv.Macros

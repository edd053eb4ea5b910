import Mathlib.Data.List.Nodup
import Libriscv.Macros.Compiler
import Libriscv.Macros.Signatures

/-! The expansion of `syscall` in a module: when it succeeds, and what it defines. -/

namespace Libriscv.Macros

section

lemma wrapSyscallResult_sig (func : ItemFn) : (wrapSyscallResult func).sig = func.sig := by
  simp only [wrapSyscallResult]
  split
  · split
    · split <;> rfl
    · rfl
  · rfl

variable {attr : Attribute} {func : ItemFn}

lemma syscall_eq_ok_iff {e : Expansion} : syscall attr.parseArgs func = .ok e ↔
    WellSigned .syscall func ∧ ∃ lit, Asks attr lit ∧
      e = expand (some (.ofU32 (UInt32.ofNat lit.value) lit.span)) .syscall func := by
  have hs : syscall attr.parseArgs func = parseSyscallAttr attr >>= fun id =>
      checkSignature "syscall" .syscall func >>= fun _ =>
        .ok (expand (some id) .syscall func) := by
    rw [syscall, parseSyscallAttr]
    cases attr.parseArgs <;> rfl
  rw [hs]
  refine ⟨fun h => ?_, ?_⟩
  · obtain ⟨id, hid, h⟩ := ok_of_bind h
    obtain ⟨_, hc, h⟩ := ok_of_bind h
    obtain ⟨lit, hl, rfl⟩ := parseSyscallAttr_eq_ok.mp hid
    cases h
    exact ⟨checkSignature_eq_ok.mp hc, lit, hl, rfl⟩
  · rintro ⟨hw, lit, hl, rfl⟩
    rw [parseSyscallAttr_eq_ok.mpr ⟨lit, hl, rfl⟩, checkSignature_eq_ok.mpr hw]
    rfl

/-- The `syscall` macro and the constant that it generates accept this attribute of the function. -/
def Handled (attr : Attribute) (func : ItemFn) : Prop :=
  (∃ lit, Asks attr lit ∧ lit.value < 512) ∧ WellSigned .syscall func

lemma wellSigned_wrap : WellSigned .syscall (wrapSyscallResult func) ↔ WellSigned .syscall func := by
  have hs := wrapSyscallResult_sig func
  refine ⟨?_, ?_⟩
  · rintro ⟨h₁, h₂, h₃, h₄, h₅⟩
    rw [hs] at h₁ h₂ h₃ h₄ h₅
    exact ⟨h₁, h₂, h₃, h₄, h₅⟩
  · rintro ⟨h₁, h₂, h₃, h₄, h₅⟩
    rw [← hs] at h₁ h₂ h₃ h₄ h₅
    exact ⟨h₁, h₂, h₃, h₄, h₅⟩

end

section expansion

variable {build : Build}

lemma checkId_eq_ok {lit : LitInt} (hf : lit.value < 2 ^ 32) {span : Span} :
    checkId (.ofU32 (UInt32.ofNat lit.value) span) = .ok () ↔ lit.value < 512 := by
  have hv : (LitInt.ofU32 (UInt32.ofNat lit.value) span).value = lit.value := by
    rw [LitInt.value_ofU32, UInt32.toNat_ofNat_of_lt' hf]
  have hm : syscallsMax.toNat = 512 := rfl
  rw [checkId, hv, hm]
  split
  · next h => exact ⟨fun h' => (by cases h'), fun h' => absurd h' (by omega)⟩
  · next h => exact ⟨fun _ => by omega, fun _ => rfl⟩

lemma expandAttrs_cons_iff {attr : Attribute} (ha : build.expands attr) {attrs : List Attribute}
    {func : ItemFn} {defs : Definitions} :
    expandAttrs build (attr :: attrs) func = .ok defs ↔ WellSigned .syscall func ∧
      ∃ lit rest, Asks attr lit ∧ lit.value < 512 ∧
        expandAttrs build attrs (wrapSyscallResult func) = .ok rest ∧
        defs = (expand (some (.ofU32 (UInt32.ofNat lit.value) lit.span)) .syscall func).beside ++
          rest := by
  rw [expandAttrs, if_pos ha]
  refine ⟨fun h => ?_, ?_⟩
  · obtain ⟨e, he, h⟩ := ok_of_bind h
    obtain ⟨hw, lit, hl, rfl⟩ := syscall_eq_ok_iff.mp he
    obtain ⟨_, hc, h⟩ := ok_of_bind h
    obtain ⟨rest, hr, h⟩ := ok_of_bind h
    cases h
    exact ⟨hw, lit, rest, hl, (checkId_eq_ok hl.fits).mp hc, hr, rfl⟩
  · rintro ⟨hw, lit, rest, hl, hv, hr, rfl⟩
    rw [syscall_eq_ok_iff.mpr ⟨hw, lit, hl, rfl⟩]
    have hc : checkId (.ofU32 (UInt32.ofNat lit.value) lit.span) = .ok () :=
      (checkId_eq_ok hl.fits).mpr hv
    change (checkId _).bind _ = _
    rw [hc]
    change (expandAttrs build attrs (wrapSyscallResult func)).bind _ = _
    rw [hr]
    rfl

lemma expandAttrs_eq_ok {attrs : List Attribute} {func : ItemFn} :
    (∃ defs, expandAttrs build attrs func = .ok defs) ↔
      ∀ attr ∈ attrs.filter build.expands, Handled attr func := by
  induction attrs generalizing func with
  | nil => exact ⟨fun _ _ h => (nomatch h), fun _ => ⟨_, rfl⟩⟩
  | cons attr attrs ih =>
    by_cases ha : build.expands attr
    · simp only [expandAttrs_cons_iff ha, List.filter_cons_of_pos ha, List.forall_mem_cons]
      have ih' := @ih (wrapSyscallResult func)
      simp only [Handled, wellSigned_wrap] at ih'
      refine ⟨?_, ?_⟩
      · rintro ⟨_, hw, lit, rest, hl, hv, hr, rfl⟩
        exact ⟨⟨⟨lit, hl, hv⟩, hw⟩, ih'.mp ⟨rest, hr⟩⟩
      · rintro ⟨⟨⟨lit, hl, hv⟩, hw⟩, h⟩
        obtain ⟨rest, hr⟩ := ih'.mpr h
        exact ⟨_, hw, lit, rest, hl, hv, hr, rfl⟩
    · rw [List.filter_cons_of_neg ha]
      simp only [expandAttrs, if_neg ha]
      exact ih

lemma expandFn_eq_ok {func : ItemFn} : (∃ defs, expandFn build func = .ok defs) ↔
    ∀ m ∈ expandedOf build func, Handled m.2 m.1 := by
  rw [expandFn, expandedOf]
  by_cases he : build.enabled func.attrs
  · rw [if_pos he, if_pos he, expandAttrs_eq_ok, List.forall_mem_map]
  · rw [if_neg he, if_neg he]
    exact ⟨fun _ _ h => (by cases h), fun _ => ⟨_, rfl⟩⟩

lemma expandFns_eq_ok {functions : List ItemFn} :
    (∃ defs, expandFns build functions = .ok defs) ↔
      ∀ m ∈ functions.flatMap (expandedOf build), Handled m.2 m.1 := by
  induction functions with
  | nil => exact ⟨fun _ _ h => (by cases h), fun _ => ⟨_, rfl⟩⟩
  | cons func functions ih =>
    rw [List.flatMap_cons, List.forall_mem_append, ← expandFn_eq_ok, ← ih]
    refine ⟨?_, ?_⟩
    · rintro ⟨defs, h⟩
      obtain ⟨ds, hd, h⟩ := ok_of_bind h
      obtain ⟨rest, hr, _⟩ := ok_of_bind h
      exact ⟨⟨ds, hd⟩, rest, hr⟩
    · rintro ⟨⟨ds, hd⟩, rest, hr⟩
      refine ⟨ds ++ rest, ?_⟩
      rw [expandFns, hd, hr]
      rfl

lemma expandAttrs_defines {attrs : List Attribute} {func : ItemFn} {defs : Definitions}
    (h : expandAttrs build attrs func = .ok defs) {attr : Attribute} (hm : attr ∈ attrs)
    (ha : build.expands attr) :
    ((wrapperName func).name, .handlerConstructor (trampolineName .syscall func)) ∈ defs := by
  induction attrs generalizing func defs with
  | nil => cases hm
  | cons attr' attrs ih =>
    by_cases ha' : build.expands attr'
    · obtain ⟨-, lit, rest, -, -, hr, rfl⟩ := (expandAttrs_cons_iff ha').mp h
      rcases List.mem_cons.mp hm with rfl | hm
      · refine List.mem_append_left _ ?_
        simp [Expansion.beside, expand]
      · have hd := ih hr hm
        rw [wrapperName, trampolineName, wrapSyscallResult_sig] at hd
        exact List.mem_append_right _ hd
    · rw [expandAttrs, if_neg ha'] at h
      rcases List.mem_cons.mp hm with rfl | hm
      · exact absurd ha ha'
      · exact ih h hm

lemma expandAttrs_unmarked {attrs : List Attribute} (h : ∀ attr ∈ attrs, ¬ build.expands attr)
    (func : ItemFn) :
    expandAttrs build attrs func = .ok [(func.sig.ident.name, .function func)] := by
  induction attrs with
  | nil => rfl
  | cons attr attrs ih =>
    rw [expandAttrs, if_neg (h attr List.mem_cons_self)]
    exact ih fun a ha => h a (List.mem_cons_of_mem _ ha)

/-- A marked function is expanded once: a second expansion would define its trampoline again. -/
lemma expandAttrs_once {attrs : List Attribute} {func : ItemFn} {defs : Definitions}
    (h : expandAttrs build attrs func = .ok defs) (hn : (defs.map Prod.fst).Nodup)
    {attr : Attribute} (hm : attr ∈ attrs) (ha : build.expands attr) :
    ((trampolineName .syscall func).name, .trampoline .syscall func.sig.ident) ∈ defs ∧
      (func.sig.ident.name, .function (wrapSyscallResult func)) ∈ defs := by
  induction attrs with
  | nil => cases hm
  | cons attr' attrs ih =>
    by_cases ha' : build.expands attr'
    · obtain ⟨-, lit, rest, -, -, hr, rfl⟩ := (expandAttrs_cons_iff ha').mp h
      have hnone : ∀ a ∈ attrs, ¬ build.expands a := by
        intro a hmem hx
        have hd := expandAttrs_defines hr hmem hx
        rw [List.map_append] at hn
        refine (List.nodup_append.mp hn).2.2 (wrapperName func).name ?_ (wrapperName func).name ?_ rfl
        · simp [Expansion.beside, expand]
        · rw [wrapperName, wrapSyscallResult_sig] at hd
          exact List.mem_map.mpr ⟨_, hd, rfl⟩
      rw [expandAttrs_unmarked hnone] at hr
      cases hr
      refine ⟨?_, ?_⟩
      · simp [Expansion.beside, expand, wrapSyscallResult_sig]
      · simp [wrapSyscallResult_sig]
    · rw [expandAttrs, if_neg ha'] at h
      rcases List.mem_cons.mp hm with rfl | hm
      · exact absurd ha ha'
      · exact ih h hm

lemma expandAttrs_beside {attrs : List Attribute} {func : ItemFn} {defs : Definitions}
    (h : expandAttrs build attrs func = .ok defs) {name : String} {d : Definition}
    (hm : (name, d) ∈ defs) : (∃ f, d = .function f) ∨ (∃ attr ∈ attrs, build.expands attr) ∧
      (d = .trampoline .syscall func.sig.ident ∧ name = (trampolineName .syscall func).name ∨
        d = .handlerConstructor (trampolineName .syscall func) ∧
          name = (wrapperName func).name) := by
  induction attrs generalizing func defs with
  | nil =>
    cases h
    cases List.mem_singleton.mp hm
    exact .inl ⟨func, rfl⟩
  | cons attr attrs ih =>
    by_cases ha : build.expands attr
    · obtain ⟨-, lit, rest, -, -, hr, rfl⟩ := (expandAttrs_cons_iff ha).mp h
      rcases List.mem_append.mp hm with hm | hm
      · refine .inr ⟨⟨attr, List.mem_cons_self, ha⟩, ?_⟩
        rcases List.mem_pair.mp hm with he | he <;> cases he
        · exact .inl ⟨by rw [expand, wrapSyscallResult_sig], rfl⟩
        · exact .inr ⟨rfl, rfl⟩
      · refine (ih hr hm).imp_right ?_
        rw [trampolineName, trampolineName, wrapperName, wrapperName, wrapSyscallResult_sig]
        rintro ⟨_, hb⟩
        exact ⟨⟨attr, List.mem_cons_self, ha⟩, hb⟩
    · rw [expandAttrs, if_neg ha] at h
      refine (ih h hm).imp_right ?_
      rintro ⟨⟨attr', hm', ha'⟩, hb⟩
      exact ⟨⟨attr', List.mem_cons_of_mem _ hm', ha'⟩, hb⟩

lemma expandFns_append (first second : List ItemFn) : expandFns build (first ++ second) =
    (expandFns build first).bind fun ds =>
      (expandFns build second).map fun rest => ds ++ rest := by
  induction first with
  | nil =>
    rw [List.nil_append, expandFns, Except.bind.eq_def]
    cases expandFns build second <;> rfl
  | cons func first ih =>
    rw [List.cons_append, expandFns, ih, expandFns]
    cases expandFn build func with
    | error e => rfl
    | ok ds =>
      cases expandFns build first with
      | error e => rfl
      | ok rest =>
        cases expandFns build second with
        | error e => rfl
        | ok last => exact congrArg Except.ok (List.append_assoc ..).symm

lemma expandFns_mem {functions : List ItemFn} {defs : Definitions}
    (h : expandFns build functions = .ok defs) {func : ItemFn} (hm : func ∈ functions) :
    ∃ ds, expandFn build func = .ok ds ∧ List.Sublist ds defs := by
  obtain ⟨before, after, rfl⟩ := List.append_of_mem hm
  rw [expandFns_append] at h
  obtain ⟨first, -, h⟩ := ok_of_bind h
  obtain ⟨ds, hd, hr⟩ : ∃ ds, expandFn build func = .ok ds ∧ ∃ rest, defs = first ++ (ds ++ rest) := by
    rw [expandFns] at h
    cases hd : expandFn build func with
    | error e =>
      rw [hd] at h
      cases h
    | ok ds =>
      rw [hd] at h
      cases hr : expandFns build after with
      | error e =>
        rw [hr] at h
        cases h
      | ok rest =>
        rw [hr] at h
        cases h
        exact ⟨ds, rfl, rest, rfl⟩
  obtain ⟨rest, rfl⟩ := hr
  exact ⟨ds, hd, (List.sublist_append_left ds rest).trans (List.sublist_append_right first _)⟩

/-- What is defined beside the functions comes from an attribute that is expanded. -/
lemma expandFns_beside {functions : List ItemFn} {defs : Definitions}
    (h : expandFns build functions = .ok defs) {name : String} {d : Definition}
    (hm : (name, d) ∈ defs) : (∃ f, d = .function f) ∨ ∃ m ∈ functions.flatMap (expandedOf build),
      d = .trampoline .syscall m.1.sig.ident ∧ name = (trampolineName .syscall m.1).name ∨
        d = .handlerConstructor (trampolineName .syscall m.1) ∧ name = (wrapperName m.1).name := by
  induction functions generalizing defs with
  | nil =>
    cases h
    cases hm
  | cons func functions ih =>
    obtain ⟨ds, hd, h⟩ := ok_of_bind h
    obtain ⟨rest, hr, h⟩ := ok_of_bind h
    cases h
    rw [List.flatMap_cons]
    rcases List.mem_append.mp hm with hm | hm
    · rw [expandFn] at hd
      split at hd
      · next he =>
        refine (expandAttrs_beside hd hm).imp_right ?_
        rintro ⟨⟨attr, ha, hx⟩, hb⟩
        have hmem : (func, attr) ∈ expandedOf build func := mem_expandedOf.mpr ⟨rfl, he, ha, hx⟩
        exact ⟨_, List.mem_append_left _ hmem, hb⟩
      · cases hd
        cases hm
    · refine (ih hr hm).imp_right ?_
      rintro ⟨m, hmem, hb⟩
      exact ⟨m, List.mem_append_right _ hmem, hb⟩

structure Handles (defs : Definitions) (m : ItemFn × Attribute) : Prop where
  ranged : ∃ lit, Asks m.2 lit ∧ lit.value < 512
  trampoline : ((trampolineName .syscall m.1).name, .trampoline .syscall m.1.sig.ident) ∈ defs
  function : (m.1.sig.ident.name, .function (wrapSyscallResult m.1)) ∈ defs
  wrapper :
    ((wrapperName m.1).name, .handlerConstructor (trampolineName .syscall m.1)) ∈ defs

lemma expandFns_handles {functions : List ItemFn} {defs : Definitions}
    (h : expandFns build functions = .ok defs) (hn : (defs.map Prod.fst).Nodup)
    {m : ItemFn × Attribute} (hm : m ∈ functions.flatMap (expandedOf build)) : Handles defs m := by
  obtain ⟨func, hf, hm⟩ := List.mem_flatMap.mp hm
  obtain ⟨rfl, he, ha, hx⟩ := mem_expandedOf.mp hm
  obtain ⟨ds, hd, hs⟩ := expandFns_mem h hf
  rw [expandFn, if_pos he] at hd
  have hnd := hn.sublist (hs.map Prod.fst)
  obtain ⟨htrampoline, hfunction⟩ := expandAttrs_once hd hnd ha hx
  have hranged := (expandAttrs_eq_ok.mp ⟨ds, hd⟩ m.2 (List.mem_filter.mpr ⟨ha, hx⟩)).1
  exact ⟨hranged, hs.subset htrampoline, hs.subset hfunction,
    hs.subset (expandAttrs_defines hd ha hx)⟩

lemma expandAttrs_sublist {attrs : List Attribute} {func : ItemFn} {defs : Definitions}
    (h : expandAttrs build attrs func = .ok defs) :
    ((attrs.filter build.expands).map fun _ => (trampolineName .syscall func).name).Sublist
      (defs.map Prod.fst) := by
  induction attrs generalizing func defs with
  | nil => exact List.nil_sublist _
  | cons attr attrs ih =>
    by_cases ha : build.expands attr
    · obtain ⟨-, lit, rest, -, -, hr, rfl⟩ := (expandAttrs_cons_iff ha).mp h
      have hs := ih hr
      rw [trampolineName, wrapSyscallResult_sig] at hs
      rw [List.filter_cons_of_pos ha, List.map_cons]
      exact (hs.cons _).cons_cons _
    · rw [expandAttrs, if_neg ha] at h
      rw [List.filter_cons_of_neg ha]
      exact ih h

lemma expandFns_sublist {functions : List ItemFn} {defs : Definitions}
    (h : expandFns build functions = .ok defs) :
    ((functions.flatMap (expandedOf build)).map fun m => (trampolineName .syscall m.1).name).Sublist
      (defs.map Prod.fst) := by
  induction functions generalizing defs with
  | nil => exact List.nil_sublist _
  | cons func functions ih =>
    obtain ⟨ds, hd, h⟩ := ok_of_bind h
    obtain ⟨rest, hr, h⟩ := ok_of_bind h
    cases h
    rw [List.flatMap_cons, List.map_append, List.map_append]
    refine List.Sublist.append ?_ (ih hr)
    rw [expandFn] at hd
    rw [expandedOf]
    split at hd
    · next he =>
      rw [if_pos he, List.map_map]
      exact expandAttrs_sublist hd
    · next he =>
      rw [if_neg he]
      exact List.nil_sublist _

lemma expandFns_perm {functions functions' : List ItemFn} (hp : functions.Perm functions')
    {defs : Definitions} (h : expandFns build functions = .ok defs) :
    ∃ defs', expandFns build functions' = .ok defs' ∧ defs.Perm defs' := by
  induction hp generalizing defs with
  | nil => exact ⟨defs, h, .refl _⟩
  | cons func _ ih =>
    obtain ⟨ds, hd, h⟩ := ok_of_bind h
    obtain ⟨rest, hr, h⟩ := ok_of_bind h
    cases h
    obtain ⟨rest', hr', hp'⟩ := ih hr
    refine ⟨ds ++ rest', ?_, hp'.append_left ds⟩
    rw [expandFns, hd, hr']
    rfl
  | swap func func' functions =>
    obtain ⟨ds, hd, h⟩ := ok_of_bind h
    obtain ⟨rest, hr, h⟩ := ok_of_bind h
    obtain ⟨ds', hd', hr⟩ := ok_of_bind hr
    obtain ⟨rest', hr', hr⟩ := ok_of_bind hr
    cases h
    cases hr
    refine ⟨ds' ++ (ds ++ rest'), ?_, ?_⟩
    · rw [expandFns, hd', expandFns, hd, hr']
      rfl
    · rw [← List.append_assoc, ← List.append_assoc]
      exact List.perm_append_comm.append_right rest'
  | trans _ _ ih ih' =>
    obtain ⟨defs', h', hp⟩ := ih h
    obtain ⟨defs'', h'', hp'⟩ := ih' h'
    exact ⟨defs'', h'', hp.trans hp'⟩

end expansion

end Libriscv.Macros

import Mathlib.Data.List.Perm.Basic
import Libriscv.Macros.Linking

/-! A compiled registry: what its module defines, and how its handlers show in libriscv's table. -/

namespace Libriscv.Macros

open Foundations

/-- The functions' numbers have their trampolines, which call them, and nothing else changed. -/
structure Installs (build : Build) (defs : Definitions) (ms : List Marked) (t t' : SyscallTable) :
    Prop where
  marked : ∀ m ∈ ms, ∀ lit, Asks m.2 lit → t' lit.value = some (trampolinePtr build m.1)
  calls : ∀ m ∈ ms, handlerOf build defs (trampolinePtr build m.1) = some (wrapSyscallResult m.1)
  others : ∀ n, (∀ m ∈ ms, ∀ lit, Asks m.2 lit → lit.value ≠ n) → t' n = t n

structure CompiledRegistry (build : Build) (input : ItemMod) (items : List Item)
    (defs : Definitions) : Prop where
  content : input.content = some items
  compiled : ∃ out, syscallRegistry true input = .ok out ∧ compile build out = some defs

section log

variable {build : Build} {ms : List Marked} {lits : List LitInt}

lemma map_fst_installed (hf : List.Forall₂ (fun m lit => Asks m.2 lit) ms lits) :
    (List.zipWith (installed build) ms lits).map Prod.fst = lits.map LitInt.value := by
  induction hf with
  | nil => rfl
  | cons _ _ ih => exact congrArg (List.cons _) ih

lemma mem_installed (hf : List.Forall₂ (fun m lit => Asks m.2 lit) ms lits) {m : Marked}
    (hm : m ∈ ms) {lit : LitInt} (hl : Asks m.2 lit) :
    installed build m lit ∈ List.zipWith (installed build) ms lits := by
  induction hf with
  | nil => cases hm
  | cons hl' _ ih =>
    rcases List.mem_cons.mp hm with rfl | hm
    · rw [hl.unique hl']
      exact List.mem_cons_self
    · exact List.mem_cons_of_mem _ (ih hm)

lemma exists_of_mem_installed (hf : List.Forall₂ (fun m lit => Asks m.2 lit) ms lits)
    {write : ℕ × Option FnPtr} (hw : write ∈ List.zipWith (installed build) ms lits) :
    ∃ m ∈ ms, ∃ lit, Asks m.2 lit ∧ write = installed build m lit := by
  induction hf with
  | nil => cases hw
  | @cons m lit _ _ hl _ ih =>
    rcases List.mem_cons.mp hw with rfl | hw
    · exact ⟨m, List.mem_cons_self, lit, hl, rfl⟩
    · obtain ⟨m', hm', h⟩ := ih hw
      exact ⟨m', List.mem_cons_of_mem _ hm', h⟩

lemma marked_of_log (hf : List.Forall₂ (fun m lit => Asks m.2 lit) ms lits)
    (hn : (lits.map LitInt.value).Nodup) {t t' : SyscallTable}
    (ht : ∀ n, t' n = (lastWrite (List.zipWith (installed build) ms lits) n).getD (t n)) :
    ∀ m ∈ ms, ∀ lit, Asks m.2 lit → t' lit.value = some (trampolinePtr build m.1) := by
  intro m hm lit hl
  have hmem : installed build m lit ∈ List.zipWith (installed build) ms lits :=
    mem_installed hf hm hl
  rw [ht, lastWrite_of_mem (map_fst_installed hf ▸ hn) hmem, Option.getD_some]

lemma others_of_log (hf : List.Forall₂ (fun m lit => Asks m.2 lit) ms lits)
    {t t' : SyscallTable}
    (ht : ∀ n, t' n = (lastWrite (List.zipWith (installed build) ms lits) n).getD (t n)) {n : ℕ}
    (h : ∀ m ∈ ms, ∀ lit, Asks m.2 lit → lit.value ≠ n) : t' n = t n := by
  rw [ht, lastWrite_eq_none, Option.getD_none]
  intro write hw he
  obtain ⟨m, hm, lit, hl, rfl⟩ := exists_of_mem_installed hf hw
  exact h m hm lit hl he

end log

section installs

variable {build : Build} {defs defs' : Definitions} {ms ms' : List Marked}
  {t t₁ t₂ : SyscallTable}

lemma Installs.unique (h₁ : Installs build defs ms t t₁) (h₂ : Installs build defs' ms' t t₂)
    (hm : ∀ m, m ∈ ms ↔ m ∈ ms') : t₁ = t₂ := by
  funext n
  by_cases hn : ∃ m ∈ ms, ∃ lit, Asks m.2 lit ∧ lit.value = n
  · obtain ⟨m, hmem, lit, hl, rfl⟩ := hn
    rw [h₁.marked m hmem lit hl, h₂.marked m ((hm m).mp hmem) lit hl]
  · rw [h₁.others n fun m hmem lit hl he => hn ⟨m, hmem, lit, hl, he⟩,
      h₂.others n fun m hmem lit hl he => hn ⟨m, (hm m).mpr hmem, lit, hl, he⟩]

lemma Installs.idempotent (h₁ : Installs build defs ms t t₁) (h₂ : Installs build defs ms t₁ t₂) :
    t₂ = t₁ := h₂.unique ⟨h₁.marked, h₁.calls, fun _ _ => rfl⟩ fun _ => Iff.rfl

end installs

section compiled

variable (build : Build)

def registryDefs (registrations : List Registration) : Definitions :=
  [("register", .function (registerFn registrations)), ("registry", .function registryFn)]

def otherDefs (items : List Item) : Definitions :=
  (build.values items).map fun name => (name, .item)

/-- The trampoline of a handler type-checks: its own variables do not hide the handler, which takes
the context and whose result is one that a handler may have. -/
def Callable (func : ItemFn) : Prop :=
  func.sig.ident.name ≠ "m" ∧ func.sig.ident.name ≠ "ctx" ∧
    build.contexts func.sig.inputs = true ∧ build.outputs func.sig.output = true

structure Typed (items : List Item) (defs : Definitions) : Prop where
  distinct : (defs.map Prod.fst).Nodup
  handlers : ∀ m ∈ expanded build items, Callable build m.1
  items : ∀ item ∈ items, checkItem build item = true
  fits : (resolveOk build defs).isSome = true

variable {build} {input : ItemMod} {items : List Item} {own defs : Definitions}
  {registrations : List Registration}

lemma expandItems_registry :
    expandItems build (items ++ [.fn (registerFn registrations), .fn registryFn]) =
      (expandFns build (build.functions items)).map fun own =>
        own ++ registryDefs registrations ++ otherDefs build items := by
  have hf : build.functions (items ++ [.fn (registerFn registrations), .fn registryFn]) =
      build.functions items ++ [registerFn registrations, registryFn] := List.flatMap_append
  have hv : build.values (items ++ [.fn (registerFn registrations), .fn registryFn]) =
      build.values items := by
    rw [Build.values, List.flatMap_append]
    exact List.append_nil _
  have hr : expandFns build [registerFn registrations, registryFn] =
      .ok (registryDefs registrations) := rfl
  rw [expandItems, hf, hv, expandFns_append, hr]
  cases expandFns build (build.functions items) <;> rfl

lemma callable_trampoline {m : Marked} (hn : (defs.map Prod.fst).Nodup) (h : Handles defs m)
    (name : String) : callable build defs (name, .trampoline .syscall m.1.sig.ident) = true ↔
      Callable build m.1 := by
  rw [callable, lookup_of_mem hn h.function]
  dsimp only
  rw [wrapSyscallResult_sig]
  simp [Callback.locals, Callable, and_assoc]

lemma Handles.mono {defs' : Definitions} (hs : ∀ d ∈ defs, d ∈ defs') {m : Marked}
    (h : Handles defs m) : Handles defs' m :=
  ⟨h.ranged, hs _ h.trampoline, hs _ h.function, hs _ h.wrapper⟩

lemma own_sublist (hd : defs = own ++ registryDefs registrations ++ otherDefs build items) :
    List.Sublist own defs := by
  rw [hd, List.append_assoc]
  exact List.sublist_append_left _ _

lemma handles_of_expanded (hown : expandFns build (build.functions items) = .ok own)
    (hd : defs = own ++ registryDefs registrations ++ otherDefs build items)
    (hn : (defs.map Prod.fst).Nodup) {m : Marked} (hm : m ∈ expanded build items) :
    Handles defs m := by
  have hsub := own_sublist hd
  exact (expandFns_handles hown (hn.sublist (hsub.map Prod.fst)) hm).mono fun _ => (hsub.subset ·)

lemma callable_iff (hown : expandFns build (build.functions items) = .ok own)
    (hd : defs = own ++ registryDefs registrations ++ otherDefs build items)
    (hn : (defs.map Prod.fst).Nodup) :
    (∀ d ∈ defs, callable build defs d = true) ↔
      ∀ m ∈ expanded build items, Callable build m.1 := by
  have hh := fun {m} hm => handles_of_expanded (m := m) hown hd hn hm
  refine ⟨fun h m hm => ?_, ?_⟩
  · exact (callable_trampoline hn (hh hm) _).mp (h _ (hh hm).trampoline)
  · rintro h ⟨name, d⟩ hmem
    have hcases : (name, d) ∈ own ∨ (name, d) ∈ registryDefs registrations ∨
        (name, d) ∈ otherDefs build items := by
      rwa [hd, List.append_assoc, List.mem_append, List.mem_append] at hmem
    rcases hcases with hmem | hmem | hmem
    · rcases expandFns_beside hown hmem with ⟨f, rfl⟩ | ⟨m, hm, ⟨rfl, -⟩ | ⟨rfl, -⟩⟩
      · rfl
      · exact (callable_trampoline hn (hh hm) name).mpr (h m hm)
      · rfl
    · rcases List.mem_pair.mp hmem with he | he <;> cases he <;> rfl
    · obtain ⟨_, -, he⟩ := List.mem_map.mp hmem
      cases he
      rfl

lemma compile_withRegistry : compile build (input.withRegistry items registrations) = some defs ↔
    ∃ own, expandFns build (build.functions items) = .ok own ∧
      defs = own ++ registryDefs registrations ++ otherDefs build items ∧
      Typed build items defs := by
  have hgen : (∀ item ∈ items ++ [Item.fn (registerFn registrations), .fn registryFn],
      checkItem build item = true) ↔ ∀ item ∈ items, checkItem build item = true := by
    rw [List.forall_mem_append]
    refine and_iff_left ?_
    intro item hi
    rcases List.mem_pair.mp hi with rfl | rfl <;> rfl
  rw [compile_eq_some rfl, expandItems_registry, WellTyped, hgen]
  refine ⟨?_, ?_⟩
  · rintro ⟨he, hn, hc, hi, hok⟩
    cases hown : expandFns build (build.functions items) with
    | error e =>
      rw [hown] at he
      cases he
    | ok own =>
      rw [hown] at he
      cases he
      exact ⟨own, rfl, rfl, hn, (callable_iff hown rfl hn).mp hc, hi, hok⟩
  · rintro ⟨own, hown, rfl, ht⟩
    rw [hown]
    exact ⟨rfl, ht.distinct, (callable_iff hown rfl ht.distinct).mpr ht.handlers, ht.items, ht.fits⟩

lemma CompiledRegistry.spec (h : CompiledRegistry build input items defs) :
    ∃ lits own, List.Forall₂ (fun m lit => Asks m.2 lit) (marked items) lits ∧
      (lits.map LitInt.value).Nodup ∧ expandFns build (build.functions items) = .ok own ∧
      defs = own ++ registryDefs ((List.zipWith reading (marked items) lits).map Prod.fst) ++
        otherDefs build items ∧ Typed build items defs := by
  obtain ⟨out, ho, hd⟩ := h.compiled
  obtain ⟨lits, hf, hn, rfl⟩ := (syscallRegistry_eq_ok h.content).mp ho
  obtain ⟨own, hown, hdefs, ht⟩ := compile_withRegistry.mp hd
  exact ⟨lits, own, hf, hn, hown, hdefs, ht⟩

lemma registryProgram_eq (hd : defs = own ++ registryDefs registrations ++ otherDefs build items)
    (hn : (defs.map Prod.fst).Nodup) {ok : Captured} (hok : resolveOk build defs = some ok) :
    registryProgram build defs = (link build defs registrations).map (runRegistry ok) := by
  have hregistry : ("registry", .function registryFn) ∈ defs := by simp [hd, registryDefs]
  have hregister : ("register", .function (registerFn registrations)) ∈ defs := by
    simp [hd, registryDefs]
  rw [registryProgram, lookup_of_mem hn hregistry, lookup_of_mem hn hregister]
  simp only [registryFn, registerFn, generated, hok, Option.bind_eq_bind, Option.bind_some]
  cases link build defs registrations <;> rfl

lemma handlerOf_of_handles (hn : (defs.map Prod.fst).Nodup) {m : Marked} (h : Handles defs m) :
    handlerOf build defs (trampolinePtr build m.1) = some (wrapSyscallResult m.1) := by
  have hhome : (trampolinePtr build m.1).home = build.home := rfl
  have hsymbol : (trampolinePtr build m.1).symbol = (trampolineName .syscall m.1).name := rfl
  rw [handlerOf, if_pos hhome, hsymbol, lookup_of_mem hn h.trampoline]
  dsimp only
  rw [lookup_of_mem hn h.function]

lemma callConstructor_of_handles (hn : (defs.map Prod.fst).Nodup) {m : Marked}
    (h : Handles defs m) : callConstructor build defs (wrapperName m.1) =
      some (.new (trampolinePtr build m.1)) := by
  rw [callConstructor, lookup_of_mem hn h.wrapper]
  rfl

lemma Handles.in_range {m : Marked} (h : Handles defs m) {lit : LitInt} (hl : Asks m.2 lit) :
    lit.value < 512 := by
  obtain ⟨lit', hl', hv⟩ := h.ranged
  rwa [hl.unique hl']

lemma expanded_of_plain
    (hp : ∀ func, Item.fn func ∈ items → ∀ attr ∈ func.attrs, Plain build attr) {m : Marked}
    (hm : m ∈ marked items) : m ∈ expanded build items := by
  obtain ⟨hi, ha, hs⟩ := mem_marked.mp hm
  have hattrs := hp m.1 hi
  refine mem_expanded.mpr ⟨mem_functions_of_mem hi, enabled_plain hattrs, ?_, ?_⟩
  · rwa [configureAttrs_plain hattrs]
  · rwa [expands_plain (hattrs m.2 ha)]

end compiled

end Libriscv.Macros

import Libriscv.Macros.Compiled

/-! The runs of a compiled registry: when it installs the annotated functions, and nothing else. -/

namespace Libriscv.Macros

open Foundations

structure KeepingLibrary where
  State : Type
  answers : Handler native State
  table : State → SyscallTable
  stores : StoresHandlers answers table

namespace KeepingLibrary

variable (library : KeepingLibrary)

def after (program : FfiResult SyscallRegistry) (s : library.State) : library.State :=
  (program.run.run library.answers s).2

/-- The handlers of the marked functions are in the table. -/
def Has (build : Build) (ms : List Marked) (s : library.State) : Prop :=
  ∀ m ∈ ms, ∀ lit, Asks m.2 lit → library.table s lit.value = some (trampolinePtr build m.1)

/-- The program hands out its token, and has the functions of `ms` installed. -/
def Completes (build : Build) (defs : Definitions) (ms : List Marked)
    (program : FfiResult SyscallRegistry) (s : library.State) : Prop :=
  (program.run.run library.answers s).1 = some (.ok .empty) ∧
    Installs build defs ms (library.table s) (library.table (library.after program s))

def unmoved : KeepingLibrary where
  State := library.State × ℕ
  answers := Macros.unmoved library.answers library.table
  table s := library.table s.1
  stores := unmoved_stores library.stores

end KeepingLibrary

section linked

/-- A compiled registry as it is linked: what its `Ok` means, and what it registers. -/
structure Linked (build : Build) (items : List Item) (defs : Definitions) (ok : Captured)
    (steps : List (LitInt × SyscallHandler)) : Prop where
  resolved : resolveOk build defs = some ok
  program : registryProgram build defs = some (runRegistry ok steps)
  distinct : (defs.map Prod.fst).Nodup
  handles : ∀ m ∈ expanded build items, Handles defs m
  apart : ((expanded build items).map fun m => (trampolineName .syscall m.1).name).Nodup
  written : ∀ m ∈ marked items, m ∈ expanded build items
  log : ∃ lits, List.Forall₂ (fun m lit => Asks m.2 lit) (marked items) lits ∧
    (lits.map LitInt.value).Nodup ∧
    steps.map (fun p => (p.1.value, p.2.raw)) =
      List.zipWith (installed build) (marked items) lits

variable {build : Build} {input : ItemMod} {items : List Item} {defs : Definitions}
  {ok : Captured} {steps : List (LitInt × SyscallHandler)}

lemma CompiledRegistry.linked (h : CompiledRegistry build input items defs)
    (hp : ∀ func, Item.fn func ∈ items → ∀ attr ∈ func.attrs, Plain build attr) :
    ∃ ok steps, Linked build items defs ok steps := by
  obtain ⟨lits, own, hf, hl, hown, hd, ht⟩ := h.spec
  obtain ⟨ok, hok⟩ := Option.isSome_iff_exists.mp ht.fits
  have hh := fun m hm => handles_of_expanded (m := m) hown hd ht.distinct hm
  have hw := fun m hm => expanded_of_plain (m := m) hp hm
  have hcall : ∀ m ∈ marked items, callConstructor build defs (wrapperName m.1) =
      some (.new (trampolinePtr build m.1)) := fun m hm =>
    callConstructor_of_handles ht.distinct (hh m (hw m hm))
  obtain ⟨steps, hs, hlog⟩ := link_eq hf hcall
  have ha := ht.distinct.sublist ((expandFns_sublist hown).trans ((own_sublist hd).map Prod.fst))
  refine ⟨ok, steps, hok, ?_, ht.distinct, hh, ha, hw, lits, hf, hl, hlog⟩
  rw [registryProgram_eq hd ht.distinct hok, hs, Option.map_some]

namespace Linked

variable (h : Linked build items defs ok steps) (library : KeepingLibrary)

include h

lemma step_spec {p : LitInt × SyscallHandler} (hp : p ∈ steps) : p.1.value < 512 ∧
    ∃ m ∈ marked items, ∃ lit, Asks m.2 lit ∧ p.1.value = lit.value ∧
      p.2.raw = some (trampolinePtr build m.1) := by
  obtain ⟨lits, hf, -, hlog⟩ := h.log
  have hw := List.mem_map_of_mem (f := fun p => (p.1.value, p.2.raw)) hp
  rw [hlog] at hw
  obtain ⟨m, hm, lit, hl, he⟩ := exists_of_mem_installed hf hw
  obtain ⟨hv, hr⟩ := Prod.mk.inj he
  exact ⟨hv ▸ (h.handles m (h.written m hm)).in_range hl, m, hm, lit, hl, hv, hr⟩

lemma calls {m : Marked} (hm : m ∈ expanded build items) :
    handlerOf build defs (trampolinePtr build m.1) = some (wrapSyscallResult m.1) :=
  handlerOf_of_handles h.distinct (h.handles m hm)

lemma registers (s : library.State) : ∃ s',
    (runRegistry ok steps).run.run library.answers s = ok.finish.run.run library.answers s' ∧
      Installs build defs (marked items) (library.table s) (library.table s') := by
  obtain ⟨lits, hf, hn, hlog⟩ := h.log
  obtain ⟨s', hr, ht⟩ := runRegister_run library.stores ok .new (fun p hp => (h.step_spec hp).1) s
  rw [hlog] at ht
  have hlast := fun n => (congrFun ht n).trans (foldl_update _ _ n)
  exact ⟨s', runRegistry_run hr, marked_of_log hf hn hlast,
    fun m hm => h.calls (h.written m hm), fun n => others_of_log hf hlast⟩

lemma rests {s : library.State} (hs : library.Has build (marked items) s) :
    (runRegistry ok steps).run.run library.unmoved.answers (s, steps.length) =
      ok.finish.run.run library.unmoved.answers (s, 0) := by
  refine runRegistry_run (runRegister_unmoved ok .new fun p hp => ?_)
  obtain ⟨hv, m, hm, lit, hl, he, hr⟩ := h.step_spec hp
  exact ⟨hv, by rw [he, hr, hs m hm lit hl]⟩

end Linked

end linked

section fulfils

variable (build : Build)

/-- What is expected of a compiled registry, with any library and any table before it runs. -/
structure Fulfils (input : ItemMod) (items : List Item) (defs : Definitions)
    (program : FfiResult SyscallRegistry) : Prop where
  installs (library : KeepingLibrary) (s : library.State) :
    library.Completes build defs (expanded build items) program s
  again (library : KeepingLibrary) (s : library.State) :
    library.table (library.after program (library.after program s)) =
      library.table (library.after program s)
  anyOrder (items' : List Item) : items'.Perm items → ∃ defs' program',
    CompiledRegistry build { input with content := some items' } items' defs' ∧
      registryProgram build defs' = some program' ∧ ∀ (library : KeepingLibrary) s,
        library.Completes build defs' (expanded build items') program' s ∧
          library.table (library.after program' s) = library.table (library.after program s)

/-- What `Ok` means in the generated bodies does the rest, once the functions written in the module
are registered. -/
def Finishes (items : List Item) (defs : Definitions) : Prop :=
  ∀ ok, resolveOk build defs = some ok → ∀ (library : KeepingLibrary) s,
    library.Has build (marked items) s →
      library.Completes build defs (expanded build items) ok.finish s

variable {build} {input : ItemMod} {items : List Item} {defs : Definitions} {ok : Captured}
  {steps : List (LitInt × SyscallHandler)} {ms ms' : List Marked} {t t₁ t₂ : SyscallTable}

lemma Installs.trans (hs : ∀ m ∈ ms, m ∈ ms') (h₁ : Installs build defs ms t t₁)
    (h₂ : Installs build defs ms' t₁ t₂) : Installs build defs ms' t t₂ where
  marked := h₂.marked
  calls := h₂.calls
  others n hn := (h₂.others n hn).trans (h₁.others n fun m hm => hn m (hs m hm))

lemma Linked.completes (h : Linked build items defs ok steps) (hf : Finishes build items defs)
    (library : KeepingLibrary) (s : library.State) :
    library.Completes build defs (expanded build items) (runRegistry ok steps) s := by
  obtain ⟨s', hr, hi⟩ := h.registers library s
  obtain ⟨hfin, hi'⟩ := hf ok h.resolved library s' hi.marked
  rw [KeepingLibrary.Completes, KeepingLibrary.after, hr]
  exact ⟨hfin, hi.trans h.written hi'⟩

lemma Linked.finishes (h : Linked build items defs ok steps)
    (hc : ∀ (library : KeepingLibrary) s,
      library.Completes build defs (expanded build items) (runRegistry ok steps) s) :
    Finishes build items defs := by
  intro ok' hok library s hs
  cases h.resolved.symm.trans hok
  -- a library that already has the handlers shows what is left to `Ok`
  have hrun := (h.rests library hs).trans (unmoved_run ok.finish.run s)
  obtain ⟨hfin, hi⟩ := hc library.unmoved (s, steps.length)
  simp only [KeepingLibrary.after, hrun] at hi
  rw [hrun] at hfin
  exact ⟨hfin, hi⟩

section reordered

variable {items' : List Item}

lemma perm_marked (hp : items'.Perm items) : (marked items').Perm (marked items) :=
  hp.flatMap_right _

lemma perm_expanded (hp : items'.Perm items) :
    (expanded build items').Perm (expanded build items) :=
  (hp.flatMap_right _).flatMap_right _

lemma CompiledRegistry.reordered (h : CompiledRegistry build input items defs)
    (hp : items'.Perm items) : ∃ defs',
      CompiledRegistry build { input with content := some items' } items' defs' ∧
        resolveOk build defs' = resolveOk build defs := by
  obtain ⟨lits, own, hf, hl, hown, hd, ht⟩ := h.spec
  obtain ⟨lits', hf', hpl⟩ := List.perm_comp_forall₂ (perm_marked hp) hf
  obtain ⟨own', hown', hpo⟩ := expandFns_perm (hp.flatMap_right _).symm hown
  let regs := (List.zipWith reading (marked items') lits').map Prod.fst
  let defs' := own' ++ registryDefs regs ++ otherDefs build items'
  have hnames : (defs'.map Prod.fst).Perm (defs.map Prod.fst) := by
    simp only [defs', hd, List.map_append]
    have hother : (otherDefs build items').Perm (otherDefs build items) :=
      (hp.flatMap_right _).map _
    exact ((hpo.symm.map _).append_right _).append (hother.map _)
  have hok : resolveOk build defs' = resolveOk build defs := by
    simp only [resolveOk, hnames.mem_iff]
  have ht' : Typed build items' defs' :=
    ⟨hnames.nodup_iff.mpr ht.distinct, fun m hm => ht.handlers m ((perm_expanded hp).mem_iff.mp hm),
      fun item hi => ht.items item (hp.mem_iff.mp hi), hok ▸ ht.fits⟩
  have hl' : (lits'.map LitInt.value).Nodup := (hpl.map _).nodup_iff.mpr hl
  exact ⟨defs', ⟨rfl, _, (syscallRegistry_eq_ok rfl).mpr ⟨lits', hf', hl', rfl⟩,
    compile_withRegistry.mpr ⟨own', hown', rfl, ht'⟩⟩, hok⟩

lemma Installs.reordered {defs' : Definitions} (h : Installs build defs ms t t₁)
    (hm : ∀ m, m ∈ ms' ↔ m ∈ ms)
    (hc : ∀ m ∈ ms', handlerOf build defs' (trampolinePtr build m.1) = some (wrapSyscallResult m.1)) :
    Installs build defs' ms' t t₁ where
  marked m hmem := h.marked m ((hm m).mp hmem)
  calls := hc
  others n hn := h.others n fun m hmem => hn m ((hm m).mpr hmem)

lemma Finishes.reordered {defs' : Definitions} {steps' : List (LitInt × SyscallHandler)}
    (hf : Finishes build items defs) (hp : items'.Perm items)
    (hok : resolveOk build defs' = resolveOk build defs)
    (h : Linked build items' defs' ok steps') : Finishes build items' defs' := by
  intro ok' hok' library s hs
  obtain ⟨hfin, hi⟩ := hf ok' (hok ▸ hok') library s fun m hm => hs m ((perm_marked hp).mem_iff.mpr hm)
  exact ⟨hfin, hi.reordered (fun m => (perm_expanded hp).mem_iff) fun m => h.calls⟩

end reordered

lemma Linked.fulfils (h : Linked build items defs ok steps)
    (hc : CompiledRegistry build input items defs)
    (hp : ∀ func, Item.fn func ∈ items → ∀ attr ∈ func.attrs, Plain build attr)
    (hf : Finishes build items defs) : Fulfils build input items defs (runRegistry ok steps) where
  installs := h.completes hf
  again library s := (h.completes hf library s).2.idempotent (h.completes hf library _).2
  anyOrder items' hperm := by
    obtain ⟨defs', hc', hok⟩ := hc.reordered hperm
    obtain ⟨ok', steps', h'⟩ := hc'.linked fun func hm => hp func (hperm.mem_iff.mp hm)
    have hall := h'.completes (hf.reordered hperm hok h')
    refine ⟨defs', _, hc', h'.program, fun library s => ⟨hall library s, ?_⟩⟩
    exact (hall library s).2.unique (h.completes hf library s).2 fun m =>
      (perm_expanded hperm).mem_iff

lemma Linked.finishes_iff (h : Linked build items defs .prelude steps) :
    Finishes build items defs ↔ ∀ m ∈ expanded build items, m ∈ marked items := by
  refine ⟨fun hf m hm => ?_, fun hw ok hok library s hs => ?_⟩
  · let library : KeepingLibrary := ⟨SyscallTable, tableLibrary, id, tableLibrary_stores⟩
    obtain ⟨t, hr, hi⟩ := h.registers library fun _ => none
    obtain ⟨-, hi'⟩ := hf _ h.resolved library t hi.marked
    obtain ⟨lit, hl, hv⟩ := (h.handles m hm).ranged
    have ht := hi'.marked m hm lit hl
    -- the table started empty, so a function that is written in the module asked for the number
    have hasked : ∃ m' ∈ marked items, ∃ lit', Asks m'.2 lit' ∧ lit'.value = lit.value := by
      by_contra hnone
      push Not at hnone
      exact Option.some_ne_none _ (ht.symm.trans (hi.others _ hnone))
    obtain ⟨m', hm', lit', hl', he⟩ := hasked
    have hptr := (hi.marked m' hm' lit' hl').symm.trans (he ▸ ht)
    have hname := congrArg FnPtr.symbol (Option.some.inj hptr)
    rwa [← List.inj_on_of_nodup_map h.apart (h.written m' hm') hm hname]
  · cases h.resolved.symm.trans hok
    exact ⟨rfl, fun m hm => hs m (hw m hm), fun m => h.calls, fun _ _ => rfl⟩

end fulfils

def hostBuild : Build := { holds := fun _ => true, namesSyscall := Path.isIdent "syscall" }

def hostModule (items : List Item) : ItemMod := ⟨⟨false, "host"⟩, some items, .callSite⟩

def suffixedLiteral : LitInt :=
  ⟨false, .decimal, [some ⟨5, by decide⟩, some ⟨0, by decide⟩, none, some ⟨1, by decide⟩], "u32",
    .callSite⟩

/-- `fn Ok<T>(_: T) -> ::libriscv::Result<T>`, which returns an error. -/
def okFunction : ItemFn where
  attrs := []
  vis := .inherited
  sig := ⟨⟨false, "Ok"⟩, false, false, ["T"], [.typed (.path none (.ofIdent "T"))], false,
    some (libriscvPath "Result" (.angleBracketed [.type (.path none (.ofIdent "T"))])), .callSite⟩
  block := .source "{ Err(::libriscv::Error::NonUtf8Path) }"

def okBuild : Build :=
  { hostBuild with ownOk := some ⟨throw .nonUtf8Path, fun _ => throw .nonUtf8Path⟩ }

end Libriscv.Macros

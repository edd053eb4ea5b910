import Libriscv.Foundations.Runs
import Libriscv.Macros.Installing

/-! A process with compiled registries: which function answers which syscall, over every run. -/

namespace Libriscv.Macros

open Foundations

/-- A compiled registry module whose annotated functions are written out, with plain attributes, and
that leaves `Ok` to the prelude. -/
structure RegistryModule where
  build : Build
  input : ItemMod
  items : List Item
  defs : Definitions
  compiled : CompiledRegistry build input items defs
  plain : ∀ func, Item.fn func ∈ items → ∀ attr ∈ func.attrs, Plain build attr
  written : ∀ m ∈ expanded build items, m ∈ marked items
  prelude : resolveOk build defs = some .prelude

namespace RegistryModule

variable (module : RegistryModule)

def Serves (n : ℕ) (func : ItemFn) : Prop :=
  ∃ attr lit, (func, attr) ∈ expanded module.build module.items ∧ Asks attr lit ∧ lit.value = n

abbrev Leaves (t t' : SyscallTable) : Prop :=
  Installs module.build module.defs (expanded module.build module.items) t t'

lemma runs : ∃ program, registryProgram module.build module.defs = some program ∧
    ∀ t : SyscallTable, ∃ t', program.run.run tableLibrary t = (some (.ok .empty), t') ∧
      module.Leaves t t' := by
  obtain ⟨ok, steps, h⟩ := module.compiled.linked module.plain
  cases h.resolved.symm.trans module.prelude
  refine ⟨_, h.program, fun t => ?_⟩
  obtain ⟨t', hr, hi⟩ := h.registers ⟨_, tableLibrary, id, tableLibrary_stores⟩ t
  exact ⟨t', hr, hi.reordered (fun m => ⟨module.written m, h.written m⟩) fun m => h.calls⟩

end RegistryModule

/-- The registry modules of a crate graph, which have paths of their own. -/
structure RegistryModules where
  list : List RegistryModule
  distinct : (list.map fun module => module.build.home).Nodup

namespace Serving

/-- The table of the process. A token and a machine are shown with the module whose registry they
come from; `ran` are the modules whose registry ran, the last one first. -/
structure Process where
  table : SyscallTable
  tokens : ℕ → Option ℕ
  machines : ℕ → Option ℕ
  ran : List ℕ

def initial : Process := ⟨fun _ => none, fun _ => none, fun _ => none, []⟩

inductive Op
  | registry (k r : ℕ)
  | dropToken (r : ℕ)
  | newMachine (r m : ℕ)
  | dropMachine (m : ℕ)
  deriving DecidableEq, Repr

section

variable (mods : RegistryModules)

def step (s : Process) : Op → Option Process
  | .registry k r => do
    let module ← mods.list[k]?
    let program ← registryProgram module.build module.defs
    let (result, table) := program.run.run tableLibrary s.table
    let s := { s with table, ran := k :: s.ran }
    match result with
    | some (.ok _) => if s.tokens r = none then
        some { s with tokens := Function.update s.tokens r (some k) } else none
    -- an error leaves no token, but what it registered stays
    | _ => some s
  | .dropToken r => some { s with tokens := Function.update s.tokens r none }
  | .newMachine r m => do
    let k ← s.tokens r
    if s.machines m = none then
      some { s with machines := Function.update s.machines m (some k) } else none
  | .dropMachine m => some { s with machines := Function.update s.machines m none }

/-- The syscall `n` of this process is answered by a function of the module. -/
def Answers (s : Process) (module : RegistryModule) (n : ℕ) (func : ItemFn) : Prop :=
  ∃ ptr, s.table n = some ptr ∧
    handlerOf module.build module.defs ptr = some (wrapSyscallResult func)

/-- A number is answered by the module that ran last of those that annotate it. -/
structure Sound (s : Process) : Prop where
  tokens : ∀ r k, s.tokens r = some k → k ∈ s.ran
  machines : ∀ m k, s.machines m = some k → k ∈ s.ran
  latest : ∀ later k earlier module n func, s.ran = later ++ k :: earlier →
    mods.list[k]? = some module → module.Serves n func →
    (∀ j ∈ later, ∀ other, mods.list[j]? = some other → ∀ f, ¬ other.Serves n f) →
    Answers s module n func
  silent : ∀ n, (∀ j ∈ s.ran, ∀ other, mods.list[j]? = some other → ∀ f, ¬ other.Serves n f) →
    s.table n = none

variable {mods}

lemma registry_step {k : ℕ} {module : RegistryModule} (hk : mods.list[k]? = some module)
    (s : Process) (r : ℕ) : ∃ table, module.Leaves s.table table ∧
      step mods s (.registry k r) = if s.tokens r = none then
        some ⟨table, Function.update s.tokens r (some k), s.machines, k :: s.ran⟩ else none := by
  obtain ⟨program, hprogram, hrun⟩ := module.runs
  obtain ⟨table, ht, hi⟩ := hrun s.table
  refine ⟨table, hi, ?_⟩
  simp only [step, hk, hprogram, ht, Option.bind_eq_bind, Option.bind_some]

lemma step_cases {s t : Process} {op : Op} (h : step mods s op = some t) :
    (∃ k r module table, op = .registry k r ∧ mods.list[k]? = some module ∧
      module.Leaves s.table table ∧
      t = ⟨table, Function.update s.tokens r (some k), s.machines, k :: s.ran⟩) ∨
    (∃ r, t = { s with tokens := Function.update s.tokens r none }) ∨
    (∃ r m k, s.tokens r = some k ∧
      t = { s with machines := Function.update s.machines m (some k) }) ∨
    (∃ m, t = { s with machines := Function.update s.machines m none }) := by
  cases op with
  | registry k r =>
    cases hk : mods.list[k]? with
    | none => simp [step, hk] at h
    | some module =>
      obtain ⟨table, hi, hs⟩ := registry_step hk s r
      rw [hs] at h
      split at h
      · cases h
        exact .inl ⟨k, r, module, table, rfl, hk, hi, rfl⟩
      · cases h
  | dropToken r =>
    cases h
    exact .inr (.inl ⟨r, rfl⟩)
  | newMachine r m =>
    obtain ⟨k, hk, h⟩ := Option.bind_eq_some_iff.mp h
    split at h
    · cases h
      exact .inr (.inr (.inl ⟨r, m, k, hk, rfl⟩))
    · cases h
  | dropMachine m =>
    cases h
    exact .inr (.inr (.inr ⟨m, rfl⟩))

lemma not_serves {module : RegistryModule} {n : ℕ} (h : ∀ f, ¬ module.Serves n f) :
    ∀ m ∈ expanded module.build module.items, ∀ lit, Asks m.2 lit → lit.value ≠ n :=
  fun m hm lit hl hv => h m.1 ⟨m.2, lit, hm, hl, hv⟩

lemma answers_of_installs {module : RegistryModule} {s : Process} {table : SyscallTable}
    (hi : module.Leaves table s.table) {n : ℕ} {func : ItemFn}
    (hf : module.Serves n func) : Answers s module n func := by
  obtain ⟨attr, lit, hm, hl, rfl⟩ := hf
  exact ⟨_, hi.marked _ hm lit hl, hi.calls _ hm⟩

lemma initial_sound : Sound mods initial where
  tokens _ _ h := nomatch h
  machines _ _ h := nomatch h
  latest later _ _ _ _ _ h := by
    have := congrArg List.length h
    simp [initial] at this
  silent _ _ := rfl

lemma update_mem {vars : ℕ → Option ℕ} {ran : List ℕ} (h : ∀ x k, vars x = some k → k ∈ ran)
    (x : ℕ) {v : Option ℕ} (hv : ∀ k, v = some k → k ∈ ran) :
    ∀ y k, Function.update vars x v y = some k → k ∈ ran := by
  intro y k hy
  rw [Function.update_apply] at hy
  split at hy
  · exact hv k hy
  · exact h y k hy

lemma sound_registry {s : Process} (hs : Sound mods s) {k r : ℕ}
    {module : RegistryModule} (hk : mods.list[k]? = some module) {table : SyscallTable}
    (hi : module.Leaves s.table table) :
    Sound mods ⟨table, Function.update s.tokens r (some k), s.machines, k :: s.ran⟩ where
  tokens := by
    refine update_mem (fun r' k' h => List.mem_cons_of_mem _ (hs.tokens r' k' h)) r fun k' h => ?_
    cases h
    exact List.mem_cons_self
  machines m k' h := List.mem_cons_of_mem _ (hs.machines m k' h)
  latest later k' earlier module' n func hran hk' hf hlater := by
    cases later with
    | nil =>
      cases hran
      rw [hk] at hk'
      cases hk'
      exact answers_of_installs hi hf
    | cons j later =>
      obtain ⟨rfl, hrest⟩ := List.cons.inj hran
      -- what ran last does not serve `n`, so it left the entry alone
      have hn := hi.others n (not_serves (hlater k List.mem_cons_self module hk))
      obtain ⟨ptr, hp, hh⟩ := hs.latest later k' earlier module' n func hrest hk' hf fun j hj =>
        hlater j (List.mem_cons_of_mem _ hj)
      exact ⟨ptr, hn.trans hp, hh⟩
  silent n h := by
    have hn := hi.others n (not_serves (h k List.mem_cons_self module hk))
    exact hn.trans (hs.silent n fun j hj => h j (List.mem_cons_of_mem _ hj))

lemma sound_vars {s : Process} (hs : Sound mods s) {tokens machines : ℕ → Option ℕ}
    (ht : ∀ r k, tokens r = some k → k ∈ s.ran) (hm : ∀ m k, machines m = some k → k ∈ s.ran) :
    Sound mods { s with tokens, machines } where
  tokens := ht
  machines := hm
  latest := hs.latest
  silent := hs.silent

lemma sound_step {s t : Process} {op : Op} (hs : Sound mods s) (h : step mods s op = some t) :
    Sound mods t := by
  rcases step_cases h with ⟨k, r, module, table, rfl, hk, hi, rfl⟩ | ⟨r, rfl⟩ |
    ⟨r, m, k, hr, rfl⟩ | ⟨m, rfl⟩
  · exact sound_registry hs hk hi
  · exact sound_vars hs (update_mem hs.tokens r fun _ h => nomatch h) hs.machines
  · refine sound_vars hs hs.tokens (update_mem hs.machines m fun k' h => ?_)
    cases h
    exact hs.tokens r k hr
  · exact sound_vars hs hs.tokens (update_mem hs.machines m fun _ h => nomatch h)

lemma sole_of_distinct {k k' : ℕ} {module module' : RegistryModule}
    (hk : mods.list[k]? = some module) (hk' : mods.list[k']? = some module') {s : Process} {n : ℕ}
    {func func' : ItemFn} (h : Answers s module n func) (h' : Answers s module' n func') :
    k = k' := by
  obtain ⟨ptr, hp, hh⟩ := h
  obtain ⟨ptr', hp', hh'⟩ := h'
  cases hp.symm.trans hp'
  have hhome : module.build.home = module'.build.home := by
    rw [handlerOf, Option.ite_none_right_eq_some] at hh hh'
    exact hh.1.symm.trans hh'.1
  have hget := fun i => List.getElem?_map (f := fun m : RegistryModule => m.build.home)
    (l := mods.list) (i := i)
  have hlt : k < (mods.list.map fun m => m.build.home).length := by
    rw [List.length_map]
    exact (List.getElem?_eq_some_iff.mp hk).1
  refine (List.getElem?_inj hlt mods.distinct).mp ?_
  rw [hget, hget, hk, hk', Option.map_some, Option.map_some, hhome]

/-- A registry that is run hands out its token, and the syscalls of a machine are answered by the
functions annotated in its module, wherever no other module that ran claims the same number. -/
structure Served (mods : RegistryModules) (s : Process) : Prop extends Sound mods s where
  ready : ∀ k r module, mods.list[k]? = some module → s.tokens r = none →
    ∃ t, step mods s (.registry k r) = some t ∧ t.tokens r = some k
  own : ∀ m k module n func, s.machines m = some k → mods.list[k]? = some module →
    module.Serves n func →
    (∀ j ∈ s.ran, j ≠ k → ∀ other, mods.list[j]? = some other → ∀ f, ¬ other.Serves n f) →
    Answers s module n func
  sole : ∀ (k k' : ℕ) module module' n func func', mods.list[k]? = some module →
    mods.list[k']? = some module' → Answers s module n func → Answers s module' n func' → k = k'

lemma served_of_sound {s : Process} (hs : Sound mods s) : Served mods s where
  toSound := hs
  ready k r module hk hr := by
    obtain ⟨table, -, h⟩ := registry_step hk s r
    rw [if_pos hr] at h
    exact ⟨_, h, Function.update_self ..⟩
  own m k module n func hm hk hf h := by
    obtain ⟨later, earlier, hran, hlater⟩ := List.eq_append_cons_of_mem (hs.machines m k hm)
    refine hs.latest later k earlier module n func hran hk hf fun j hj => ?_
    refine h j (hran ▸ List.mem_append_left _ hj) ?_
    rintro rfl
    exact hlater hj
  sole _ _ _ _ _ _ _ hk hk' := sole_of_distinct hk hk'

end

def hostItems : List Item :=
  [.fn (hostFunction [syscallAttr (.ofIdent "syscall") hexLiteral] "first" "SyscallContext")]

def host : RegistryModule where
  build := hostBuild
  input := hostModule hostItems
  items := hostItems
  defs := _
  compiled := ⟨rfl, _, rfl, (compile_eq_some rfl).mpr ⟨rfl, by decide⟩⟩
  plain func hm attr ha := by
    cases List.mem_singleton.mp hm
    cases List.mem_singleton.mp ha
    exact ⟨_, _, _, rfl, rfl⟩
  written m hm := hm
  prelude := rfl

example : (run (step ⟨[host], by decide⟩) initial [.registry 0 0, .newMachine 0 0]).map
    (fun s => (s.machines 0, s.table 500, s.table 501)) =
      some (some 0, some ⟨"host", "__libriscv_syscall_trampoline_first"⟩, none) := by
  rfl

end Serving

end Libriscv.Macros

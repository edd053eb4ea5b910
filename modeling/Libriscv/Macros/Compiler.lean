import Mathlib.Data.List.Nodup
import Libriscv.Macros.Handlers
import Libriscv.Syscalls.Registry

/-! What the compiler makes of a module: configuration, the expansion of `syscall`, and its names. -/

namespace Libriscv.Macros

/-- What a value named `Ok` does in the two calls that `register` and `registry` make. -/
structure Captured where
  unit : FfiResult Unit
  token : SyscallRegistry → FfiResult SyscallRegistry

def Captured.prelude : Captured := ⟨pure (), pure⟩

/-- What the compiler knows of a module beside its items. -/
structure Build where
  -- the `cfg` predicates that hold
  holds : Predicate → Bool
  -- the paths that name libriscv's `syscall`
  namesSyscall : Path → Bool
  -- the path of the module in its crate
  home : String := "host"
  -- the parameters that take the `&mut` of a `SyscallContext` that a trampoline has
  contexts : List FnArg → Bool := fun _ => true
  -- the result types that implement `SyscallHandlerOutput`
  outputs : Option Ty → Bool := fun _ => true
  -- the verdict on the code that an item brings, and on what its names shadow in generated code
  accepts : Item → Bool := fun _ => true
  -- a glob import brings in a value named `Ok`
  importsOk : Bool := false
  -- what that value, or one that the module defines, does; `none` if it does not fit the calls
  ownOk : Option Captured := none

namespace Build

variable (build : Build)

mutual

def configureAttr : Attribute → List Attribute
  | .plain path args span => [.plain path args span]
  | .cfg predicate span => [.cfg predicate span]
  | .cfgAttr predicate attrs _ => if build.holds predicate then configureAttrs attrs else []

def configureAttrs : List Attribute → List Attribute
  | [] => []
  | attr :: attrs => configureAttr attr ++ configureAttrs attrs

end

def allows : Attribute → Bool
  | .cfg predicate _ => build.holds predicate
  | _ => true

def enabled (attrs : List Attribute) : Bool := (build.configureAttrs attrs).all build.allows

def expands : Attribute → Bool
  | .plain path _ _ => build.namesSyscall path
  | _ => false

def functionsOf : Item → List ItemFn
  | .fn func => [func]
  | .other attrs functions _ => if build.enabled attrs then functions else []
  | .mod .. | .impl _ => []

def valuesOf : Item → List String
  | .other attrs _ names => if build.enabled attrs then names else []
  | .fn _ | .mod .. | .impl _ => []

/-- The functions that are directly in the module, in their order. -/
def functions (items : List Item) : List ItemFn := items.flatMap build.functionsOf

def values (items : List Item) : List String := items.flatMap build.valuesOf

end Build

inductive Definition
  | function (func : ItemFn)
  | trampoline (callback : Callback) (handler : Ident)
  | handlerConstructor (trampoline : Ident)
  | item

/-- Names with their definitions; a raw identifier names the same thing as a plain one. -/
abbrev Definitions := List (String × Definition)

def Expansion.beside (e : Expansion) : Definitions :=
  [(e.trampoline.name, .trampoline e.callback e.input.sig.ident),
    (e.wrapper.name, .handlerConstructor e.trampoline)]

def checkId (id : LitInt) : Except SynError Unit :=
  if id.value ≥ syscallsMax.toNat then .error ⟨id.span, "syscall id exceeds SYSCALLS_MAX"⟩
  else .ok ()

/-- The parameters and the variable of a trampoline, which its body sees first. -/
def Callback.locals : Callback → List String
  | .syscall => ["m", "ctx"]
  | .error => ["opaque", "type_", "msg", "data", "ctx"]
  | .stdout => ["opaque", "msg", "len", "ctx"]

section

variable (build : Build)

def expandAttrs : List Attribute → ItemFn → Except SynError Definitions
  | [], func => .ok [(func.sig.ident.name, .function func)]
  | attr :: attrs, func =>
    if build.expands attr then do
      let e ← syscall attr.parseArgs func
      e.idChecks.forM checkId
      let defs ← expandAttrs attrs e.input
      .ok (e.beside ++ defs)
    else expandAttrs attrs func

def expandFn (func : ItemFn) : Except SynError Definitions :=
  -- a disabled function is gone before any macro runs on it
  if build.enabled func.attrs then expandAttrs build (build.configureAttrs func.attrs) func
  else .ok []

def expandFns : List ItemFn → Except SynError Definitions
  | [] => .ok []
  | func :: functions => do
    let defs ← expandFn build func
    let rest ← expandFns functions
    .ok (defs ++ rest)

def expandItems (items : List Item) : Except SynError Definitions := do
  let defs ← expandFns build (build.functions items)
  .ok (defs ++ (build.values items).map fun name => (name, .item))

def callable (defs : Definitions) : String × Definition → Bool
  | (_, .trampoline callback handler) =>
    if handler.name ∈ callback.locals then false
    else
      match defs.lookup handler.name with
      | some (.function func) => build.contexts func.sig.inputs && build.outputs func.sig.output
      | _ => false
  | _ => true

/-- What the name `Ok` means in the generated bodies, which write it without a path: the prelude's
comes last. -/
def resolveOk (defs : Definitions) : Option Captured :=
  if build.importsOk = true ∨ "Ok" ∈ defs.map Prod.fst then build.ownOk else some .prelude

def checkItem : Item → Bool
  -- the bodies that the registry macro writes are checked where their names are resolved
  | .fn ⟨_, _, _, .register _⟩ | .fn ⟨_, _, _, .registry⟩ => true
  | .fn func => !build.enabled func.attrs || build.accepts (.fn func)
  | .other attrs functions names =>
    !build.enabled attrs || build.accepts (.other attrs functions names)
  | item => build.accepts item

def WellTyped (items : List Item) (defs : Definitions) : Prop :=
  (defs.map Prod.fst).Nodup ∧ (∀ d ∈ defs, callable build defs d) ∧
    (∀ item ∈ items, checkItem build item) ∧ (resolveOk build defs).isSome

instance (items : List Item) (defs : Definitions) : Decidable (WellTyped build items defs) :=
  inferInstanceAs (Decidable (_ ∧ _ ∧ _ ∧ _))

def compile (module : ItemMod) : Option Definitions :=
  match module.content with
  | none => none
  | some items =>
    match expandItems build items with
    | .error _ => none
    | .ok defs => if WellTyped build items defs then some defs else none

end

section

variable (build : Build)

def expandedOf (func : ItemFn) : List (ItemFn × Attribute) :=
  if build.enabled func.attrs then
    ((build.configureAttrs func.attrs).filter build.expands).map (func, ·)
  else []

/-- The attributes that the compiler expands as libriscv's `syscall`, with their functions. -/
def expanded (items : List Item) : List (ItemFn × Attribute) :=
  (build.functions items).flatMap (expandedOf build)

end

def Plain (build : Build) (attr : Attribute) : Prop :=
  ∃ path args span, attr = .plain path args span ∧ build.namesSyscall path = path.isIdent "syscall"

lemma ok_of_bind {ε α β : Type} {x : Except ε α} {f : α → Except ε β} {b : β}
    (h : x >>= f = .ok b) : ∃ a, x = .ok a ∧ f a = .ok b := by
  cases x with
  | error e => cases h
  | ok a => exact ⟨a, rfl, h⟩

section expansion

variable {build : Build}

lemma configureAttrs_plain {attrs : List Attribute} (h : ∀ attr ∈ attrs, Plain build attr) :
    build.configureAttrs attrs = attrs := by
  induction attrs with
  | nil => rfl
  | cons attr attrs ih =>
    obtain ⟨path, args, span, rfl, _⟩ := h attr List.mem_cons_self
    rw [Build.configureAttrs, Build.configureAttr, ih fun a ha => h a (List.mem_cons_of_mem _ ha)]
    rfl

lemma enabled_plain {attrs : List Attribute} (h : ∀ attr ∈ attrs, Plain build attr) :
    build.enabled attrs = true := by
  rw [Build.enabled, configureAttrs_plain h, List.all_eq_true]
  intro attr ha
  obtain ⟨path, args, span, rfl, _⟩ := h attr ha
  rfl

lemma expands_plain {attr : Attribute} (h : Plain build attr) :
    build.expands attr = attr.isSyscall := by
  obtain ⟨path, args, span, rfl, hp⟩ := h
  exact hp

lemma mem_expandedOf {func : ItemFn} {m : ItemFn × Attribute} : m ∈ expandedOf build func ↔
    m.1 = func ∧ build.enabled func.attrs ∧ m.2 ∈ build.configureAttrs func.attrs ∧
      build.expands m.2 := by
  rw [expandedOf]
  split
  · next he =>
    rw [List.mem_map]
    refine ⟨?_, ?_⟩
    · rintro ⟨attr, ha, rfl⟩
      exact ⟨rfl, he, List.mem_filter.mp ha⟩
    · rintro ⟨rfl, -, ha⟩
      exact ⟨m.2, List.mem_filter.mpr ha, rfl⟩
  · next he => simp [he]

lemma mem_expanded {items : List Item} {m : ItemFn × Attribute} : m ∈ expanded build items ↔
    m.1 ∈ build.functions items ∧ build.enabled m.1.attrs ∧
      m.2 ∈ build.configureAttrs m.1.attrs ∧ build.expands m.2 := by
  rw [expanded, List.mem_flatMap]
  refine ⟨?_, ?_⟩
  · rintro ⟨func, hf, hm⟩
    obtain ⟨rfl, h⟩ := mem_expandedOf.mp hm
    exact ⟨hf, h⟩
  · rintro ⟨hf, h⟩
    exact ⟨m.1, hf, mem_expandedOf.mpr ⟨rfl, h⟩⟩

lemma mem_functions_of_mem {items : List Item} {func : ItemFn} (h : Item.fn func ∈ items) :
    func ∈ build.functions items :=
  List.mem_flatMap.mpr ⟨_, h, List.mem_singleton.mpr rfl⟩

lemma lookup_of_mem {defs : Definitions} (hn : (defs.map Prod.fst).Nodup) {name : String}
    {d : Definition} (h : (name, d) ∈ defs) : defs.lookup name = some d := by
  obtain ⟨before, after, rfl⟩ := List.append_of_mem h
  refine List.lookup_eq_some_iff.mpr ⟨before, after, rfl, fun p hp => ?_⟩
  rw [List.map_append, List.map_cons, List.nodup_middle, List.nodup_cons] at hn
  rw [bne_iff_ne]
  exact fun he => hn.1 (List.mem_append_left _ (List.mem_map.mpr ⟨p, hp, he.symm⟩))

lemma mem_of_lookup {defs : Definitions} {name : String} {d : Definition}
    (h : defs.lookup name = some d) : (name, d) ∈ defs := by
  obtain ⟨before, after, rfl, _⟩ := List.lookup_eq_some_iff.mp h
  exact List.mem_append_right _ List.mem_cons_self

lemma compile_eq_some {out : ItemMod} {items : List Item} (hc : out.content = some items)
    {defs : Definitions} : compile build out = some defs ↔
      expandItems build items = .ok defs ∧ WellTyped build items defs := by
  rw [compile, hc]
  dsimp only
  cases expandItems build items with
  | error e => simp
  | ok defs' =>
    simp only [Option.ite_none_right_eq_some, Option.some.injEq, Except.ok.injEq]
    refine ⟨?_, ?_⟩
    · rintro ⟨hn, rfl⟩
      exact ⟨rfl, hn⟩
    · rintro ⟨rfl, hn⟩
      exact ⟨hn, rfl⟩

end expansion

end Libriscv.Macros

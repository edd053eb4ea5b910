import Libriscv.Foundations.Inventory
import Libriscv.Machines.ForkSteps
import Libriscv.Options.Ownership

/-! Options and machines with the heap blocks that they own and C points into, over whole runs. -/

namespace Libriscv.Storage

open Foundations RoundTrip
open Forks (Oracle Library library)

/-- What libriscv is handed for a machine, and what its builder and its caller promised there. -/
structure Handed where
  elf : Option Pointer
  elfSize : UInt32
  raw : RISCVOptions
  program : Bytes
  told : Told

inductive Value
  | options (o : Options) (told : Told)
  -- `boxed` is the storage of the machine's own copy of its ELF
  | machine (m : Machine) (boxed : Option Pointer)

namespace Value

def blocks : Value → List ℕ
  | .options o _ => o.keepalive.blocks
  | .machine m boxed => boxed.toList.map Pointer.block ++ m.options.keepalive.blocks

def handles : Value → List ℕ
  | .options .. => []
  | .machine m _ => [m.ptr]

end Value

structure State where
  -- every block that was ever allocated, in order
  heap : Heap
  freed : List ℕ
  slots : List (Option Value)
  lib : Library
  handed : Handle → Option Handed

def initial : State := ⟨[], [], [], ⟨0, 0, fun _ => none, []⟩, fun _ => none⟩

def State.memory (s : State) : Heap := s.heap.without s.freed

inductive Op
  | build (calls : List BuilderCall)
  | default
  | new (p : ℕ) (elf : Bytes)
  | fastFork (q p : ℕ)
  | method (p : ℕ) (method : Method)
  | drop (p : ℕ)
  | move (p : ℕ)
  | swap (p q : ℕ)
  deriving DecidableEq, Repr

def boxElf (elf : Bytes) (heap : Heap) : Option Pointer × Heap :=
  -- one that is too long is never copied, and an empty one has no storage
  if elf.length > u32Max ∨ elf = [] then (none, heap)
  else
    let (ptr, heap) := heap.alloc (.bytes elf)
    (some ptr, heap)

def asked (elf : Bytes) (o : Options) : Ffi (Option Machine) := do
  let result ← (Machine.new elf o .empty).run
  pure result.toOption

def forked (parent : Machine) (o : Options) : Ffi (Option Machine) := do
  let result ← (parent.fastFork o).run
  pure (result.toOption.map ForkedMachine.machine)

namespace State

variable (s : State)

def create (p : ℕ) (o : Options) (told : Told) (elf : Bytes) (boxed : Option Pointer) (heap : Heap)
    (made : Option (Option Machine) × Library) : State :=
  match made.1.join with
  | some m => { s with
      heap
      slots := s.slots.set p none ++ [some (.machine m boxed)]
      lib := made.2
      handed := Function.update s.handed m.ptr
        (some ⟨boxed, UInt32.ofNat elf.length, o.raw, elf, told⟩) }
  -- the copy and the options were moved into the call, and go with it
  | none => { s with
      heap
      freed := s.freed ++ (boxed.toList.map Pointer.block ++ o.keepalive.blocks)
      slots := s.slots.set p none
      lib := made.2 }

end State

def step (oracle : Oracle) (s : State) : Op → Option State
  | .build calls =>
    let defaults := oracle s.lib.clock (.foreign (.setDefaults .zeroed))
    let (builder, lib) := OptionsBuilder.new.run (library oracle) s.lib
    builder.map fun builder =>
      match (calls.foldl OptionsBuilder.apply builder).build s.heap with
      | .ok (o, heap) =>
        let told := ⟨lastArgs calls, some (lastExit calls), told defaults calls⟩
        { s with heap, lib, slots := s.slots ++ [some (.options o told)] }
      -- the strings that were made before the error are gone again
      | .error _ => { s with lib }
  | .default =>
    let defaults := oracle s.lib.clock (.foreign (.setDefaults .zeroed))
    let (o, lib) := Options.new.run (library oracle) s.lib
    o.map fun o => { s with lib, slots := s.slots ++ [some (.options o ⟨[], none, told defaults []⟩)] }
  | .new p elf =>
    match s.slots[p]?.join with
    | some (.options o told) =>
      let (boxed, heap) := boxElf elf s.heap
      some (s.create p o told elf boxed heap
        ((asked elf o).run (library oracle) s.lib))
    | _ => none
  | .fastFork q p =>
    match s.slots[q]?.join, s.slots[p]?.join with
    | some (.machine parent _), some (.options o told) =>
      some (s.create p o told [] none s.heap
        ((forked parent o).run (library oracle) s.lib))
    | _, _ => none
  | .method p method =>
    match s.slots[p]?.join with
    | some (.machine m _) =>
      some { s with lib := ((method.perform m).run (library oracle) s.lib).2 }
    | _ => none
  | .drop p =>
    match s.slots[p]?.join with
    | some (.options o _) =>
      some { s with freed := s.freed ++ o.keepalive.blocks, slots := s.slots.set p none }
    | some (.machine m boxed) =>
      -- the fields are dropped after `Drop::drop`
      some { s with
        freed := s.freed ++ (boxed.toList.map Pointer.block ++ m.options.keepalive.blocks)
        slots := s.slots.set p none
        lib := (m.drop.run (library oracle) s.lib).2 }
    | none => none
  | .move p =>
    s.slots[p]?.join.map fun v => { s with slots := s.slots.set p none ++ [some v] }
  | .swap p q =>
    match s.slots[p]?.join, s.slots[q]?.join with
    | some v, some w =>
      if p = q then none else some { s with slots := (s.slots.set p (some w)).set q (some v) }
    | _, _ => none

def readElf (memory : Heap) (elf : Option Pointer) (size : UInt32) : Option Bytes :=
  match elf with
  | none => if size = 0 then some [] else none
  | some p => memory.readBytes p size.toNat

/-- What an operation does to blocks and handles, whatever libriscv answers. -/
inductive Effect (s : State) : State → Prop
  | quiet {lib : Library} (hl : Forks.Unchanged s.lib lib) : Effect s { s with lib }
  | built {o : Options} {told : Told} {heap : Heap} {lib : Library} {k : ℕ}
      (hl : Forks.Unchanged s.lib lib) (hh : s.heap <+: heap) (hk : heap.length = s.heap.length + k)
      (hb : o.keepalive.blocks = List.range' s.heap.length k)
      (hc : Covers heap o.raw o.keepalive told) :
      Effect s { s with heap, lib, slots := s.slots ++ [some (.options o told)] }
  | born {p : ℕ} {o : Options} {m : Machine} {x : Handed} {heap : Heap} {lib : Library} {k : ℕ}
      (hv : s.slots[p]? = some (some (.options o x.told))) (hm : m.ptr = s.lib.created)
      (hc : lib.created = s.lib.created + 1) (hd : lib.deleted = s.lib.deleted)
      (hkeep : m.options.keepalive = o.keepalive) (hraw : x.raw = o.raw) (hh : s.heap <+: heap)
      (hk : heap.length = s.heap.length + k)
      (hb : x.elf.toList.map Pointer.block = List.range' s.heap.length k)
      (hread : readElf heap x.elf x.elfSize = some x.program) :
      Effect s { s with
        heap
        slots := s.slots.set p none ++ [some (.machine m x.elf)]
        lib
        handed := Function.update s.handed m.ptr (some x) }
  | lost {p : ℕ} {o : Options} {told : Told} {heap : Heap} {lib : Library} {k : ℕ}
      (hv : s.slots[p]? = some (some (.options o told))) (hl : Forks.Unchanged s.lib lib)
      (hh : s.heap <+: heap) (hk : heap.length = s.heap.length + k) :
      Effect s { s with
        heap
        freed := s.freed ++ (List.range' s.heap.length k ++ o.keepalive.blocks)
        slots := s.slots.set p none
        lib }
  | died {p : ℕ} {m : Machine} {boxed : Option Pointer} {lib : Library}
      (hv : s.slots[p]? = some (some (.machine m boxed))) (hc : lib.created = s.lib.created)
      (hd : lib.deleted = m.ptr :: s.lib.deleted) :
      Effect s { s with
        freed := s.freed ++ (Value.machine m boxed).blocks
        slots := s.slots.set p none
        lib }
  | moved {p : ℕ} {v : Value} (hv : s.slots[p]? = some (some v)) :
      Effect s { s with slots := s.slots.set p none ++ [some v] }
  | swapped {p q : ℕ} {v w : Value} (hv : s.slots[p]? = some (some v))
      (hw : s.slots[q]? = some (some w)) (hne : p ≠ q) :
      Effect s { s with slots := (s.slots.set p (some w)).set q (some v) }

section effect

variable {s : State} (oracle : Oracle)

lemma boxElf_spec (elf : Bytes) (heap : Heap) : ∃ k, heap <+: (boxElf elf heap).2 ∧
    (boxElf elf heap).2.length = heap.length + k ∧
    (boxElf elf heap).1.toList.map Pointer.block = List.range' heap.length k ∧
    (¬ elf.length > u32Max →
      readElf (boxElf elf heap).2 (boxElf elf heap).1 (UInt32.ofNat elf.length) = some elf) := by
  rw [boxElf]
  split
  · next h =>
    refine ⟨0, List.prefix_refl _, rfl, rfl, fun hn => ?_⟩
    obtain rfl := h.resolve_left hn
    rfl
  · refine ⟨1, Heap.extend_alloc heap _, List.length_append, rfl, fun hn => ?_⟩
    rw [readElf, toNat_ofNat_short hn]
    exact Heap.readBytes_alloc heap elf

lemma value_of_join {α β : Type} {p : Ffi (Option α)} {Q : α → Prop} {H : Handler native β} {l : β}
    (hp : p.Always (fun _ => True) fun r => ∀ a, r = some a → Q a) {a : α}
    (h : (p.run H l).1.join = some a) : Q a := by
  have hr : p.run H l = (some (some a), (p.run H l).2) :=
    Prod.ext (Option.join_eq_some_iff.mp h) rfl
  exact Program.always_value H l hp hr a rfl

lemma asked_made {elf : Bytes} {o : Options} {l : Library} {m : Machine}
    (h : ((asked elf o).run (library oracle) l).1.join = some m) :
    m.options.keepalive = o.keepalive ∧ ¬ elf.length > u32Max := by
  refine value_of_join (Q := fun m => m.options.keepalive = o.keepalive ∧ ¬ elf.length > u32Max) ?_ h
  simp only [asked, Machine.new]
  split
  · rintro _ ⟨⟩
  · next hn =>
    refine ⟨trivial, fun ptr => ?_⟩
    cases ptr with
    | none => rintro _ ⟨⟩
    | some ptr =>
      rintro _ ⟨⟩
      exact ⟨rfl, hn⟩

lemma forked_made {parent : Machine} {o : Options} {l : Library} {m : Machine}
    (h : ((forked parent o).run (library oracle) l).1.join = some m) :
    m.options.keepalive = o.keepalive := by
  refine value_of_join (p := forked parent o) (Q := fun m => m.options.keepalive = o.keepalive)
    ⟨trivial, fun answer => ?_⟩ h
  rcases answer with ⟨_ | ptr, raw⟩
  · rintro _ ⟨⟩
  · rintro _ ⟨⟩
    rfl

lemma create_effect {p : ℕ} {o : Options} {told : Told} {elf : Bytes} {boxed : Option Pointer}
    {heap : Heap} {k : ℕ} {parent : Handle → Option Handle}
    {made : Option (Option Machine) × Library}
    (hv : s.slots[p]? = some (some (.options o told))) (hmade : Forks.Makes s.lib parent made)
    (hh : s.heap <+: heap) (hk : heap.length = s.heap.length + k)
    (hb : boxed.toList.map Pointer.block = List.range' s.heap.length k)
    (hm : ∀ m, made.1.join = some m → m.options.keepalive = o.keepalive ∧
      readElf heap boxed (UInt32.ofNat elf.length) = some elf) :
    Effect s (s.create p o told elf boxed heap made) := by
  rw [State.create]
  rcases hmade with ⟨hnone, hl⟩ | ⟨m, hsome, hptr, hc, _, hd⟩
  · rw [hnone, hb]
    exact .lost hv hl hh hk
  · obtain ⟨hkeep, hread⟩ := hm m hsome
    rw [hsome]
    exact .born (x := ⟨boxed, UInt32.ofNat elf.length, o.raw, elf, told⟩) hv hptr hc hd hkeep rfl hh hk
      hb hread

lemma default_covers (defaults : RISCVOptions) (heap : Heap) :
    Covers heap (told defaults []) .empty ⟨[], none, told defaults []⟩ where
  strings := rfl
  symbol _ he := nomatch he
  unset _ := rfl
  plain := rfl
  table _ ha := nomatch ha
  exitBlock hn := absurd rfl hn

lemma slot_some {p : ℕ} {v : Value} (h : s.slots[p]?.join = some v) : s.slots[p]? = some (some v) :=
  Option.join_eq_some_iff.mp h

lemma effect_of_step {op : Op} {t : State} (h : step oracle s op = some t) : Effect s t := by
  cases op with
  | build calls =>
    let defaults := oracle s.lib.clock (.foreign (.setDefaults .zeroed))
    generalize hb : calls.foldl OptionsBuilder.apply ⟨told defaults [], [], none⟩ = builder
    have hargs : builder.args = lastArgs calls := by rw [← hb, apply_args]; rfl
    have hexit : builder.defaultExitFunction = lastExit calls := by rw [← hb, apply_exit]; rfl
    have hraw : builder.raw = told defaults calls := by rw [← hb, apply_raw _ _ defaults rfl]
    change some (match (calls.foldl OptionsBuilder.apply ⟨told defaults [], [], none⟩).build s.heap with
      | .ok (o, heap) => _
      | .error _ => _) = some t at h
    rw [hb] at h
    obtain rfl := Option.some.inj h
    split
    · next o heap ho =>
      obtain ⟨hh, hblocks, hc⟩ := build_covers ho
      rw [hargs, hexit, hraw] at hc
      exact .built ⟨rfl, rfl, rfl⟩ hh (Nat.add_sub_of_le hh.length_le).symm hblocks hc
    · exact .quiet ⟨rfl, rfl, rfl⟩
  | default =>
    cases h
    exact .built (k := 0) ⟨rfl, rfl, rfl⟩ (List.prefix_refl _) rfl rfl (default_covers _ _)
  | new p elf =>
    simp only [step] at h
    split at h
    · next o told hv =>
      cases h
      obtain ⟨k, hh, hk, hb, hread⟩ := boxElf_spec elf s.heap
      refine create_effect (slot_some hv) (Forks.run_new oracle s.lib elf o) hh hk hb fun m hm => ?_
      obtain ⟨hkeep, hn⟩ := asked_made oracle hm
      exact ⟨hkeep, hread hn⟩
    · cases h
  | fastFork q p =>
    simp only [step] at h
    split at h
    · next parent boxed o told hq hv =>
      cases h
      exact create_effect (k := 0) (slot_some hv) (Forks.run_fastFork oracle s.lib parent o)
        (List.prefix_refl _) rfl rfl fun m hm => ⟨forked_made oracle hm, rfl⟩
    · cases h
  | method p method =>
    simp only [step] at h
    split at h
    · next m boxed hv =>
      cases h
      exact .quiet (Forks.unchanged_of_stays oracle s.lib (Method.perform_stays m method))
    · cases h
  | drop p =>
    simp only [step] at h
    split at h
    · next o told hv =>
      cases h
      exact .lost (k := 0) (slot_some hv) ⟨rfl, rfl, rfl⟩ (List.prefix_refl _) rfl
    · next m boxed hv =>
      cases h
      exact .died (slot_some hv) rfl rfl
    · cases h
  | move p =>
    obtain ⟨v, hv, rfl⟩ := Option.map_eq_some_iff.mp h
    exact .moved (slot_some hv)
  | swap p q =>
    simp only [step] at h
    split at h
    · next v w hv hw =>
      split at h
      · cases h
      · next hne =>
        cases h
        exact .swapped (slot_some hv) (slot_some hw) hne
    · cases h

end effect

end Libriscv.Storage

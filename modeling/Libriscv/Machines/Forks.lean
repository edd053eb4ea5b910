import Libriscv.Foundations.Runs
import Libriscv.Machines.Methods

/-! Runs of safe code over machines and forks: places, borrows, and the handles behind them. -/

namespace Libriscv.Forks

open Foundations

structure Library where
  clock : ℕ
  created : ℕ
  parent : Handle → Option Handle
  deleted : List Handle

/-- The answers that libriscv is free to choose, for each moment. -/
abbrev Oracle := ℕ → (a : Action) → a.Answer

def library (oracle : Oracle) : Handler native Library
  | .foreign (.new elf n options), s =>
    if (oracle s.clock (.foreign (.new elf n options))).isSome then
      (some s.created, { s with clock := s.clock + 1, created := s.created + 1 })
    else (none, { s with clock := s.clock + 1 })
  | .foreign (.fastFork parent options), s =>
    let answer := oracle s.clock (.foreign (.fastFork parent options))
    if answer.1.isSome then
      ((some s.created, answer.2), { s with
        clock := s.clock + 1
        created := s.created + 1
        parent := Function.update s.parent s.created (some parent) })
    else ((none, answer.2), { s with clock := s.clock + 1 })
  | .foreign (.delete m), s =>
    (oracle s.clock (.foreign (.delete m)),
      { s with clock := s.clock + 1, deleted := m :: s.deleted })
  | a, s => (oracle s.clock a, { s with clock := s.clock + 1 })

/-- A variable, a field or an element. A place is filled at most once: refilling one that was moved
out of, or dropped, makes a new place. -/
abbrev Place := ℕ

inductive Storage
  | elf (owner : Handle)
  | options (owner : Handle)
  deriving DecidableEq, Repr

def Storage.owner : Storage → Handle
  | .elf owner | .options owner => owner

structure Owned where
  machine : Machine
  elf : Storage
  options : Storage
  deriving DecidableEq, Repr

def Owned.fresh (machine : Machine) : Owned := ⟨machine, .elf machine.ptr, .options machine.ptr⟩

inductive Value
  | machine (inner : Owned)
  | forked (inner : Owned) (parent : Place)
  -- A fork past its last use. `ForkedMachine` has no `Drop` of its own, and its `PhantomData` none
  -- either, so the borrow ends here and not where the fork is dropped.
  | spent (inner : Owned) (parent : Place)
  deriving DecidableEq, Repr

namespace Value

def inner : Value → Owned
  | .machine inner | .forked inner _ | .spent inner _ => inner

def usable : Value → Bool
  | .machine _ | .forked .. => true
  | .spent .. => false

/-- The place that a fork was made from. -/
def origin : Value → Option Place
  | .machine _ => none
  | .forked _ parent | .spent _ parent => some parent

def borrows : Value → Option Place
  | .forked _ parent => some parent
  | .machine _ | .spent .. => none

def setInner (inner : Owned) : Value → Value
  | .machine _ => .machine inner
  | .forked _ parent => .forked inner parent
  | .spent _ parent => .spent inner parent

end Value

abbrev Places := List (Option Value)

namespace Places

def at? (places : Places) (p : Place) : Option Value := places[p]?.join

def borrowed (places : Places) (p : Place) : Bool :=
  places.any fun v => v.bind Value.borrows == some p

def push (places : Places) (v : Option Value) : Places := places ++ [v]

def move (places : Places) (p : Place) : Places := (places.push (places.at? p)).set p none

def swap (places : Places) (p q : Place) : Places :=
  match places.at? p, places.at? q with
  | some v, some w => (places.set p (some (v.setInner w.inner))).set q (some (w.setInner v.inner))
  | _, _ => places

def spend (places : Places) (p : Place) : Places :=
  match places.at? p with
  | some (.forked inner parent) => places.set p (some (.spent inner parent))
  | _ => places

end Places

structure State where
  places : Places
  lib : Library
  freed : List Storage

def initial : State := ⟨[], ⟨0, 0, fun _ => none, []⟩, []⟩

inductive Op
  | new (elf : Bytes) (options : Options)
  | fastFork (p : Place) (options : Options)
  | method (p : Place) (method : Method)
  | transferArenaFrom (p q : Place)
  -- the fork in `p` was used for the last time, and so were the forks made from it
  | lastUse (p : Place)
  | drop (p : Place)
  | move (p : Place)
  | swap (p q : Place)
  -- `std::mem::replace(&mut *p, q)`; its result goes to a new place
  | replace (p q : Place)
  deriving DecidableEq, Repr

namespace State

variable (s : State)

def owned (p : Place) : Option Owned := (s.places.at? p).map Value.inner

def usable (p : Place) : Bool := (s.places.at? p).any Value.usable

def exclusive (p : Place) : Bool := s.usable p && !s.places.borrowed p

def plain (p : Place) : Bool :=
  match s.places.at? p with
  | some (.machine _) => true
  | _ => false

def live (p : Place) : Bool :=
  match s.places.at? p with
  | some (.forked ..) => true
  | _ => false

def accepts : Op → Bool
  | .new .. => true
  | .fastFork p _ => s.usable p
  | .method p method => if method.exclusive then s.exclusive p else s.usable p
  | .transferArenaFrom p q => s.exclusive p && s.usable q && p != q
  | .lastUse p => s.live p && !s.places.borrowed p
  -- a spent fork is dropped where its scope ends
  | .drop p => (s.places.at? p).isSome && !s.places.borrowed p
  | .move p => s.exclusive p
  | .swap p q => s.exclusive p && s.exclusive q && p != q
  | .replace p q => s.exclusive p && s.exclusive q && s.plain q && p != q

def program : Op → Ffi (Option Machine)
  | .new elf options => do
    let result ← (Machine.new elf options .empty).run
    pure result.toOption
  | .fastFork p options =>
    match s.owned p with
    | none => pure none
    | some parent => do
      let result ← (parent.machine.fastFork options).run
      pure (result.toOption.map ForkedMachine.machine)
  | .method p method =>
    match s.owned p with
    | none => pure none
    | some self => do
      method.perform self.machine
      pure none
  | .transferArenaFrom p q =>
    match s.owned p, s.owned q with
    | some self, some source => do
      let _ ← (self.machine.transferArenaFrom source.machine).run
      pure none
    | _, _ => pure none
  | .drop p =>
    match s.owned p with
    | none => pure none
    | some self => do
      self.machine.drop
      pure none
  | .lastUse _ | .move _ | .swap .. | .replace .. => pure none

def rearrange (made : Option Machine) : Op → Places
  | .new .. =>
    match made with
    | none => s.places
    | some m => s.places.push (some (.machine (.fresh m)))
  | .fastFork p _ =>
    match made with
    | none => s.places
    | some m => s.places.push (some (.forked (.fresh m) p))
  | .method .. | .transferArenaFrom .. => s.places
  | .lastUse p => s.places.spend p
  | .drop p => s.places.set p none
  | .move p => s.places.move p
  | .swap p q => s.places.swap p q
  | .replace p q => (s.places.swap p q).move q

def frees : Op → List Storage
  | .drop p =>
    match s.owned p with
    | none => []
    -- the fields of a machine are freed after its `Drop::drop`
    | some self => [self.elf, self.options]
  | _ => []

end State

def step (oracle : Oracle) (s : State) (op : Op) : Option State :=
  if s.accepts op then
    let (made, lib) := (s.program op).run (library oracle) s.lib
    some ⟨s.rearrange made.join op, lib, s.freed ++ s.frees op⟩
  else none

def ForkOf (lib : Library) (h parent : Handle) : Prop := lib.parent h = some parent

/-- No fork outlives an ancestor, and no accepted operation calls C on a fork that did. -/
structure Safe (oracle : Oracle) (s : State) : Prop where
  alive : ∀ h a, Relation.TransGen (ForkOf s.lib) h a → h ∉ s.lib.deleted →
    a ∉ s.lib.deleted ∧ .elf a ∉ s.freed ∧ .options a ∉ s.freed
  calls : ∀ op, s.accepts op → ∀ c ∈ foreignCalls ((s.program op).trace (library oracle) s.lib),
    ∀ h ∈ c.handles, ∀ a, Relation.TransGen (ForkOf s.lib) h a → a ∉ s.lib.deleted

end Libriscv.Forks

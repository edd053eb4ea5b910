import Libriscv.Foundations.Runs

/-! References that are lent for one call, typed by how long they are good, and runs of many calls. -/

namespace Libriscv.Foundations

inductive Region
  | call
  | static
  deriving DecidableEq, Repr

def Region.Outlives : Region → Region → Prop
  | static, _ => True
  | call, r => r = call

inductive Place
  | stack (x : ℕ)
  | global (x : ℕ)
  deriving DecidableEq, Repr

inductive Statement
  | fetch (dst : Place)
  | copy (dst src : Place)
  | read (src : Place)
  deriving DecidableEq, Repr

structure Body where
  regions : ℕ → Region
  statements : List Statement

def Body.regionOf (body : Body) : Place → Region
  | .stack x => body.regions x
  | .global _ => .static

/-- The borrow checker's rule: a reference is only put where it is not kept longer than it is good. -/
def Typed (r : Region) (body : Body) : Statement → Prop
  | .fetch dst => r.Outlives (body.regionOf dst)
  | .copy dst src => (body.regionOf src).Outlives (body.regionOf dst)
  | .read _ => True

def WellTyped (r : Region) (body : Body) : Prop := ∀ s ∈ body.statements, Typed r body s

structure Borrow (P : Type) where
  call : ℕ
  ptr : P
  deriving DecidableEq, Repr

abbrev References (P : Type) := Place → Option (Borrow P)

section

variable {P : Type}

def exec (call : ℕ) (own : Option P) (refs : References P) : Statement → Option (References P)
  | .fetch dst => some (Function.update refs dst (own.map fun ptr => ⟨call, ptr⟩))
  | .copy dst src => some (Function.update refs dst (refs src))
  | .read src =>
    match refs src with
    | none => some refs
    -- the buffer is gone once the call it was borrowed in has returned
    | some b => if b.call = call then some refs else none

structure Session (P : Type) where
  calls : ℕ
  globals : ℕ → Option (Borrow P)

def Session.start : Session P := ⟨0, fun _ => none⟩

def enter (globals : ℕ → Option (Borrow P)) : References P
  | .stack _ => none
  | .global x => globals x

structure Visit (P : Type) where
  own : Option P
  body : Body

def visit (s : Session P) (v : Visit P) : Option (Session P) := do
  let refs ← run (exec s.calls v.own) (enter s.globals) v.body.statements
  some ⟨s.calls + 1, fun x => refs (.global x)⟩

def Sound (call : ℕ) (body : Body) (refs : References P) : Prop :=
  ∀ place b, refs place = some b → b.call = call ∧ body.regionOf place = .call

variable {call : ℕ} {body : Body} {refs : References P}

lemma sound_exec (own : Option P) (h : Sound call body refs) {s : Statement} (ht : Typed .call body s) :
    ∃ refs', exec call own refs s = some refs' ∧ Sound call body refs' := by
  cases s with
  | fetch dst =>
    refine ⟨_, rfl, fun place b hb => ?_⟩
    rw [Function.update_apply] at hb
    split at hb
    · next he =>
      obtain ⟨ptr, _, rfl⟩ := Option.map_eq_some_iff.mp hb
      exact ⟨rfl, he ▸ ht⟩
    · exact h place b hb
  | copy dst src =>
    refine ⟨_, rfl, fun place b hb => ?_⟩
    rw [Function.update_apply] at hb
    split at hb
    · next he =>
      obtain ⟨hc, hr⟩ := h src b hb
      rw [Typed, hr] at ht
      exact ⟨hc, he ▸ ht⟩
    · exact h place b hb
  | read src =>
    refine ⟨refs, ?_, h⟩
    rw [exec]
    cases hb : refs src with
    | none => rfl
    | some b => exact if_pos (h src b hb).1

lemma sound_run (own : Option P) (h : Sound call body refs) {statements : List Statement}
    (ht : ∀ s ∈ statements, Typed .call body s) :
    ∃ refs', run (exec call own) refs statements = some refs' ∧ Sound call body refs' := by
  induction statements generalizing refs with
  | nil => exact ⟨refs, rfl, h⟩
  | cons s statements ih =>
    obtain ⟨refs₁, he, h₁⟩ := sound_exec own h (ht s List.mem_cons_self)
    obtain ⟨refs₂, hr, h₂⟩ := ih h₁ fun s hs => ht s (List.mem_cons_of_mem _ hs)
    exact ⟨refs₂, run_cons_some he hr, h₂⟩

lemma visit_call {s : Session P} {v : Visit P} (hg : ∀ x, s.globals x = none)
    (ht : WellTyped .call v.body) : ∃ t, visit s v = some t ∧ ∀ x, t.globals x = none := by
  have hs : Sound s.calls v.body (enter s.globals) := by
    rintro (x | x) b hb
    · cases hb
    · rw [enter, hg] at hb
      cases hb
  obtain ⟨refs, hr, hm⟩ := sound_run v.own hs ht
  refine ⟨⟨s.calls + 1, fun x => refs (.global x)⟩, ?_, fun x => ?_⟩
  · rw [visit, hr]
    rfl
  · by_contra hx
    obtain ⟨b, hb⟩ := Option.ne_none_iff_exists'.mp hx
    cases (hm _ b hb).2

theorem visits_call {visits : List (Visit P)} (ht : ∀ v ∈ visits, WellTyped .call v.body)
    {s : Session P} (hg : ∀ x, s.globals x = none) : (run visit s visits).isSome := by
  induction visits generalizing s with
  | nil => rfl
  | cons v visits ih =>
    obtain ⟨t, hv, hg'⟩ := visit_call hg (ht v List.mem_cons_self)
    rw [run, hv]
    exact ih (fun v hv => ht v (List.mem_cons_of_mem _ hv)) hg'

def keepBody : Body := ⟨fun _ => .call, [.fetch (.global 0)]⟩
def readBody : Body := ⟨fun _ => .call, [.read (.global 0)]⟩

lemma keepBody_typed : WellTyped .static keepBody := by
  intro s hs
  rw [List.mem_singleton.mp hs]
  trivial

lemma readBody_typed (r : Region) : WellTyped r readBody := by
  intro s hs
  rw [List.mem_singleton.mp hs]
  trivial

lemma late_read (ptr : P) (own : Option P) :
    run visit .start [⟨some ptr, keepBody⟩, ⟨own, readBody⟩] = none := rfl

end

end Libriscv.Foundations

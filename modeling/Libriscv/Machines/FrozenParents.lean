import Libriscv.Machines.ForkSafety

/-! A machine with a live fork is only read, and its wrapper stays where it is. -/

namespace Libriscv

open Foundations

/-- The machines that a call gets through a shared borrow only. -/
def CCall.reads : CCall → List Handle
  | .fastFork m _ | .returnValue m | .addressOf m _ | .opaquePtr m | .instructionCounter m
  | .instructionLimitReached m | .isForked m | .getParentPageData m _ | .hasArena m
  | .arenaHighWatermark m | .heapAddress m | .stackInitial m | .ownedPagesActive m => [m]
  | .transferArena _ src => [src]
  | _ => []

def Action.OnlyReads (a : Action) : Prop := ∀ c, a = .foreign c → c.handles = c.reads

lemma Method.perform_reads (self : Machine) {method : Method} (h : method.exclusive = false) :
    (method.perform self).Always Action.OnlyReads fun _ => True := by
  have hone {c : CCall} (hc : c.handles = c.reads) : (Action.foreign c).OnlyReads := by
    rintro _ ⟨⟩
    exact hc
  cases method with
  | returnValue | opaquePtr | instructionCounter | instructionLimitReached | isForked
  | parentPage pageNumber | hasArena | arenaHighWatermark | heapAddress | initialStackPointer
  | ownedPagesActive => exact ⟨hone rfl, fun _ => trivial⟩
  | addressOf name =>
    simp only [Method.perform, Method.ignore, Machine.addressOf, cString]
    split
    · trivial
    · exact ⟨hone rfl, fun _ => trivial⟩
  | _ => cases h

namespace Forks

/-- A fork of the machine, or a fork of a fork, can still be used. -/
def HasFork (s : State) (a : Handle) : Prop := ∃ p v, s.places.at? p = some v ∧
  v.usable = true ∧ Relation.TransGen (ForkOf s.lib) v.inner.machine.ptr a

/-- C only reads a machine with a live fork, and whatever place holds it still holds it after every
accepted operation. -/
structure Frozen (oracle : Oracle) (s : State) : Prop where
  calls : ∀ op, s.accepts op → ∀ c ∈ foreignCalls ((s.program op).trace (library oracle) s.lib),
    ∀ a ∈ c.handles, HasFork s a → a ∈ c.reads
  places : ∀ op t, step oracle s op = some t → ∀ p v, s.places.at? p = some v →
    HasFork s v.inner.machine.ptr → t.places.at? p = some v

section frozen

variable {s t : State}

lemma kept_of_fork (hs : Sound s) (hg : Steady Value.loan s) {p : Place} {a : Handle}
    (hp : (ties s.places).Holds p a) (ha : HasFork s a) : (loans s.places).Kept p := by
  obtain ⟨x, v, hv, hu, hva⟩ := ha
  have hx : (loans s.places).Holds x v.inner.machine.ptr :=
    ⟨_, (layout_at hv).trans (wraps_loan.usable v hu), rfl⟩
  obtain ⟨q, ⟨c, hc, hca⟩, hk⟩ := hg.guarded.ancestor_kept hx hva
  have hq : (ties s.places).Holds q a := ⟨c, layout_of_loans wraps_tie hc, hca⟩
  rwa [hs.accounted.unique p q a (Layout.contents_eq_some.mpr hp) (Layout.contents_eq_some.mpr hq)]

def Spares (s : State) (a : Action) : Prop := ∀ c, a = .foreign c → ∀ h ∈ c.handles,
  h ∈ c.reads ∨ ∃ p, (ties s.places).Holds p h ∧ ¬ (loans s.places).Kept p

lemma spares_of_reads {a : Action} (h : a.OnlyReads) : Spares s a := by
  rintro c hc x hx
  exact .inl (h c hc ▸ hx)

lemma spares_of_within {p : Place} {v : Value} (hv : s.places.at? p = some v)
    (hp : ¬ (loans s.places).Kept p) {a : Action} (h : a.Within [v.inner.machine.ptr]) :
    Spares s a := by
  rintro c rfl x hx
  rw [List.mem_singleton.mp (h.1 x hx)]
  exact .inr ⟨p, holds_at hv, hp⟩

lemma program_spares {op : Op} (ha : s.accepts op) :
    (s.program op).Always (Spares s) fun _ => True := by
  cases op with
  | new elf options =>
    simp only [State.program, Machine.new]
    split
    · trivial
    · refine ⟨?_, fun ptr => by cases ptr <;> trivial⟩
      rintro c ⟨⟩ h hh
      cases hh
  | fastFork p options =>
    obtain ⟨v, hv, _⟩ := usable_iff.mp ha
    simp only [State.program, owned_at hv]
    refine ⟨?_, fun answer => by rcases answer with ⟨_ | ptr, raw⟩ <;> trivial⟩
    rintro c ⟨⟩ h hh
    exact .inl hh
  | method p method =>
    cases he : method.exclusive with
    | true =>
      rw [State.accepts, if_pos he] at ha
      obtain ⟨⟨v, hv, _⟩, hp⟩ := exclusive_iff.mp ha
      exact Program.always_mono (method_stays (owned_at hv) method)
        (fun _ => spares_of_within hv hp) fun _ => id
    | false =>
      obtain ⟨v, hv⟩ := occupied_of_accepts ha
      simp only [State.program, owned_at hv]
      refine Program.always_bind (Program.always_mono
        (Method.perform_reads v.inner.machine he) (fun _ => spares_of_reads) fun _ => id) ?_
      exact fun _ _ => trivial
  | transferArenaFrom p q =>
    obtain ⟨⟨v, hv⟩, ⟨w, hw⟩⟩ := occupied_of_transfer ha
    simp only [State.accepts, Bool.and_eq_true] at ha
    have hp := (exclusive_iff.mp ha.1.1).2
    simp only [State.program, owned_at hv, owned_at hw]
    refine Program.always_bind (p := (v.inner.machine.transferArenaFrom w.inner.machine).run)
      ⟨?_, fun code => checkCode_always _ _ ?_⟩ fun _ _ => trivial
    · rintro c ⟨⟩ h hh
      rcases List.mem_pair.mp hh with rfl | rfl
      · exact .inr ⟨p, holds_at hv, hp⟩
      · exact .inl List.mem_cons_self
    · rintro c ⟨⟩ h hh
      cases hh
  | drop p =>
    obtain ⟨⟨v, hv⟩, hp⟩ := droppable_iff.mp ha
    simp only [State.program, owned_at hv]
    refine ⟨?_, fun _ => trivial⟩
    rintro c ⟨⟩ h hh
    rw [List.mem_singleton.mp hh]
    exact .inr ⟨p, holds_at hv, hp⟩
  | lastUse p | move p | swap p q | replace p q => trivial

lemma at?_move {places : Places} {p q : Place} {v w : Value} (hv : places.at? p = some v)
    (hw : places.at? q = some w) (hne : q ≠ p) : (places.move p).at? q = some w := by
  have hp : p < (places.push (places.at? p)).length := by
    rw [Places.push, List.length_append]
    exact Nat.lt_add_right _ (lt_length hv)
  rw [Places.move, at?_set hp, Function.update_of_ne hne, at?_push,
    Function.update_of_ne (lt_length hw).ne, hw]

lemma at?_swap_of_ne {places : Places} {p q x : Place} {v w u : Value}
    (hv : places.at? p = some v) (hw : places.at? q = some w) (hu : places.at? x = some u)
    (hp : x ≠ p) (hq : x ≠ q) : (places.swap p q).at? x = some u := by
  rw [swap_eq hv hw, at?_set (lt_length_set hw _), Function.update_of_ne hq, at?_set (lt_length hv),
    Function.update_of_ne hp, hu]

lemma effect_spares {op : Op} (h : Effect s op t) {x : Place} {u : Value}
    (hu : s.places.at? x = some u) (hk : (loans s.places).Kept x) : t.places.at? x = some u := by
  have hne {p : Place} (hp : ¬ (loans s.places).Kept p) : x ≠ p := by
    rintro rfl
    exact hp hk
  cases h with
  | still hl => exact hu
  | made | forked =>
    change (Places.push _ _).at? x = _
    rw [at?_push, Function.update_of_ne (lt_length hu).ne, hu]
  | spent hv hb =>
    change Places.at? (s.places.spend _) x = _
    rw [spend_eq hv, at?_set (lt_length hv), Function.update_of_ne (hne hb), hu]
  | dropped hv hb =>
    change Places.at? (s.places.set _ none) x = _
    rw [at?_set (lt_length hv), Function.update_of_ne (hne hb), hu]
  | moved hv hb => exact at?_move hv hu (hne hb)
  | swapped hv hw hvu hwu hb hq => exact at?_swap_of_ne hv hw hu (hne hb) (hne hq)
  | replaced hv hw hvu hwu hb hq =>
    exact at?_move (at?_swap hv hw) (at?_swap_of_ne hv hw hu (hne hb) (hne hq)) (hne hq)

lemma frozen_of_steady (oracle : Oracle) (hs : Sound s) (hg : Steady Value.loan s) :
    Frozen oracle s where
  calls op ha c hc a hh hf := by
    obtain ⟨action, haction, hca⟩ := List.mem_filterMap.mp hc
    have hspares := Program.always_trace (library oracle) s.lib (program_spares ha) action haction
    cases action with
    | load view | store view bytes => cases hca
    | foreign c' =>
      cases hca
      refine (hspares c rfl a hh).resolve_right ?_
      rintro ⟨p, hp, hk⟩
      exact hk (kept_of_fork hs hg hp hf)
  places op t h p v hv hf :=
    effect_spares (effect_of_step oracle h) hv (kept_of_fork hs hg (holds_at hv) hf)

end frozen

def Op.exchanges : Op → Bool
  | .swap .. | .replace .. => true
  | _ => false

lemma returns_of_no_exchange {oracle : Oracle} {ops : List Op}
    (h : ∀ op ∈ ops, op.exchanges = false) : EveryStep (step oracle) Returns initial ops := by
  intro earlier op s t hp _ _
  have ho := h op (hp.subset (List.mem_append_right earlier (List.mem_singleton.mpr rfl)))
  cases op with
  | swap | replace => cases ho
  | _ => trivial

/-- In every run that returns forks to where their borrow is, a machine with a live fork is only
read by C and keeps its place. -/
theorem parents_stay_frozen (oracle : Oracle) (ops : List Op)
    (hr : EveryStep (step oracle) Returns initial ops) :
    Throughout (step oracle) (Frozen oracle) initial ops := by
  have hkeep := steady_throughout oracle wraps_loan (fun _ _ ha hc => ⟨clear_loan ha, hc⟩) hr
  intro earlier t hp ht
  obtain ⟨hs, hsteady⟩ := hkeep earlier t hp ht
  exact frozen_of_steady oracle hs hsteady

theorem fork_of_fork_freezes : Throughout (step granting) (Frozen granting) initial
    [.new [] blank, .fastFork 0 blank, .fastFork 1 blank, .method 0 .returnValue,
      .method 2 (.run 10), .lastUse 2, .method 1 (.run 10), .lastUse 1, .method 0 (.run 10)] :=
  parents_stay_frozen granting _ (returns_of_no_exchange (by decide))

end Forks

end Libriscv

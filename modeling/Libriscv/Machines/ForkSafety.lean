import Libriscv.Machines.ForkInvariant

/-! When no fork outlives an ancestor: parents stay in place until their forks are dropped, and
forks go back to where their borrow is. -/

namespace Libriscv.Forks

open Foundations

/-- In an exchange every fork goes to a place whose wrapper borrows, directly or through other
forks, the place that holds the machine it was forked from. -/
def Returns (s : State) : Op → Prop
  | .swap p q | .replace p q => ∀ v w, s.places.at? p = some v → s.places.at? q = some w →
      (loans s.places).Secures s.lib.parent ⟨w.inner.machine.ptr, v.borrows⟩ ∧
      (loans s.places).Secures s.lib.parent ⟨v.inner.machine.ptr, w.borrows⟩
  | _ => True

def Places.tied (places : Places) (p : Place) : Bool :=
  places.any fun v => v.bind Value.origin == some p

/-- A place is dropped, moved out of or exchanged after the forks made from it are dropped, those
past their last use included. -/
def Waits (s : State) : Op → Prop
  | .drop p | .move p => s.places.tied p = false
  | .swap p q | .replace p q => s.places.tied p = false ∧ s.places.tied q = false
  | _ => True

def Ordered (s : State) (op : Op) : Prop := Waits s op ∧ Returns s op

section steady

variable (cell : Value → Option (Cell Place Handle))

structure Steady (s : State) : Prop where
  occupied : (layout cell s.places).Occupied
  guarded : (layout cell s.places).Guarded s.lib.parent

/-- What an operation takes away is kept by no cell. -/
def Clear (s : State) : Op → Prop
  | .lastUse p => ∀ o parent, s.places.at? p = some (.forked o parent) →
      cell (.spent o parent) = cell (.forked o parent) ∨
        cell (.spent o parent) = none ∧ ¬ (layout cell s.places).Kept p
  | .drop p | .move p => ¬ (layout cell s.places).Kept p
  | .swap p q | .replace p q =>
      ¬ (layout cell s.places).Kept p ∧ ¬ (layout cell s.places).Kept q
  | _ => True

variable {cell} {s t : State} {op : Op}

lemma unkept_of_untied {p : Place} (h : s.places.tied p = false) : ¬ (ties s.places).Kept p := by
  have htie : ∀ v : Option Value, v.bind Value.origin = (v.bind Value.tie).bind Cell.keeps := by
    intro v
    rcases v with _ | _ | _ | _ <;> rfl
  simp only [Places.tied, htie] at h
  rw [kept_iff, h]
  exact Bool.false_ne_true

lemma clear_tie (h : Waits s op) : Clear Value.tie s op := by
  cases op with
  | new | fastFork | method | transferArenaFrom => trivial
  | lastUse p => exact fun _ _ _ => .inl rfl
  | drop p | move p => exact unkept_of_untied h
  | swap p q | replace p q => exact ⟨unkept_of_untied h.1, unkept_of_untied h.2⟩

lemma clear_loan (ha : s.accepts op = true) : Clear Value.loan s op := by
  cases op with
  | new | fastFork | method | transferArenaFrom => trivial
  | lastUse p =>
    simp only [State.accepts, Bool.and_eq_true] at ha
    exact fun _ _ _ => .inr ⟨rfl, unborrowed_iff.mp ha.2⟩
  | drop p => exact (droppable_iff.mp ha).2
  | move p => exact (exclusive_iff.mp ha).2
  | swap p q =>
    simp only [State.accepts, Bool.and_eq_true] at ha
    exact ⟨(exclusive_iff.mp ha.1.1).2, (exclusive_iff.mp ha.1.2).2⟩
  | replace p q =>
    simp only [State.accepts, Bool.and_eq_true] at ha
    exact ⟨(exclusive_iff.mp ha.1.1.1).2, (exclusive_iff.mp ha.1.1.2).2⟩

lemma held_lt (W : Wraps cell) (hs : Sound s) {p : Place} {c : Cell Place Handle}
    (hc : layout cell s.places p = some c) : c.held < s.lib.created := by
  obtain ⟨v, hv, hvc⟩ := Option.bind_eq_some_iff.mp hc
  rw [W.held v c hvc]
  exact hs.accounted.made_of_held (contents_at hv)

lemma parent_fresh (hs : Sound s) : s.lib.parent s.lib.created = none := by
  cases h : s.lib.parent s.lib.created with
  | none => rfl
  | some parent => exact absurd (hs.parents _ _ h) (lt_irrefl _)

lemma Steady.length_unkept (h : Steady cell s) : ¬ (layout cell s.places).Kept s.places.length :=
  fun hk => h.occupied _ hk (layout_length _)

lemma Steady.swap (W : Wraps cell) (h : Steady cell s) {p q : Place} {v w : Value}
    (hv : s.places.at? p = some v) (hw : s.places.at? q = some w) (hvu : v.usable = true)
    (hwu : w.usable = true) (hp : ¬ (layout cell s.places).Kept p)
    (hq : ¬ (layout cell s.places).Kept q)
    (hsp : (loans s.places).Secures s.lib.parent ⟨w.inner.machine.ptr, v.borrows⟩)
    (hsq : (loans s.places).Secures s.lib.parent ⟨v.inner.machine.ptr, w.borrows⟩) :
    Steady cell ⟨s.places.swap p q, s.lib, s.freed⟩ := by
  have hc := W.usable v hvu
  have hd := W.usable w hwu
  have hcp := (layout_at hv).trans hc
  have hdq := (layout_at hw).trans hd
  have hl : ∀ x c, loans s.places x = some c → layout cell s.places x = some c :=
    fun _ _ => layout_of_loans W
  constructor
  · rw [layout_swap W hv hw hc hd]
    exact h.occupied.exchange hcp hdq hp hq
  · rw [layout_swap W hv hw hc hd]
    exact h.guarded.exchange hcp hdq hp hq (hsp.mono hl) (hsq.mono hl)

lemma Steady.move (h : Steady cell s) {p : Place} {v : Value} (hv : s.places.at? p = some v)
    (hp : ¬ (layout cell s.places).Kept p) : Steady cell ⟨s.places.move p, s.lib, s.freed⟩ := by
  constructor
  · rw [layout_move hv]
    exact h.occupied.move hp (layout_length _)
  · rw [layout_move hv]
    exact h.guarded.move h.occupied hp (layout_length _)

lemma steady_step (W : Wraps cell) (hs : Sound s) (h : Steady cell s) (hc : Clear cell s op)
    (hr : Returns s op) (he : Effect s op t) : Steady cell t := by
  cases he with
  | still hl => exact ⟨h.occupied, by simpa only [hl.parent] using h.guarded⟩
  | @made _ _ m lib hm hcr hp hd =>
    have hcell := W.usable (.machine (.fresh m)) rfl
    constructor
    · rw [layout_push, Option.bind_some, hcell]
      refine h.occupied.update h.length_unkept ?_
      rintro _ k ⟨⟩ hk
      cases hk
    · simp only [layout_push, hp, Option.bind_some, hcell]
      refine h.guarded.update h.length_unkept ?_
      rintro _ ⟨⟩
      refine ⟨fun r hr => ?_, fun he => by cases he⟩
      change s.lib.parent m.ptr = some r at hr
      rw [hm, parent_fresh hs] at hr
      cases hr
  | @forked p _ v m lib hv hu hm hcr hp hd =>
    have hcell := W.usable (.forked (.fresh m) p) rfl
    have hat := (layout_at hv).trans (W.usable v hu)
    have hne : p ≠ s.places.length := (lt_length hv).ne
    constructor
    · rw [layout_push, Option.bind_some, hcell]
      refine h.occupied.update h.length_unkept ?_
      rintro _ _ ⟨⟩ ⟨⟩
      rw [hat]
      exact ⟨Option.some_ne_none _, hne⟩
    · simp only [layout_push, hp, Option.bind_some, hcell]
      have hparent : (layout cell s.places).Guarded
          (Function.update s.lib.parent s.lib.created (some v.inner.machine.ptr)) := by
        intro q c hc
        exact (h.guarded q c hc).congr (Function.update_of_ne (held_lt W hs hc).ne _ _)
      refine hparent.update h.length_unkept ?_
      rintro _ ⟨⟩
      refine ⟨fun r hr => ?_, fun he => hne (Option.some.inj he)⟩
      change Function.update s.lib.parent s.lib.created _ m.ptr = some r at hr
      rw [hm, Function.update_self] at hr
      exact ⟨p, p, rfl, .refl, _, hat, Option.some.inj hr⟩
  | @spent p o parent hv hb =>
    rcases hc o parent hv with hsame | ⟨hnone, hk⟩
    · have hl : layout cell (s.places.spend p) = layout cell s.places := by
        have hat : layout cell s.places p = cell (.forked o parent) := layout_at hv
        rw [layout_spend hv, hsame, ← hat, Function.update_eq_self]
      exact ⟨hl ▸ h.occupied, hl ▸ h.guarded⟩
    · constructor
      · rw [layout_spend hv, hnone]
        exact h.occupied.update hk fun _ _ he => by cases he
      · rw [layout_spend hv, hnone]
        exact h.guarded.update hk fun _ he => by cases he
  | dropped hv hb hcr hp hd =>
    constructor
    · rw [layout_set (lt_length hv)]
      exact h.occupied.update hc fun _ _ he => by cases he
    · simp only [layout_set (lt_length hv), hp]
      exact h.guarded.update hc fun _ he => by cases he
  | moved hv hb => exact h.move hv hc
  | swapped hv hw hvu hwu hb hq hne =>
    obtain ⟨hsp, hsq⟩ := hr _ _ hv hw
    exact h.swap W hv hw hvu hwu hc.1 hc.2 hsp hsq
  | @replaced p q v w hv hw hvu hwu hb hq hne =>
    -- a replacement is an exchange, and then a move out of the second place
    obtain ⟨hsp, hsq⟩ := hr _ _ hv hw
    refine (h.swap W hv hw hvu hwu hc.1 hc.2 hsp hsq).move (at?_swap hv hw) ?_
    exact unkept_swap W hv hw (W.usable v hvu) (W.usable w hwu) hc.2

/-- What a condition on the steps keeps, in every run from the start: soundness needs no condition,
and only sound states stay steady. -/
lemma steady_throughout (oracle : Oracle) (W : Wraps cell) {C : State → Op → Prop}
    (hC : ∀ s op, s.accepts op = true → C s op → Clear cell s op ∧ Returns s op) {ops : List Op}
    (hr : EveryStep (step oracle) C initial ops) :
    Throughout (step oracle) (fun s => Sound s ∧ Steady cell s) initial ops := by
  have hsound : Throughout (step oracle) Sound initial ops :=
    throughout_of_step sound_initial fun _ _ _ hs h => sound_step hs (effect_of_step oracle h)
  have hempty : ∀ p, layout cell initial.places p = none := fun p => rfl
  have hsteady : Throughout (step oracle) (Steady cell) initial ops := by
    refine throughout_of_everyStep hsound ⟨?_, ?_⟩ (fun s op t hs hsteady hc h => ?_) hr
    · rintro q ⟨p, c, hc, _⟩
      rw [hempty] at hc
      cases hc
    · intro p c hc
      rw [hempty] at hc
      cases hc
    · obtain ⟨hclear, hreturns⟩ := hC s op (accepts_of_step oracle h) hc
      exact steady_step W hs hsteady hclear hreturns (effect_of_step oracle h)
  exact fun earlier t hp ht => ⟨hsound earlier t hp ht, hsteady earlier t hp ht⟩

end steady

section safe

variable {s : State} (oracle : Oracle)

def Names (s : State) (a : Action) : Prop :=
  ∀ c, a = .foreign c → ∀ h ∈ c.handles, ∃ p, (ties s.places).Holds p h

lemma names_of_within {machines : List Handle}
    (hm : ∀ h ∈ machines, ∃ p, (ties s.places).Holds p h) {a : Action} (ha : a.Within machines) :
    Names s a := by
  rintro c rfl h hh
  exact hm h (ha.1 h hh)

lemma names_of_stays {α : Type} {machines : List Handle} {p : Ffi α}
    (hm : ∀ h ∈ machines, ∃ p, (ties s.places).Holds p h) (hp : Stays machines p) :
    p.Always (Names s) fun _ => True :=
  Program.always_mono hp (fun _ => names_of_within hm) fun _ => id

lemma holds_at {p : Place} {v : Value} (hv : s.places.at? p = some v) :
    (ties s.places).Holds p v.inner.machine.ptr := ⟨_, layout_at hv, rfl⟩

lemma program_names {op : Op} (ha : s.accepts op) :
    (s.program op).Always (Names s) fun _ => True := by
  cases op with
  | new elf options =>
    simp only [State.program, Machine.new]
    split
    · trivial
    · refine ⟨?_, fun ptr => by cases ptr <;> trivial⟩
      rintro c ⟨⟩ h hh
      cases hh
  | fastFork p options =>
    obtain ⟨v, hv, _⟩ := usable_iff.mp ha
    simp only [State.program, owned_at hv]
    refine ⟨?_, fun answer => by rcases answer with ⟨_ | ptr, raw⟩ <;> trivial⟩
    rintro c ⟨⟩ h hh
    obtain rfl := List.mem_singleton.mp hh
    exact ⟨p, holds_at hv⟩
  | method p method =>
    obtain ⟨v, hv⟩ := occupied_of_accepts ha
    refine names_of_stays (fun h hh => ?_) (method_stays (owned_at hv) method)
    obtain rfl := List.mem_singleton.mp hh
    exact ⟨p, holds_at hv⟩
  | transferArenaFrom p q =>
    obtain ⟨⟨v, hv⟩, ⟨w, hw⟩⟩ := occupied_of_transfer ha
    refine names_of_stays (fun h hh => ?_) (transfer_stays (owned_at hv) (owned_at hw))
    rcases List.mem_pair.mp hh with rfl | rfl
    · exact ⟨p, holds_at hv⟩
    · exact ⟨q, holds_at hw⟩
  | drop p =>
    obtain ⟨⟨v, hv⟩, _⟩ := droppable_iff.mp ha
    simp only [State.program, owned_at hv]
    refine ⟨?_, fun _ => trivial⟩
    rintro c ⟨⟩ h hh
    obtain rfl := List.mem_singleton.mp hh
    exact ⟨p, holds_at hv⟩
  | lastUse p | move p | swap p q | replace p q => trivial

lemma ancestor_alive (hs : Sound s) (h : Steady Value.tie s) {p : Place} {r a : Handle}
    (hr : (ties s.places).Holds p r) (ha : Relation.TransGen (ForkOf s.lib) r a) :
    a ∉ s.lib.deleted := by
  obtain ⟨q, hq⟩ := h.guarded.ancestor_held hr ha
  exact hs.accounted.apart q a (Layout.contents_eq_some.mpr hq)

lemma safe_of_steady (hs : Sound s) (hg : Steady Value.tie s) : Safe oracle s where
  alive h a ha hh := by
    -- a machine that was made and not deleted is held, and then its ancestors are held too
    obtain ⟨parent, hp, _⟩ := Relation.TransGen.head'_iff.mp ha
    obtain ⟨p, hp⟩ := hs.accounted.held_of_made (hs.parents h parent hp) hh
    have hn := ancestor_alive hs hg (Layout.contents_eq_some.mp hp) ha
    exact ⟨hn, fun hf => hn (hs.freed _ hf), fun hf => hn (hs.freed _ hf)⟩
  calls op ho c hc h hh a ha := by
    obtain ⟨action, hm, he⟩ := List.mem_filterMap.mp hc
    have hn := Program.always_trace (library oracle) s.lib (program_names ho) action hm
    cases action with
    | foreign c' =>
      cases he
      obtain ⟨p, hp⟩ := hn c rfl h hh
      exact ancestor_alive hs hg hp ha
    | load | store => cases he

/-- In every run that keeps parents in place until their forks are dropped, and returns forks to
where their borrow is, no fork outlives an ancestor. -/
theorem forks_never_outlive (ops : List Op)
    (hr : EveryStep (step oracle) Ordered initial ops) :
    Throughout (step oracle) (Safe oracle) initial ops := by
  have hkeep := steady_throughout oracle wraps_tie
    (fun _ _ _ hc => ⟨clear_tie hc.1, hc.2⟩) hr
  intro earlier t hp ht
  obtain ⟨hs, hsteady⟩ := hkeep earlier t hp ht
  exact safe_of_steady oracle hs hsteady

end safe

def granting : Oracle
  | _, .foreign (.new ..) => some 0
  | _, .foreign (.fastFork _ options) => (some 0, options)
  | _, .foreign c => (default : c.Answer)
  | _, .load _ => []
  | _, .store .. => ()

section examples

def blank : Options := ⟨.zeroed, .empty⟩

def blankMachine (h : Handle) : Owned := .fresh ⟨h, [], blank⟩

def forkOfFirst (h : Handle) (parent : Handle → Option Handle) : Handle → Option Handle :=
  Function.update parent h (some 0)

theorem sibling_forks_exchange : Throughout (step granting) (Safe granting) initial
    [.new [] blank, .fastFork 0 blank, .fastFork 0 blank, .swap 1 2, .drop 1,
      .lastUse 2, .method 0 (.run 10), .drop 2, .drop 0] := by
  let p1 := forkOfFirst 1 fun _ => none
  let p2 := forkOfFirst 2 p1
  let o := blankMachine
  let free (h : Handle) : List Storage := [.elf h, .options h]
  refine forks_never_outlive granting _ ?_
  refine everyStep_cons (t := ⟨[some (.machine (o 0))], ⟨1, 1, fun _ => none, []⟩, []⟩)
    rfl ⟨trivial, trivial⟩ ?_
  refine everyStep_cons (t := ⟨[some (.machine (o 0)), some (.forked (o 1) 0)],
    ⟨2, 2, p1, []⟩, []⟩) rfl ⟨trivial, trivial⟩ ?_
  refine everyStep_cons (t := ⟨[some (.machine (o 0)), some (.forked (o 1) 0),
    some (.forked (o 2) 0)], ⟨3, 3, p2, []⟩, []⟩) rfl ⟨trivial, trivial⟩ ?_
  refine everyStep_cons (t := ⟨[some (.machine (o 0)), some (.forked (o 2) 0),
    some (.forked (o 1) 0)], ⟨3, 3, p2, []⟩, []⟩) rfl ⟨⟨rfl, rfl⟩, ?_⟩ ?_
  · rintro v w ⟨⟩ ⟨⟩
    refine ⟨fun r hr => ?_, fun r hr => ?_⟩
    all_goals
      obtain rfl : 0 = r := Option.some.inj hr
      exact ⟨0, 0, rfl, .refl, _, rfl, rfl⟩
  refine everyStep_cons (t := ⟨[some (.machine (o 0)), none, some (.forked (o 1) 0)],
    ⟨4, 3, p2, [2]⟩, free 2⟩) rfl ⟨rfl, trivial⟩ ?_
  refine everyStep_cons (t := ⟨[some (.machine (o 0)), none, some (.spent (o 1) 0)],
    ⟨4, 3, p2, [2]⟩, free 2⟩) rfl ⟨trivial, trivial⟩ ?_
  refine everyStep_cons (t := ⟨[some (.machine (o 0)), none, some (.spent (o 1) 0)],
    ⟨5, 3, p2, [2]⟩, free 2⟩) rfl ⟨trivial, trivial⟩ ?_
  refine everyStep_cons (t := ⟨[some (.machine (o 0)), none, none],
    ⟨6, 3, p2, [1, 2]⟩, free 2 ++ free 1⟩) rfl ⟨rfl, trivial⟩ ?_
  exact everyStep_cons (t := ⟨[none, none, none],
    ⟨7, 3, p2, [0, 1, 2]⟩, free 2 ++ free 1 ++ free 0⟩) rfl ⟨rfl, trivial⟩ everyStep_nil

/-- A fork that was swapped into a plain machine, and one that is past its last use. -/
theorem forks_outlive_parents :
    (∃ s, run (step granting) initial [.new [] blank, .new [] blank, .fastFork 0 blank, .swap 2 1,
        .drop 2, .drop 0] = some s ∧ s.places.at? 1 = some (.machine (blankMachine 2)) ∧
      s.lib.parent 2 = some 0 ∧ 0 ∈ s.lib.deleted ∧ 2 ∉ s.lib.deleted ∧ ¬ Safe granting s) ∧
    ∃ s, run (step granting) initial [.new [] blank, .fastFork 0 blank, .lastUse 1, .drop 0] =
        some s ∧ s.places.at? 1 = some (.spent (blankMachine 1) 0) ∧ s.lib.parent 1 = some 0 ∧
      0 ∈ s.lib.deleted ∧ 1 ∉ s.lib.deleted ∧ ¬ Safe granting s := by
  let o := blankMachine
  constructor
  · let parent := forkOfFirst 2 fun _ => none
    have hrun : run (step granting) initial [.new [] blank, .new [] blank, .fastFork 0 blank,
        .swap 2 1, .drop 2, .drop 0] = some ⟨[none, some (.machine (o 2)), none],
          ⟨5, 3, parent, [0, 1]⟩, [.elf 1, .options 1, .elf 0, .options 0]⟩ := by
      refine run_cons_some (t := ⟨[some (.machine (o 0))], ⟨1, 1, fun _ => none, []⟩, []⟩) rfl ?_
      refine run_cons_some (t := ⟨[some (.machine (o 0)), some (.machine (o 1))],
        ⟨2, 2, fun _ => none, []⟩, []⟩) rfl ?_
      refine run_cons_some (t := ⟨[some (.machine (o 0)), some (.machine (o 1)),
        some (.forked (o 2) 0)], ⟨3, 3, parent, []⟩, []⟩) rfl ?_
      refine run_cons_some (t := ⟨[some (.machine (o 0)), some (.machine (o 2)),
        some (.forked (o 1) 0)], ⟨3, 3, parent, []⟩, []⟩) rfl ?_
      refine run_cons_some (t := ⟨[some (.machine (o 0)), some (.machine (o 2)), none],
        ⟨4, 3, parent, [1]⟩, [.elf 1, .options 1]⟩) rfl ?_
      exact run_cons_some rfl rfl
    refine ⟨_, hrun, rfl, rfl, by decide, by decide, fun h => ?_⟩
    exact (h.alive 2 0 (.single rfl) (by decide)).1 (by decide)
  · let parent := forkOfFirst 1 fun _ => none
    have hrun : run (step granting) initial [.new [] blank, .fastFork 0 blank, .lastUse 1,
        .drop 0] = some ⟨[none, some (.spent (o 1) 0)], ⟨3, 2, parent, [0]⟩,
          [.elf 0, .options 0]⟩ := by
      refine run_cons_some (t := ⟨[some (.machine (o 0))], ⟨1, 1, fun _ => none, []⟩, []⟩) rfl ?_
      refine run_cons_some (t := ⟨[some (.machine (o 0)), some (.forked (o 1) 0)],
        ⟨2, 2, parent, []⟩, []⟩) rfl ?_
      refine run_cons_some (t := ⟨[some (.machine (o 0)), some (.spent (o 1) 0)],
        ⟨2, 2, parent, []⟩, []⟩) rfl ?_
      exact run_cons_some rfl rfl
    refine ⟨_, hrun, rfl, rfl, by decide, by decide, fun h => ?_⟩
    exact (h.alive 1 0 (.single rfl) (by decide)).1 (by decide)

end examples

end Libriscv.Forks

import Libriscv.Foundations.Guarded
import Libriscv.Machines.Forks

/-! What one step does to places, borrows and handles. -/

namespace Libriscv.Forks

open Foundations

section places

variable {places : Places} {p q : Place} {v w : Value}

lemma lt_length (h : places.at? p = some v) : p < places.length := by
  by_contra hn
  rw [Places.at?, List.getElem?_eq_none (not_lt.mp hn)] at h
  cases h

lemma at?_length (places : Places) : places.at? places.length = none := by
  rw [Places.at?, List.getElem?_eq_none le_rfl]
  rfl

lemma at?_push (x : Option Value) :
    (places.push x).at? = Function.update places.at? places.length x := by
  funext y
  unfold Places.push Places.at?
  by_cases hy : y = places.length
  · subst hy
    rw [Function.update_self, List.getElem?_concat_length]
    rfl
  · rw [Function.update_of_ne hy]
    by_cases hlt : y < places.length
    · rw [List.getElem?_append_left hlt]
    · have hle : places.length + 1 ≤ y := lt_of_le_of_ne (not_lt.mp hlt) (Ne.symm hy)
      rw [List.getElem?_eq_none (by simpa using hle), List.getElem?_eq_none (not_lt.mp hlt)]

lemma at?_set (hp : p < places.length) (x : Option Value) :
    (Places.at? (places.set p x)) = Function.update places.at? p x := by
  funext y
  unfold Places.at?
  by_cases hy : y = p
  · subst hy
    rw [Function.update_self, List.getElem?_set_self hp]
    rfl
  · rw [Function.update_of_ne hy, List.getElem?_set_ne (Ne.symm hy)]

/-- What stays tied to its origin until it is dropped. -/
def Value.tie (v : Value) : Option (Cell Place Handle) := some ⟨v.inner.machine.ptr, v.origin⟩

/-- What can still be used, with the place that it borrows. -/
def Value.loan (v : Value) : Option (Cell Place Handle) :=
  if v.usable then some ⟨v.inner.machine.ptr, v.borrows⟩ else none

/-- A reading of a value as a cell that an exchange of the machine inside leaves as it is. -/
structure Wraps (cell : Value → Option (Cell Place Handle)) : Prop where
  held : ∀ v c, cell v = some c → c.held = v.inner.machine.ptr
  setInner : ∀ v c o, cell v = some c → cell (v.setInner o) = some ⟨o.machine.ptr, c.keeps⟩
  usable : ∀ v, v.usable = true → cell v = some ⟨v.inner.machine.ptr, v.borrows⟩

lemma wraps_tie : Wraps Value.tie where
  held := by
    rintro v _ ⟨⟩
    rfl
  setInner := by
    rintro v _ o ⟨⟩
    cases v <;> rfl
  usable v h := by
    cases v with
    | machine | forked => rfl
    | spent => cases h

lemma usable_of_loan {c : Cell Place Handle} (h : v.loan = some c) :
    v.usable = true ∧ ⟨v.inner.machine.ptr, v.borrows⟩ = c := by
  rw [Value.loan] at h
  split at h
  · next hu => exact ⟨hu, Option.some.inj h⟩
  · cases h

lemma wraps_loan : Wraps Value.loan where
  held v c h := by
    obtain ⟨_, rfl⟩ := usable_of_loan h
    rfl
  setInner v c o h := by
    obtain ⟨hu, rfl⟩ := usable_of_loan h
    cases v with
    | machine | forked => rfl
    | spent => cases hu
  usable v h := by rw [Value.loan, if_pos h]

section layout

variable (cell : Value → Option (Cell Place Handle))

def layout (places : Places) : Layout Place Handle := fun p => (places.at? p).bind cell

variable {cell}

lemma layout_at (h : places.at? p = some v) : layout cell places p = cell v := by
  rw [layout, h, Option.bind_some]

lemma layout_length (places : Places) : layout cell places places.length = none := by
  rw [layout, at?_length, Option.bind_none]

lemma layout_update {places' : Places} {x : Option Value}
    (h : places'.at? = Function.update places.at? p x) :
    layout cell places' = Function.update (layout cell places) p (x.bind cell) := by
  have hc := Function.comp_update (fun x : Option Value => x.bind cell) places.at? p x
  rw [← h] at hc
  exact hc

lemma layout_push (x : Option Value) : layout cell (places.push x) =
    Function.update (layout cell places) places.length (x.bind cell) := layout_update (at?_push x)

lemma layout_set (hp : p < places.length) (x : Option Value) : layout cell (places.set p x) =
    Function.update (layout cell places) p (x.bind cell) := layout_update (at?_set hp x)

lemma layout_move (h : places.at? p = some v) :
    layout cell (places.move p) = (layout cell places).move p places.length := by
  have hp : p < (places.push (places.at? p)).length := by
    rw [Places.push, List.length_append]
    exact Nat.lt_add_right _ (lt_length h)
  rw [Places.move, layout_set hp, layout_push]
  rfl

lemma spend_eq {o : Owned} {parent : Place} (h : places.at? p = some (.forked o parent)) :
    places.spend p = places.set p (some (.spent o parent)) := by rw [Places.spend, h]

lemma layout_spend {o : Owned} {parent : Place} (h : places.at? p = some (.forked o parent)) :
    layout cell (places.spend p) =
      Function.update (layout cell places) p (cell (.spent o parent)) := by
  rw [spend_eq h, layout_set (lt_length h), Option.bind_some]

lemma swap_eq (hv : places.at? p = some v) (hw : places.at? q = some w) : places.swap p q =
    (places.set p (some (v.setInner w.inner))).set q (some (w.setInner v.inner)) := by
  rw [Places.swap, hv, hw]

lemma lt_length_set (hw : places.at? q = some w) (x : Option Value) :
    q < (places.set p x).length := by
  rw [List.length_set]
  exact lt_length hw

lemma layout_swap (W : Wraps cell) {c d : Cell Place Handle} (hv : places.at? p = some v)
    (hw : places.at? q = some w) (hc : cell v = some c) (hd : cell w = some d) :
    layout cell (places.swap p q) = (layout cell places).exchange p q c d := by
  rw [swap_eq hv hw, layout_set (lt_length_set hw _), layout_set (lt_length hv), Layout.exchange,
    Option.bind_some, Option.bind_some, W.setInner v c _ hc, W.setInner w d _ hd, W.held v c hc,
    W.held w d hd]

end layout

abbrev ties (places : Places) : Layout Place Handle := layout Value.tie places

abbrev loans (places : Places) : Layout Place Handle := layout Value.loan places

lemma layout_of_loans {cell : Value → Option (Cell Place Handle)} (W : Wraps cell)
    {c : Cell Place Handle} (h : loans places p = some c) : layout cell places p = some c := by
  obtain ⟨v, hv, hc⟩ := Option.bind_eq_some_iff.mp h
  obtain ⟨hu, rfl⟩ := usable_of_loan hc
  rw [layout_at hv, W.usable v hu]

lemma kept_iff {cell : Value → Option (Cell Place Handle)} : (layout cell places).Kept p ↔
    places.any (fun v => (v.bind cell).bind Cell.keeps == some p) = true := by
  rw [List.any_eq_true]
  refine ⟨?_, ?_⟩
  · rintro ⟨i, c, hc, hp⟩
    obtain ⟨v, hv, hvc⟩ := Option.bind_eq_some_iff.mp hc
    refine ⟨some v, List.mem_of_getElem? (Option.join_eq_some_iff.mp hv), ?_⟩
    rw [Option.bind_some, hvc, Option.bind_some, hp, beq_self_eq_true]
  · rintro ⟨x, hx, hp⟩
    obtain ⟨c, hc, hk⟩ := Option.bind_eq_some_iff.mp (beq_iff_eq.mp hp)
    obtain ⟨i, hi⟩ := List.mem_iff_getElem?.mp hx
    exact ⟨i, c, by rwa [layout, Places.at?, hi], hk⟩

lemma borrowed_iff : places.borrowed p = true ↔ (loans places).Kept p := by
  have hloan : ∀ v : Option Value, v.bind Value.borrows = (v.bind Value.loan).bind Cell.keeps := by
    intro v
    rcases v with _ | _ | _ | _ <;> rfl
  simp only [kept_iff, Places.borrowed, hloan]

end places

section library

structure Unchanged (l l' : Library) : Prop where
  created : l'.created = l.created
  parent : l'.parent = l.parent
  deleted : l'.deleted = l.deleted

variable (oracle : Oracle) (l : Library)

lemma unchanged_within {machines : List Handle} {a : Action} {t : Library}
    (ha : a.Within machines) (ht : Unchanged l t) : Unchanged l (library oracle a t).2 := by
  cases a with
  | load | store => exact ⟨ht.created, ht.parent, ht.deleted⟩
  | foreign c =>
    obtain ⟨_, hc⟩ := ha
    cases c with
    | new | fastFork | delete => cases hc
    | _ => exact ⟨ht.created, ht.parent, ht.deleted⟩

lemma unchanged_of_stays {α : Type} {machines : List Handle} {p : Ffi α} (hp : Stays machines p) :
    Unchanged l (p.run (library oracle) l).2 :=
  Program.always_state (library oracle) l hp (fun _ _ ha ht => unchanged_within oracle l ha ht)
    ⟨rfl, rfl, rfl⟩

def Makes (parent : Handle → Option Handle) (r : Option (Option Machine) × Library) : Prop :=
  r.1.join = none ∧ Unchanged l r.2 ∨ ∃ m, r.1.join = some m ∧ m.ptr = l.created ∧
    r.2.created = l.created + 1 ∧ r.2.parent = parent ∧ r.2.deleted = l.deleted

lemma run_new (elf : Bytes) (options : Options) : Makes l l.parent
    (((Machine.new elf options .empty).run >>= fun r => pure r.toOption).run (library oracle) l) := by
  by_cases h : elf.length > u32Max
  · rw [Machine.new, if_pos h]
    exact .inl ⟨rfl, rfl, rfl, rfl⟩
  · let c : CCall := .new elf (UInt32.ofNat elf.length) options.raw
    let next (ptr : Option Handle) : Ffi (Option Machine) := .ret (ptr.map fun ptr => ⟨ptr, elf, options⟩)
    have hp : (Machine.new elf options .empty).run >>= (fun r => pure r.toOption) =
        Program.call (I := native) (.foreign c) next := by
      rw [Machine.new, if_neg h]
      refine congrArg (Program.call (I := native) (.foreign c)) (funext fun ptr => ?_)
      cases ptr <;> rfl
    rw [hp, Program.run_call, library]
    split
    · exact .inr ⟨_, rfl, rfl, rfl, rfl, rfl⟩
    · exact .inl ⟨rfl, rfl, rfl, rfl⟩

lemma run_fastFork (parent : Machine) (options : Options) :
    Makes l (Function.update l.parent l.created (some parent.ptr))
      (((parent.fastFork options).run >>= fun r =>
        pure (r.toOption.map ForkedMachine.machine)).run (library oracle) l) := by
  let next (answer : Option Handle × RISCVOptions) : Ffi (Option Machine) :=
    .ret (answer.1.map fun ptr => ⟨ptr, [], { options with raw := answer.2 }⟩)
  have hp : (parent.fastFork options).run >>= (fun r => pure (r.toOption.map ForkedMachine.machine)) =
      Program.call (I := native) (.foreign (.fastFork parent.ptr options.raw)) next := by
    refine congrArg (Program.call (I := native) (.foreign (.fastFork parent.ptr options.raw)))
      (funext fun answer => ?_)
    rcases answer with ⟨_ | ptr, raw⟩ <;> rfl
  rw [hp, Program.run_call, library]
  dsimp only
  split
  · exact .inr ⟨_, rfl, rfl, rfl, rfl, rfl⟩
  · exact .inl ⟨rfl, rfl, rfl, rfl⟩

end library

inductive Effect (s : State) : Op → State → Prop
  | still {op : Op} {lib : Library} (hl : Unchanged s.lib lib) : Effect s op ⟨s.places, lib, s.freed⟩
  | made {elf : Bytes} {options : Options} {m : Machine} {lib : Library}
      (hm : m.ptr = s.lib.created) (hc : lib.created = s.lib.created + 1)
      (hp : lib.parent = s.lib.parent) (hd : lib.deleted = s.lib.deleted) :
      Effect s (.new elf options) ⟨s.places.push (some (.machine (.fresh m))), lib, s.freed⟩
  | forked {p : Place} {options : Options} {v : Value} {m : Machine} {lib : Library}
      (hv : s.places.at? p = some v) (hu : v.usable = true) (hm : m.ptr = s.lib.created)
      (hc : lib.created = s.lib.created + 1)
      (hp : lib.parent = Function.update s.lib.parent s.lib.created (some v.inner.machine.ptr))
      (hd : lib.deleted = s.lib.deleted) :
      Effect s (.fastFork p options) ⟨s.places.push (some (.forked (.fresh m) p)), lib, s.freed⟩
  | spent {p : Place} {o : Owned} {parent : Place}
      (hv : s.places.at? p = some (.forked o parent)) (hb : ¬ (loans s.places).Kept p) :
      Effect s (.lastUse p) ⟨s.places.spend p, s.lib, s.freed⟩
  | dropped {p : Place} {v : Value} {lib : Library} (hv : s.places.at? p = some v)
      (hb : ¬ (loans s.places).Kept p) (hc : lib.created = s.lib.created)
      (hp : lib.parent = s.lib.parent) (hd : lib.deleted = v.inner.machine.ptr :: s.lib.deleted) :
      Effect s (.drop p) ⟨s.places.set p none, lib, s.freed ++ [v.inner.elf, v.inner.options]⟩
  | moved {p : Place} {v : Value} (hv : s.places.at? p = some v)
      (hb : ¬ (loans s.places).Kept p) : Effect s (.move p) ⟨s.places.move p, s.lib, s.freed⟩
  | swapped {p q : Place} {v w : Value} (hv : s.places.at? p = some v)
      (hw : s.places.at? q = some w) (hvu : v.usable = true) (hwu : w.usable = true)
      (hb : ¬ (loans s.places).Kept p) (hq : ¬ (loans s.places).Kept q) (hne : p ≠ q) :
      Effect s (.swap p q) ⟨s.places.swap p q, s.lib, s.freed⟩
  | replaced {p q : Place} {v w : Value} (hv : s.places.at? p = some v)
      (hw : s.places.at? q = some w) (hvu : v.usable = true) (hwu : w.usable = true)
      (hb : ¬ (loans s.places).Kept p) (hq : ¬ (loans s.places).Kept q) (hne : p ≠ q) :
      Effect s (.replace p q) ⟨(s.places.swap p q).move q, s.lib, s.freed⟩

section effect

variable {s : State} {p q : Place}

lemma usable_iff : s.usable p = true ↔ ∃ v, s.places.at? p = some v ∧ v.usable = true :=
  Option.any_eq_true _ _

lemma unborrowed_iff : (!s.places.borrowed p) = true ↔ ¬ (loans s.places).Kept p := by
  rw [← borrowed_iff, Bool.not_eq_true', Bool.not_eq_true]

lemma exclusive_iff : s.exclusive p = true ↔
    (∃ v, s.places.at? p = some v ∧ v.usable = true) ∧ ¬ (loans s.places).Kept p := by
  rw [State.exclusive, Bool.and_eq_true, usable_iff, unborrowed_iff]

lemma droppable_iff : s.accepts (.drop p) = true ↔
    (∃ v, s.places.at? p = some v) ∧ ¬ (loans s.places).Kept p := by
  rw [State.accepts, Bool.and_eq_true, Option.isSome_iff_exists, unborrowed_iff]

lemma live_iff : s.live p = true ↔ ∃ o parent, s.places.at? p = some (.forked o parent) := by
  simp only [State.live]
  split
  · next o parent h => simp [h]
  · next h =>
    simp only [Bool.false_eq_true, false_iff, not_exists]
    exact h

lemma owned_at {v : Value} (hv : s.places.at? p = some v) : s.owned p = some v.inner := by
  rw [State.owned, hv, Option.map_some]

lemma occupied_of_accepts {method : Method} (h : s.accepts (.method p method) = true) :
    ∃ v, s.places.at? p = some v := by
  change (if method.exclusive then s.exclusive p else s.usable p) = true at h
  split at h
  · obtain ⟨⟨v, hv, _⟩, _⟩ := exclusive_iff.mp h
    exact ⟨v, hv⟩
  · obtain ⟨v, hv, _⟩ := usable_iff.mp h
    exact ⟨v, hv⟩

lemma occupied_of_transfer (h : s.accepts (.transferArenaFrom p q) = true) :
    (∃ v, s.places.at? p = some v) ∧ ∃ w, s.places.at? q = some w := by
  simp only [State.accepts, Bool.and_eq_true] at h
  obtain ⟨⟨hp, hq⟩, _⟩ := h
  obtain ⟨⟨v, hv, _⟩, _⟩ := exclusive_iff.mp hp
  obtain ⟨w, hw, _⟩ := usable_iff.mp hq
  exact ⟨⟨v, hv⟩, ⟨w, hw⟩⟩

lemma method_stays {o : Owned} (ho : s.owned p = some o) (method : Method) :
    Stays [o.machine.ptr] (s.program (.method p method)) := by
  simp only [State.program, ho]
  exact (Method.perform_stays o.machine method).bind fun _ => trivial

lemma transfer_stays {o o' : Owned} (ho : s.owned p = some o) (ho' : s.owned q = some o') :
    Stays [o.machine.ptr, o'.machine.ptr] (s.program (.transferArenaFrom p q)) := by
  simp only [State.program, ho, ho']
  exact Stays.bind (stays_checked _ _ ⟨fun _ hm => hm, rfl⟩) fun _ => trivial

lemma accepts_of_step (oracle : Oracle) {op : Op} {t : State} (h : step oracle s op = some t) :
    s.accepts op = true := by
  by_contra hn
  rw [step, if_neg hn] at h
  cases h

lemma effect_of_step (oracle : Oracle) {op : Op} {t : State} (h : step oracle s op = some t) :
    Effect s op t := by
  simp only [step] at h
  split at h
  swap
  · cases h
  next ha =>
  cases h
  cases op with
  | new elf options =>
    change Effect s _ ⟨s.rearrange _ _, _, s.freed ++ []⟩
    rw [List.append_nil]
    rcases run_new oracle s.lib elf options with ⟨hm, hl⟩ | ⟨m, hm, hptr, hc, hp, hd⟩
    · simp only [State.program, State.rearrange, hm]
      exact .still hl
    · simp only [State.program, State.rearrange, hm]
      exact .made hptr hc hp hd
  | fastFork p options =>
    obtain ⟨v, hv, hu⟩ := usable_iff.mp ha
    have ho := owned_at hv
    change Effect s _ ⟨s.rearrange _ _, _, s.freed ++ []⟩
    rw [List.append_nil]
    rcases run_fastFork oracle s.lib v.inner.machine options with ⟨hm, hl⟩ | ⟨m, hm, hptr, hc, hp, hd⟩
    · simp only [State.program, State.rearrange, ho, hm]
      exact .still hl
    · simp only [State.program, State.rearrange, ho, hm]
      exact .forked hv hu hptr hc hp hd
  | method p method =>
    change Effect s _ ⟨s.places, _, s.freed ++ []⟩
    rw [List.append_nil]
    obtain ⟨v, hv⟩ := occupied_of_accepts ha
    exact .still (unchanged_of_stays oracle s.lib (method_stays (owned_at hv) method))
  | transferArenaFrom p q =>
    obtain ⟨⟨v, hv⟩, ⟨w, hw⟩⟩ := occupied_of_transfer ha
    change Effect s _ ⟨s.places, _, s.freed ++ []⟩
    rw [List.append_nil]
    exact .still (unchanged_of_stays oracle s.lib (transfer_stays (owned_at hv) (owned_at hw)))
  | lastUse p =>
    simp only [State.accepts, Bool.and_eq_true] at ha
    obtain ⟨o, parent, hv⟩ := live_iff.mp ha.1
    change Effect s _ ⟨s.places.spend p, s.lib, s.freed ++ []⟩
    rw [List.append_nil]
    exact .spent hv (unborrowed_iff.mp ha.2)
  | drop p =>
    obtain ⟨⟨v, hv⟩, hb⟩ := droppable_iff.mp ha
    have ho := owned_at hv
    simp only [State.program, State.rearrange, State.frees, ho]
    exact .dropped hv hb rfl rfl rfl
  | move p =>
    obtain ⟨⟨v, hv, _⟩, hb⟩ := exclusive_iff.mp ha
    change Effect s _ ⟨s.places.move p, s.lib, s.freed ++ []⟩
    rw [List.append_nil]
    exact .moved hv hb
  | swap p q =>
    simp only [State.accepts, Bool.and_eq_true, bne_iff_ne] at ha
    obtain ⟨⟨hp, hq⟩, hne⟩ := ha
    obtain ⟨⟨v, hv, hvu⟩, hb⟩ := exclusive_iff.mp hp
    obtain ⟨⟨w, hw, hwu⟩, hbq⟩ := exclusive_iff.mp hq
    change Effect s _ ⟨s.places.swap p q, s.lib, s.freed ++ []⟩
    rw [List.append_nil]
    exact .swapped hv hw hvu hwu hb hbq hne
  | replace p q =>
    simp only [State.accepts, Bool.and_eq_true, bne_iff_ne] at ha
    obtain ⟨⟨⟨hp, hq⟩, _⟩, hne⟩ := ha
    obtain ⟨⟨v, hv, hvu⟩, hb⟩ := exclusive_iff.mp hp
    obtain ⟨⟨w, hw, hwu⟩, hbq⟩ := exclusive_iff.mp hq
    change Effect s _ ⟨(s.places.swap p q).move q, s.lib, s.freed ++ []⟩
    rw [List.append_nil]
    exact .replaced hv hw hvu hwu hb hbq hne

end effect

end Libriscv.Forks

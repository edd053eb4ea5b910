import Libriscv.Foundations.Ledger
import Libriscv.Machines.ForkSteps

/-! Every fork of a table of places is of a machine above it, and what each operation does to that. -/

namespace Libriscv.Forks

open Foundations

def Proper (places : Places) : Prop :=
  ∀ v, some v ∈ places → v.inner.elf = .elf v.inner.machine.ptr ∧
    v.inner.options = .options v.inner.machine.ptr

section proper

variable {places : Places} {p q : Place} {v w : Value}

lemma mem_of_at? (h : places.at? p = some v) : some v ∈ places :=
  List.mem_of_getElem? (Option.join_eq_some_iff.mp h)

lemma proper_push (h : Proper places) {x : Option Value} (hx : ∀ v, x = some v →
    v.inner.elf = .elf v.inner.machine.ptr ∧ v.inner.options = .options v.inner.machine.ptr) :
    Proper (places.push x) := by
  intro u hu
  rcases List.mem_append.mp hu with hu | hu
  · exact h u hu
  · exact hx u (List.mem_singleton.mp hu).symm

lemma proper_set (h : Proper places) {x : Option Value} (hx : ∀ v, x = some v →
    v.inner.elf = .elf v.inner.machine.ptr ∧ v.inner.options = .options v.inner.machine.ptr) :
    Proper (places.set p x) := by
  intro u hu
  rcases List.mem_or_eq_of_mem_set hu with hu | hu
  · exact h u hu
  · exact hx u hu.symm

lemma proper_move (h : Proper places) : Proper (places.move p) :=
  proper_set (proper_push h fun v hv => h v (mem_of_at? hv)) fun _ hv => by cases hv

lemma proper_spend (h : Proper places) : Proper (places.spend p) := by
  simp only [Places.spend]
  split
  · next o parent hv =>
    refine proper_set h ?_
    rintro _ ⟨⟩
    exact h (.forked o parent) (mem_of_at? hv)
  · exact h

lemma inner_setInner (o : Owned) : (v.setInner o).inner = o := by cases v <;> rfl

lemma proper_swap (h : Proper places) : Proper (places.swap p q) := by
  simp only [Places.swap]
  split
  · next v w hv hw =>
    refine proper_set (proper_set h ?_) ?_
    · rintro _ ⟨⟩
      rw [inner_setInner]
      exact h w (mem_of_at? hw)
    · rintro _ ⟨⟩
      rw [inner_setInner]
      exact h v (mem_of_at? hv)
  · exact h

end proper

structure Sound (s : State) : Prop where
  occupied : (loans s.places).Occupied
  accounted : Accounted (ties s.places).contents (· < s.lib.created) (· ∈ s.lib.deleted)
  parents : ∀ h parent, s.lib.parent h = some parent → h < s.lib.created
  proper : Proper s.places
  freed : ∀ x ∈ s.freed, x.owner ∈ s.lib.deleted

section sound

variable {s t : State}

lemma contents_at {p : Place} {v : Value} (hv : s.places.at? p = some v) :
    (ties s.places).contents p = some v.inner.machine.ptr := by
  rw [Layout.contents, ties, layout_at hv]
  rfl

lemma Sound.still (hs : Sound s) {lib : Library} (hl : Unchanged s.lib lib) :
    Sound ⟨s.places, lib, s.freed⟩ where
  occupied := hs.occupied
  accounted := by simpa only [hl.created, hl.deleted] using hs.accounted
  parents := by simpa only [hl.created, hl.parent] using hs.parents
  proper := hs.proper
  freed := by simpa only [hl.deleted] using hs.freed

lemma Sound.push (hs : Sound s) {v : Value} {m : Machine} {lib : Library}
    (hv : v.inner = .fresh m) (hm : m.ptr = s.lib.created) (hc : lib.created = s.lib.created + 1)
    (hp : ∀ h parent, lib.parent h = some parent → h ≠ m.ptr → s.lib.parent h = some parent)
    (hd : lib.deleted = s.lib.deleted)
    (hb : ∀ c p, v.loan = some c → c.keeps = some p → loans s.places p ≠ none) :
    Sound ⟨s.places.push (some v), lib, s.freed⟩ where
  occupied := by
    rw [loans, layout_push]
    refine hs.occupied.update (fun hk => hs.occupied _ hk (layout_length _)) fun c k he hk => ?_
    have hk' := hb c k he hk
    refine ⟨hk', ?_⟩
    rintro rfl
    exact hk' (layout_length _)
  accounted := by
    have hmade : (· < lib.created) = fun x => x < s.lib.created ∨ x = m.ptr := by
      funext x
      rw [hc, hm, Nat.lt_succ_iff_lt_or_eq]
    have hn : (ties s.places).contents s.places.length = none := by
      rw [Layout.contents, ties, layout_length, Option.map_none]
    have htie : v.tie = some ⟨m.ptr, v.origin⟩ := by rw [Value.tie, hv]; rfl
    rw [ties, layout_push, Layout.contents_update, hmade, hd, Option.bind_some, htie,
      Option.map_some]
    exact hs.accounted.acquire hn (by rw [hm]; exact lt_irrefl _)
  parents h parent hh := by
    rw [hc]
    by_cases he : h = m.ptr
    · rw [he, hm]
      exact Nat.lt_succ_self _
    · exact Nat.lt_succ_of_lt (hs.parents h parent (hp h parent hh he))
  proper := by
    refine proper_push hs.proper ?_
    rintro _ ⟨⟩
    rw [hv]
    exact ⟨rfl, rfl⟩
  freed := by simpa only [hd] using hs.freed

lemma Sound.rearrange (hs : Sound s) {places : Places} (ho : (loans places).Occupied)
    (π : Equiv.Perm Place) (hπ : ∀ p, (ties places).contents p = (ties s.places).contents (π p))
    (hp : Proper places) : Sound ⟨places, s.lib, s.freed⟩ :=
  ⟨ho, hs.accounted.permute π hπ, hs.parents, hp, hs.freed⟩

lemma Sound.spend (hs : Sound s) {p : Place} {o : Owned} {parent : Place}
    (hv : s.places.at? p = some (.forked o parent)) (hb : ¬ (loans s.places).Kept p) :
    Sound ⟨s.places.spend p, s.lib, s.freed⟩ := by
  refine hs.rearrange ?_ (Equiv.refl _) (fun x => ?_) (proper_spend hs.proper)
  · rw [loans, layout_spend hv]
    exact hs.occupied.update hb fun _ _ he => by cases he
  · have htie : Value.tie (.spent o parent) = ties s.places p := by rw [ties, layout_at hv]; rfl
    rw [ties, layout_spend hv, htie, Function.update_eq_self, Equiv.refl_apply]

lemma Sound.drop (hs : Sound s) {p : Place} {v : Value} {lib : Library}
    (hv : s.places.at? p = some v) (hb : ¬ (loans s.places).Kept p)
    (hc : lib.created = s.lib.created) (hp : lib.parent = s.lib.parent)
    (hd : lib.deleted = v.inner.machine.ptr :: s.lib.deleted) :
    Sound ⟨s.places.set p none, lib, s.freed ++ [v.inner.elf, v.inner.options]⟩ where
  occupied := by
    rw [loans, layout_set (lt_length hv)]
    exact hs.occupied.update hb fun _ _ he => by cases he
  accounted := by
    have hr : (· ∈ lib.deleted) = fun x => x ∈ s.lib.deleted ∨ x = v.inner.machine.ptr := by
      funext x
      rw [hd, List.mem_cons, or_comm]
    rw [ties, layout_set (lt_length hv), Layout.contents_update, hc, hr]
    exact hs.accounted.release (contents_at hv)
  parents := by simpa only [hc, hp] using hs.parents
  proper := proper_set hs.proper fun _ he => by cases he
  freed := by
    obtain ⟨helf, hoptions⟩ := hs.proper v (mem_of_at? hv)
    intro x hx
    rw [hd]
    rcases List.mem_append.mp hx with hx | hx
    · exact List.mem_cons_of_mem _ (hs.freed x hx)
    · simp only [helf, hoptions, List.mem_cons, List.not_mem_nil, or_false] at hx
      rcases hx with rfl | rfl <;> exact List.mem_cons_self

lemma sound_initial : Sound initial where
  occupied := fun _ ⟨_, _, hc, _⟩ => by cases hc
  accounted :=
    { unique := fun _ _ _ h => by cases h
      accounted := fun r => by simp [initial, Layout.contents, layout, Places.at?]
      apart := fun _ _ h => by cases h }
  parents := fun _ _ h => by cases h
  proper := fun _ h => by cases h
  freed := fun _ h => by cases h

lemma at?_swap {places : Places} {p q : Place} {v w : Value} (hv : places.at? p = some v)
    (hw : places.at? q = some w) : (places.swap p q).at? q = some (w.setInner v.inner) := by
  rw [swap_eq hv hw, at?_set (lt_length_set hw _), Function.update_self]

lemma unkept_swap {cell : Value → Option (Cell Place Handle)} (W : Wraps cell) {places : Places}
    {p q : Place} {v w : Value} {c d : Cell Place Handle} (hv : places.at? p = some v)
    (hw : places.at? q = some w) (hc : cell v = some c) (hd : cell w = some d)
    (hq : ¬ (layout cell places).Kept q) : ¬ (layout cell (places.swap p q)).Kept q := by
  rw [layout_swap W hv hw hc hd]
  refine fun h => hq (Layout.kept_exchange ?_ ?_ h)
  · rw [layout_at hv, hc]
  · rw [layout_at hw, hd]

lemma Sound.swap (hs : Sound s) {p q : Place} {v w : Value} (hv : s.places.at? p = some v)
    (hw : s.places.at? q = some w) (hvu : v.usable = true) (hwu : w.usable = true)
    (hb : ¬ (loans s.places).Kept p) (hq : ¬ (loans s.places).Kept q) (hne : p ≠ q) :
    Sound ⟨s.places.swap p q, s.lib, s.freed⟩ := by
  refine hs.rearrange ?_ (Equiv.swap p q) (fun x => ?_) (proper_swap hs.proper)
  · have hc := wraps_loan.usable v hvu
    have hd := wraps_loan.usable w hwu
    rw [loans, layout_swap wraps_loan hv hw hc hd]
    exact hs.occupied.exchange ((layout_at hv).trans hc) ((layout_at hw).trans hd) hb hq
  · rw [ties, layout_swap wraps_tie hv hw rfl rfl]
    exact Layout.contents_exchange hne (layout_at hv) (layout_at hw) x

lemma Sound.move (hs : Sound s) {p : Place} {v : Value} (hv : s.places.at? p = some v)
    (hb : ¬ (loans s.places).Kept p) : Sound ⟨s.places.move p, s.lib, s.freed⟩ := by
  refine hs.rearrange ?_ (Equiv.swap p s.places.length) (fun x => ?_) (proper_move hs.proper)
  · rw [loans, layout_move hv]
    exact hs.occupied.move hb (layout_length _)
  · rw [ties, layout_move hv]
    exact Layout.contents_move (lt_length hv).ne (layout_length _) x

lemma sound_step (hs : Sound s) {op : Op} (h : Effect s op t) : Sound t := by
  cases h with
  | still hl => exact hs.still hl
  | made hm hc hp hd =>
    refine hs.push rfl hm hc (fun h parent hh _ => hp ▸ hh) hd ?_
    rintro _ k ⟨⟩ hk
    cases hk
  | forked hv hu hm hc hp hd =>
    refine hs.push rfl hm hc (fun h parent hh hne => ?_) hd ?_
    · rwa [hp, Function.update_of_ne (hm ▸ hne)] at hh
    · rintro _ _ ⟨⟩ ⟨⟩
      rw [loans, layout_at hv, wraps_loan.usable _ hu]
      exact Option.some_ne_none _
  | spent hv hb => exact hs.spend hv hb
  | dropped hv hb hc hp hd => exact hs.drop hv hb hc hp hd
  | moved hv hb => exact hs.move hv hb
  | swapped hv hw hvu hwu hb hq hne => exact hs.swap hv hw hvu hwu hb hq hne
  | @replaced p q v w hv hw hvu hwu hb hq hne =>
    have hunkept := unkept_swap wraps_loan hv hw (wraps_loan.usable v hvu)
      (wraps_loan.usable w hwu) hq
    exact (hs.swap hv hw hvu hwu hb hq hne).move (at?_swap hv hw) hunkept

end sound

end Libriscv.Forks

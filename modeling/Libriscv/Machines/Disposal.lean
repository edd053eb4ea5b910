import Mathlib.Data.List.Nodup
import Libriscv.Machines.ForkSafety

/-! Machines and their storage over whole runs: used while they live, and disposed of once. -/

namespace Libriscv.Forks

open Foundations

structure Ledger (s : State) : Prop where
  deletedOnce : s.lib.deleted.Nodup
  freedOnce : s.freed.Nodup
  together : ∀ x : Storage, x ∈ s.freed ↔ x.owner ∈ s.lib.deleted

/-- Beside the ledger: every C call is about machines that were made and not deleted, and nothing
is left when no place holds a value. -/
structure Disposes (oracle : Oracle) (s : State) : Prop extends Ledger s where
  calls : ∀ op, s.accepts op → ∀ c ∈ foreignCalls ((s.program op).trace (library oracle) s.lib),
    ∀ h ∈ c.handles, h < s.lib.created ∧ h ∉ s.lib.deleted
  emptied : (∀ p, s.places.at? p = none) → ∀ h < s.lib.created, h ∈ s.lib.deleted

section ledger

variable {s t : State}

lemma Ledger.still (hl : Ledger s) {places : Places} {lib : Library}
    (hd : lib.deleted = s.lib.deleted) : Ledger ⟨places, lib, s.freed⟩ where
  deletedOnce := by simpa only [hd] using hl.deletedOnce
  freedOnce := hl.freedOnce
  together := by simpa only [hd] using hl.together

lemma Ledger.drop (hs : Sound s) (hl : Ledger s) {p : Place} {v : Value} {places : Places}
    {lib : Library} (hv : s.places.at? p = some v)
    (hd : lib.deleted = v.inner.machine.ptr :: s.lib.deleted) :
    Ledger ⟨places, lib, s.freed ++ [v.inner.elf, v.inner.options]⟩ := by
  have hnew : v.inner.machine.ptr ∉ s.lib.deleted :=
    hs.accounted.apart p _ (Layout.contents_eq_some.mpr (holds_at hv))
  obtain ⟨helf, hoptions⟩ := hs.proper v (mem_of_at? hv)
  have hfresh : ∀ x : Storage, x.owner = v.inner.machine.ptr → x ∉ s.freed := by
    intro x hx hm
    exact hnew (hx ▸ (hl.together x).mp hm)
  rw [helf, hoptions]
  refine ⟨?_, ?_, fun x => ?_⟩
  · rw [hd]
    exact List.nodup_cons.mpr ⟨hnew, hl.deletedOnce⟩
  · refine List.Nodup.append hl.freedOnce (by simp) fun x hx hm => ?_
    rcases List.mem_pair.mp hm with rfl | rfl
    · exact hfresh _ rfl hx
    · exact hfresh _ rfl hx
  · have hpair : x ∈ [Storage.elf v.inner.machine.ptr, .options v.inner.machine.ptr] ↔
        x.owner = v.inner.machine.ptr := by
      cases x <;> simp [Storage.owner]
    rw [hd, List.mem_append, hl.together, hpair, List.mem_cons, or_comm]

lemma ledger_step (hs : Sound s) (hl : Ledger s) {op : Op} (h : Effect s op t) : Ledger t := by
  cases h with
  | still hu => exact hl.still hu.deleted
  | made hm hc hp hd => exact hl.still hd
  | forked hv hu hm hc hp hd => exact hl.still hd
  | spent hv hb => exact hl.still rfl
  | dropped hv hb hc hp hd => exact hl.drop hs hv hd
  | moved hv hb => exact hl.still rfl
  | swapped hv hw hvu hwu hb hq hne => exact hl.still rfl
  | replaced hv hw hvu hwu hb hq hne => exact hl.still rfl

lemma disposes_of_ledger (oracle : Oracle) (hs : Sound s) (hl : Ledger s) : Disposes oracle s where
  calls op ha c hc h hh := by
    obtain ⟨a, ha', hca⟩ := List.mem_filterMap.mp hc
    have hnames := Program.always_trace (library oracle) s.lib (program_names ha) a ha'
    cases a with
    | load view | store view bytes => cases hca
    | foreign c' =>
      cases hca
      obtain ⟨p, hp⟩ := hnames c rfl h hh
      have hp := Layout.contents_eq_some.mpr hp
      exact ⟨hs.accounted.made_of_held hp, hs.accounted.apart p h hp⟩
  toLedger := hl
  emptied he h hh := by
    by_contra hd
    obtain ⟨p, hp⟩ := hs.accounted.held_of_made hh hd
    rw [Layout.contents, ties, layout, he p] at hp
    cases hp

end ledger

/-- In every state of every run, exchanges of machines and spent forks included, each machine is
used only while it lives and is disposed of once with its storage. -/
theorem machines_dispose_once (oracle : Oracle) (ops : List Op) :
    Throughout (step oracle) (Disposes oracle) initial ops := by
  have hkeep : Throughout (step oracle) (fun s => Sound s ∧ Ledger s) initial ops := by
    refine throughout_of_step ⟨sound_initial, .nil, .nil, fun x => ?_⟩ ?_
    · simp [initial]
    · rintro s op t ⟨hs, hl⟩ h
      have he := effect_of_step oracle h
      exact ⟨sound_step hs he, ledger_step hs hl he⟩
  intro earlier t hp ht
  obtain ⟨hs, hl⟩ := hkeep earlier t hp ht
  exact disposes_of_ledger oracle hs hl

end Libriscv.Forks

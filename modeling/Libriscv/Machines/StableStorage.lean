import Libriscv.Machines.Storage

/-! What libriscv was handed for a machine stays readable, and unchanged, while the machine lives. -/

namespace Libriscv.Storage

open Foundations RoundTrip
open Forks (Oracle Library library)

def Value.Good (heap : Heap) (handed : Handle → Option Handed) : Value → Prop
  | .options o told => Covers heap o.raw o.keepalive told
  -- libriscv may write to the raw options of a fork, but it reads what it was handed
  | .machine m boxed => ∃ x, handed m.ptr = some x ∧ x.elf = boxed ∧
      readElf heap x.elf x.elfSize = some x.program ∧
      Covers heap x.raw m.options.keepalive x.told

structure Sound (s : State) : Prop where
  blocks : Balanced Value.blocks s.slots s.freed s.heap.length
  handles : Balanced Value.handles s.slots s.lib.deleted s.lib.created
  good : ∀ v, some v ∈ s.slots → v.Good s.heap s.handed

section reading

variable {heap later : Heap} {handed : Handle → Option Handed} {elf : Option Pointer} {size : UInt32}
  {bytes : Bytes}

lemma readElf_extend (hl : heap <+: later) (h : readElf heap elf size = some bytes) :
    readElf later elf size = some bytes := by
  cases elf with
  | none => exact h
  | some p => exact Heap.readBytes_extend hl h

lemma readElf_without {freed : List ℕ} (hf : ∀ b ∈ elf.toList.map Pointer.block, b ∉ freed)
    (h : readElf heap elf size = some bytes) : readElf (heap.without freed) elf size = some bytes := by
  cases elf with
  | none => exact h
  | some p => exact (Heap.readBytes_without (hf _ List.mem_cons_self) _).trans h

lemma Value.Good.extend {v : Value} (h : v.Good heap handed) (hl : heap <+: later) :
    v.Good later handed := by
  cases v with
  | options o told => exact Covers.extend h hl
  | machine m boxed =>
    obtain ⟨x, hx, he, hr, hc⟩ := h
    exact ⟨x, hx, he, readElf_extend hl hr, hc.extend hl⟩

lemma Value.Good.update {v : Value} (h : v.Good heap handed) {new : Handle} (x : Handed)
    (hn : ∀ r ∈ v.handles, r ≠ new) : v.Good heap (Function.update handed new (some x)) := by
  cases v with
  | options o told => exact h
  | machine m boxed =>
    obtain ⟨y, hy, hrest⟩ := h
    refine ⟨y, ?_, hrest⟩
    rw [Function.update_of_ne (hn m.ptr List.mem_cons_self), hy]

end reading

section sound

variable {s t : State}

lemma sound_initial : Sound initial := ⟨.nil, .nil, fun _ h => nomatch h⟩

lemma mem_set_none {slots : List (Option Value)} {p : ℕ} {v : Value}
    (h : some v ∈ slots.set p none) : some v ∈ slots := by
  rcases List.mem_or_eq_of_mem_set h with h | h
  · exact h
  · cases h

lemma Sound.handle_lt (hs : Sound s) {v : Value} (hv : some v ∈ s.slots) :
    ∀ r ∈ v.handles, r < s.lib.created := by
  obtain ⟨i, hi⟩ := List.mem_iff_getElem?.mp hv
  exact fun r hr => hs.handles.lt_of_holds hi hr

lemma Sound.still (hs : Sound s) {lib : Library} (hl : Forks.Unchanged s.lib lib) :
    Balanced Value.handles s.slots lib.deleted lib.created := by
  rw [hl.deleted, hl.created]
  exact hs.handles

lemma sound_step (hs : Sound s) (h : Effect s t) : Sound t := by
  cases h with
  | quiet hl => exact ⟨hs.blocks, hs.still hl, hs.good⟩
  | @built o told heap lib k hl hh hk hb hc =>
    refine ⟨?_, (hs.still hl).push (k := 0) fun _ => rfl, fun v hv => ?_⟩
    · rw [hk]
      exact hs.blocks.push fun r => congrArg (List.count r) hb
    · rcases List.mem_append.mp hv with hv | hv
      · exact (hs.good v hv).extend hh
      · cases List.mem_singleton.mp hv
        exact hc
  | @born p o m x heap lib k hv hm hc hd hkeep hraw hh hk hb hread =>
    refine ⟨?_, ?_, fun v hm' => ?_⟩
    · rw [hk]
      refine hs.blocks.convert hv fun r => ?_
      simp only [Value.blocks, hb, hkeep, List.count_append]
      exact Nat.add_comm _ _
    · rw [hc, hd]
      refine hs.handles.convert hv fun r => ?_
      simp only [Value.handles, hm]
      exact (Nat.zero_add _).symm
    · rcases List.mem_append.mp hm' with hm' | hm'
      · have hm' := mem_set_none hm'
        refine ((hs.good v hm').extend hh).update x fun r hr => ?_
        rw [hm]
        exact (hs.handle_lt hm' r hr).ne
      · cases List.mem_singleton.mp hm'
        refine ⟨x, Function.update_self .., rfl, hread, ?_⟩
        rw [hraw, hkeep]
        exact Covers.extend (hs.good _ (List.mem_of_getElem? hv)) hh
  | @lost p o told heap lib k hv hl hh hk =>
    refine ⟨?_, ?_, fun v hm => (hs.good v (mem_set_none hm)).extend hh⟩
    · rw [hk]
      refine (hs.blocks.scratch k).release hv fun r => ?_
      rw [← List.append_assoc, List.count_append]
      rfl
    · refine (hs.still hl).release hv fun r => ?_
      exact (Nat.add_zero _).symm
  | @died p m boxed lib hv hc hd =>
    refine ⟨?_, ?_, fun v hm => hs.good v (mem_set_none hm)⟩
    · exact hs.blocks.release hv fun r => List.count_append ..
    · rw [hc, hd]
      refine hs.handles.release hv fun r => ?_
      rw [Value.handles, ← List.count_append]
      exact (List.perm_append_singleton _ _).symm.count_eq r
  | @moved p v hv =>
    refine ⟨hs.blocks.convert (k := 0) hv fun _ => rfl, hs.handles.convert (k := 0) hv fun _ => rfl,
      fun w hm => ?_⟩
    rcases List.mem_append.mp hm with hm | hm
    · exact hs.good w (mem_set_none hm)
    · cases List.mem_singleton.mp hm
      exact hs.good v (List.mem_of_getElem? hv)
  | @swapped p q v w hv hw hne =>
    refine ⟨hs.blocks.exchange hv hw hne, hs.handles.exchange hv hw hne, fun u hm => ?_⟩
    rcases List.mem_or_eq_of_mem_set hm with hm | hm
    · rcases List.mem_or_eq_of_mem_set hm with hm | hm
      · exact hs.good u hm
      · cases hm
        exact hs.good w (List.mem_of_getElem? hw)
    · cases hm
      exact hs.good v (List.mem_of_getElem? hv)

end sound

/-- Through what it was handed for a live machine libriscv finds the ELF that the caller gave and the
options as their builder was last told, and it would through any options not yet used. No block is
freed twice, and with the last value the last block and the last machine are gone. -/
structure Stable (s : State) : Prop where
  handed : ∀ h < s.lib.created, h ∉ s.lib.deleted → ∃ x, s.handed h = some x ∧
    readElf s.memory x.elf x.elfSize = some x.program ∧ Finds s.memory x.raw x.told
  options : ∀ o told, some (.options o told) ∈ s.slots → Finds s.memory o.raw told
  freedOnce : s.freed.Nodup
  deletedOnce : s.lib.deleted.Nodup
  emptied : (∀ slot ∈ s.slots, slot = none) →
    (∀ b < s.heap.length, b ∈ s.freed) ∧ ∀ h < s.lib.created, h ∈ s.lib.deleted

lemma stable_of_sound {s : State} (hs : Sound s) : Stable s where
  handed h hh hd := by
    obtain ⟨i, v, hi, hv⟩ := hs.handles.exists_holder hh hd
    cases v with
    | options o told => cases hv
    | machine m boxed =>
      obtain rfl := List.mem_singleton.mp hv
      obtain ⟨x, hx, rfl, hr, hc⟩ := hs.good _ (List.mem_of_getElem? hi)
      have hkept : ∀ b ∈ (Value.machine m x.elf).blocks, b ∉ s.freed :=
        fun b hb => hs.blocks.not_released hi hb
      exact ⟨x, hx, readElf_without (fun b hb => hkept b (List.mem_append_left _ hb)) hr,
        hc.finds fun b hb => hkept b (List.mem_append_right _ hb)⟩
  options o told hm := by
    obtain ⟨i, hi⟩ := List.mem_iff_getElem?.mp hm
    exact Covers.finds (hs.good _ hm) fun b hb => hs.blocks.not_released hi hb
  freedOnce := hs.blocks.released_nodup
  deletedOnce := hs.handles.released_nodup
  emptied he := ⟨fun _ hb => hs.blocks.settled he hb, fun _ hh => hs.handles.settled he hh⟩

/-- Over every run, libriscv's pointers into Rust's storage are good for as long as their machine. -/
theorem storage_stays_stable (oracle : Oracle) (ops : List Op) :
    Throughout (step oracle) Stable initial ops := by
  have hsound : Throughout (step oracle) Sound initial ops :=
    throughout_of_step sound_initial fun s op t hs h => sound_step hs (effect_of_step oracle h)
  exact fun earlier t hp ht => stable_of_sound (hsound earlier t hp ht)

end Libriscv.Storage

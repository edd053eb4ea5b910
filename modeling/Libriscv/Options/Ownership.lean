import Libriscv.Options.RoundTrip

/-! The blocks that options own, and what C finds through the raw struct while these are not freed. -/

namespace Libriscv

open Foundations

def OptionsKeepAlive.blocks (self : OptionsKeepAlive) : List ℕ :=
  self.args.map (fun arg => arg.ptr.block) ++ self.argvPtrs.storage.toList.map Pointer.block ++
    (self.defaultExitFunction.map CString.ptr).toList.map Pointer.block

namespace RoundTrip

structure Told where
  args : List Bytes
  -- `none` where the exit symbol is whatever libriscv set
  exit : Option (Option Bytes)
  fields : RISCVOptions

structure Finds (memory : Heap) (raw : RISCVOptions) (told : Told) : Prop where
  strings : readArgv memory raw.argc raw.argv = some told.args
  symbol : ∀ exit, told.exit = some exit → readExit memory raw.defaultExitFunction = some exit
  unset : told.exit = none → raw.defaultExitFunction = told.fields.defaultExitFunction
  plain : raw = { told.fields with
    argc := raw.argc
    argv := raw.argv
    defaultExitFunction := raw.defaultExitFunction }

/-- Every pointer that C follows from the raw struct leads into a block of the keepalive. -/
structure Covers (heap : Heap) (raw : RISCVOptions) (keepalive : OptionsKeepAlive) (told : Told) :
    Prop extends Finds heap raw told where
  table : ∀ argv, raw.argv = some argv → argv.block ∈ keepalive.blocks ∧
    ∃ ps, heap.readPointers argv raw.argc.toNat = some ps ∧ ∀ p ∈ ps, p.block ∈ keepalive.blocks
  exitBlock : told.exit ≠ none → ∀ p, raw.defaultExitFunction = some p → p.block ∈ keepalive.blocks

section reading

variable {heap : Heap} {raw : RISCVOptions} {keepalive : OptionsKeepAlive} {told : Told}

lemma Covers.extend (h : Covers heap raw keepalive told) {later : Heap} (hl : heap <+: later) :
    Covers later raw keepalive told where
  strings := by
    have hs := h.strings
    cases ha : raw.argv with
    | none =>
      rw [ha] at hs
      exact hs
    | some argv =>
      rw [ha] at hs
      exact Heap.readStrings_extend hl hs
  symbol exit he := by
    have hs := h.symbol exit he
    cases ha : raw.defaultExitFunction with
    | none =>
      rw [ha] at hs
      exact hs
    | some p =>
      rw [ha, readExit] at hs
      obtain ⟨bytes, hb, he⟩ := Option.map_eq_some_iff.mp hs
      rw [readExit, Heap.readString_extend hl hb, Option.map_some, he]
  unset := h.unset
  plain := h.plain
  table argv ha := by
    obtain ⟨hb, ps, hps, hin⟩ := h.table argv ha
    exact ⟨hb, ps, Heap.readPointers_extend hl hps, hin⟩
  exitBlock := h.exitBlock

lemma Covers.finds (h : Covers heap raw keepalive told) {freed : List ℕ}
    (hf : ∀ b ∈ keepalive.blocks, b ∉ freed) : Finds (heap.without freed) raw told where
  strings := by
    have hs := h.strings
    cases ha : raw.argv with
    | none =>
      rw [ha] at hs
      exact hs
    | some argv =>
      obtain ⟨hb, ps, hps, hin⟩ := h.table argv ha
      rw [ha, readArgv] at hs
      rw [readArgv, Heap.readStrings_without (hf _ hb) hps fun q hq => hf _ (hin q hq), hs]
  symbol exit he := by
    have hs := h.symbol exit he
    cases ha : raw.defaultExitFunction with
    | none =>
      rw [ha] at hs
      exact hs
    | some p =>
      have hb := h.exitBlock (by rw [he]; exact Option.some_ne_none _) p ha
      rw [ha, readExit] at hs
      rw [readExit, Heap.readString_without (hf _ hb), hs]
  unset := h.unset
  plain := h.plain

end reading

section building

variable {heap after : Heap}

lemma new_blocks {bytes : Bytes} {cstring : CString}
    (h : CString.new bytes heap = .ok (cstring, after)) :
    heap <+: after ∧ after.length = heap.length + 1 ∧ cstring.ptr.block = heap.length := by
  rw [CString.new] at h
  split at h
  · cases h
  · cases h
    exact ⟨Heap.extend_alloc _ _, List.length_append, rfl⟩

lemma collect_blocks {args : List Bytes} {cstrings : List CString}
    (h : collectCStrings args heap = .ok (cstrings, after)) : heap <+: after ∧
      cstrings.length = args.length ∧ after.length = heap.length + args.length ∧
      cstrings.map (fun arg => arg.ptr.block) = List.range' heap.length args.length := by
  induction args generalizing heap cstrings with
  | nil =>
    cases h
    exact ⟨List.prefix_refl _, rfl, rfl, rfl⟩
  | cons arg args ih =>
    rw [collectCStrings] at h
    cases hc : CString.new arg heap with
    | error e =>
      rw [hc] at h
      cases h
    | ok first =>
      obtain ⟨cstring, middle⟩ := first
      obtain ⟨hm, hlen, hb⟩ := new_blocks hc
      rw [hc] at h
      simp only [bind, Except.bind] at h
      cases hr : collectCStrings args middle with
      | error e =>
        rw [hr] at h
        cases h
      | ok rest =>
        obtain ⟨cstrings', after'⟩ := rest
        rw [hr] at h
        cases h
        obtain ⟨ha, hn, hl, hbs⟩ := ih hr
        refine ⟨hm.trans ha, by simp [hn], by rw [hl, hlen, List.length_cons]; omega, ?_⟩
        rw [List.map_cons, hb, hbs, hlen, List.length_cons, List.range'_succ]

lemma table_blocks (elems : List Pointer) (heap : Heap) : ∃ k,
    heap <+: (PtrVec.collect elems heap).2 ∧
    (PtrVec.collect elems heap).2.length = heap.length + k ∧
    (PtrVec.collect elems heap).1.storage.toList.map Pointer.block = List.range' heap.length k ∧
    (PtrVec.collect elems heap).1.elems = elems ∧
    ∀ argv, (PtrVec.collect elems heap).1.storage = some argv →
      (PtrVec.collect elems heap).2.readPointers argv elems.length = some elems := by
  rw [PtrVec.collect]
  split
  · next h =>
    obtain rfl := List.isEmpty_iff.mp h
    exact ⟨0, List.prefix_refl _, rfl, rfl, rfl, fun _ h => nomatch h⟩
  · refine ⟨1, Heap.extend_alloc _ _, List.length_append, rfl, rfl, ?_⟩
    rintro argv ⟨⟩
    exact Heap.readPointers_alloc heap elems

lemma transpose_blocks {exit : Option Bytes} {cstring : Option CString}
    (h : transposeCString exit heap = .ok (cstring, after)) : ∃ k, heap <+: after ∧
      after.length = heap.length + k ∧
      (cstring.map CString.ptr).toList.map Pointer.block = List.range' heap.length k := by
  cases exit with
  | none =>
    cases h
    exact ⟨0, List.prefix_refl _, rfl, rfl⟩
  | some symbol =>
    rw [transposeCString] at h
    cases hc : CString.new symbol heap with
    | error e =>
      rw [hc] at h
      cases h
    | ok first =>
      obtain ⟨cstring, middle⟩ := first
      rw [hc] at h
      cases h
      obtain ⟨hm, hlen, hb⟩ := new_blocks hc
      refine ⟨1, hm, hlen, ?_⟩
      rw [List.range'_one, ← hb]
      rfl

lemma build_parts {self : OptionsBuilder} {o : Options} (h : self.build heap = .ok (o, after)) :
    ∃ cstrings first exit, collectCStrings self.args heap = .ok (cstrings, first) ∧
      transposeCString self.defaultExitFunction
        (PtrVec.collect (cstrings.map CString.ptr) first).2 = .ok (exit, after) ∧
      o.keepalive = ⟨cstrings, (PtrVec.collect (cstrings.map CString.ptr) first).1, exit⟩ := by
  rw [OptionsBuilder.build] at h
  split at h
  · cases h
  · cases hc : collectCStrings self.args heap with
    | error e =>
      rw [hc] at h
      cases h
    | ok collected =>
      obtain ⟨cstrings, first⟩ := collected
      rw [hc] at h
      simp only [Except.mapError, bind, Except.bind] at h
      cases ht : transposeCString self.defaultExitFunction
          (PtrVec.collect (cstrings.map CString.ptr) first).2 with
      | error e =>
        rw [ht] at h
        cases h
      | ok transposed =>
        obtain ⟨exit, after'⟩ := transposed
        rw [ht] at h
        cases h
        exact ⟨cstrings, first, exit, rfl, ht, rfl⟩

/-- Built options own the blocks that `build` allocated, all of them, and C follows no other. -/
theorem build_covers {self : OptionsBuilder} {o : Options} (h : self.build heap = .ok (o, after)) :
    heap <+: after ∧
      o.keepalive.blocks = List.range' heap.length (after.length - heap.length) ∧
      Covers after o.raw o.keepalive ⟨self.args, some self.defaultExitFunction, self.raw⟩ := by
  have hreads : ReadsBack after o self.args self.defaultExitFunction self.raw := by
    cases hf : firstError self.args self.defaultExitFunction with
    | some e =>
      rw [build_fails self heap hf] at h
      cases h
    | none =>
      obtain ⟨o', after', hb, hr⟩ := build_reads self heap hf
      rw [h] at hb
      cases hb
      exact hr after (List.prefix_refl _)
  obtain ⟨cstrings, first, exit, hc, ht, hk⟩ := build_parts h
  obtain ⟨hfirst, hn, hlen, hargs⟩ := collect_blocks hc
  obtain ⟨k, hsecond, hlen₂, htable, helems, hread⟩ := table_blocks (cstrings.map CString.ptr) first
  obtain ⟨l, hthird, hlen₃, hexit⟩ := transpose_blocks ht
  have hblocks : o.keepalive.blocks = List.range' heap.length (after.length - heap.length) := by
    have hsum : after.length - heap.length = self.args.length + k + l := by omega
    rw [OptionsKeepAlive.blocks, hk, hargs, htable, hexit, hlen₂, hlen, hsum, List.range'_append_1,
      Nat.add_assoc, List.range'_append_1]
  have hfinds : Finds after o.raw ⟨self.args, some self.defaultExitFunction, self.raw⟩ :=
    ⟨hreads.strings, fun _ he => Option.some.inj he ▸ hreads.symbol, fun he => (nomatch he),
      hreads.plain⟩
  refine ⟨hfirst.trans (hsecond.trans hthird), hblocks, hfinds, ?_, ?_⟩
  · -- the table lists the pointers of the argument strings
    intro argv ha
    have hs := hreads.argvOwned argv ha
    have hcount : o.raw.argc.toNat = (cstrings.map CString.ptr).length := by
      rw [hreads.argc, List.length_map, hn]
    refine ⟨?_, cstrings.map CString.ptr, ?_, ?_⟩
    · refine List.mem_append_left _ (List.mem_append_right _ ?_)
      rw [hs]
      exact List.mem_singleton.mpr rfl
    · rw [hk] at hs
      rw [hcount]
      exact Heap.readPointers_extend hthird (hread argv hs)
    · intro p hp
      obtain ⟨cstring, hm, rfl⟩ := List.mem_map.mp hp
      simp only [OptionsKeepAlive.blocks, hk, List.append_assoc, List.mem_append, List.mem_map]
      exact .inl ⟨cstring, hm, rfl⟩
  · intro _ p hp
    rw [hreads.exitOwned] at hp
    simp [OptionsKeepAlive.blocks, hp]

end building

end RoundTrip

end Libriscv

import Libriscv.Foundations.LastWrite
import Libriscv.Options.Builder

/-! What C reads from built options: the last list, the last symbol and the last setters. -/

namespace Libriscv.RoundTrip

open Foundations

def argsOf : BuilderCall → Option (List Bytes)
  | .args args => some args
  | .clearArgs => some []
  | _ => none

def exitOf : BuilderCall → Option (Option Bytes)
  | .defaultExitFunction symbol => some (some symbol)
  | .clearDefaultExitFunction => some none
  | _ => none

def lastArgs (calls : List BuilderCall) : List Bytes := (lastSome argsOf calls).getD []

def lastExit (calls : List BuilderCall) : Option Bytes := (lastSome exitOf calls).getD none

/-- The plain fields as last told, flags as 1 or 0, over libriscv's defaults. The two handlers and
the opaque pointer start out null, and so do the three fields that `build` fills in. -/
def told (defaults : RISCVOptions) (calls : List BuilderCall) : RISCVOptions where
  maxMemory := (lastSome (fun | .maxMemory n => some n | _ => none) calls).getD defaults.maxMemory
  stackSize := (lastSome (fun | .stackSize n => some n | _ => none) calls).getD defaults.stackSize
  strictSandbox := (lastSome (fun | .strictSandbox b => some (if b then 1 else 0) | _ => none)
    calls).getD defaults.strictSandbox
  useMemoryArena := (lastSome (fun | .useMemoryArena b => some (if b then 1 else 0) | _ => none)
    calls).getD defaults.useMemoryArena
  useSharedExecuteSegments :=
    (lastSome (fun | .useSharedExecuteSegments b => some (if b then 1 else 0) | _ => none)
      calls).getD defaults.useSharedExecuteSegments
  loadProgram := (lastSome (fun | .loadProgram b => some (if b then 1 else 0) | _ => none)
    calls).getD defaults.loadProgram
  protectSegments := (lastSome (fun | .protectSegments b => some (if b then 1 else 0) | _ => none)
    calls).getD defaults.protectSegments
  nativeSyscallBase :=
    (lastSome (fun | .nativeSyscallBase n => some n | _ => none) calls).getD defaults.nativeSyscallBase
  arenaSize := (lastSome (fun | .arenaSize n => some n | _ => none) calls).getD defaults.arenaSize
  error := (lastSome (fun | .errorHandler h => some h.raw | _ => none) calls).getD none
  stdout := (lastSome (fun | .stdoutHandler h => some h.raw | _ => none) calls).getD none
  opaquePtr := (lastSome (fun | .setOpaque p => some p | _ => none) calls).getD none
  argc := 0
  argv := none
  defaultExitFunction := defaults.defaultExitFunction

def nulErrorOf (bytes : Bytes) : Option NulError :=
  (bytes.findIdx? (· == 0)).map fun i => ⟨i, bytes⟩

def firstError (args : List Bytes) (exit : Option Bytes) : Option Error :=
  if args.length > u32Max then some (.argsTooLarge args.length)
  else ((args ++ exit.toList).findSome? nulErrorOf).map .nulError

def readArgv (heap : Heap) (argc : UInt32) : Option Pointer → Option (List Bytes)
  | none => if argc = 0 then some [] else none
  | some argv => heap.readStrings argv argc.toNat

def readExit (heap : Heap) : Option Pointer → Option (Option Bytes)
  | none => some none
  | some symbol => (heap.readString symbol).map some

/-- What C finds behind the options: the strings and the plain fields, and every pointer into
storage that the options own. -/
structure ReadsBack (heap : Heap) (options : Options) (args : List Bytes) (exit : Option Bytes)
    (fields : RISCVOptions) : Prop where
  argc : options.raw.argc.toNat = args.length
  argvNull : options.raw.argv = none ↔ args = []
  strings : readArgv heap options.raw.argc options.raw.argv = some args
  exitNull : options.raw.defaultExitFunction = none ↔ exit = none
  symbol : readExit heap options.raw.defaultExitFunction = some exit
  plain : options.raw = { fields with
    argc := options.raw.argc
    argv := options.raw.argv
    defaultExitFunction := options.raw.defaultExitFunction }
  argvOwned : ∀ argv, options.raw.argv = some argv → options.keepalive.argvPtrs.storage = some argv
  argsOwned : options.keepalive.argvPtrs.elems = options.keepalive.args.map CString.ptr
  exitOwned : options.raw.defaultExitFunction =
    options.keepalive.defaultExitFunction.map CString.ptr

section strings

variable {bytes : Bytes} (heap : Heap)

lemma nulErrorOf_eq_none : nulErrorOf bytes = none ↔ 0 ∉ bytes := by
  rw [nulErrorOf, Option.map_eq_none_iff, List.findIdx?_eq_none_iff]
  refine ⟨?_, ?_⟩
  · intro h h0
    simpa using h 0 h0
  · intro h b hb
    simp only [beq_eq_false_iff_ne]
    rintro rfl
    exact h hb

lemma new_fails {e : NulError} (h : nulErrorOf bytes = some e) :
    CString.new bytes heap = .error e := by
  obtain ⟨i, hi, rfl⟩ := Option.map_eq_some_iff.mp h
  rw [CString.new, hi]

lemma new_reads (h : nulErrorOf bytes = none) : ∃ cstring after,
    CString.new bytes heap = .ok (cstring, after) ∧ heap <+: after ∧
      after.readString cstring.ptr = some bytes := by
  have h0 := nulErrorOf_eq_none.mp h
  rw [nulErrorOf, Option.map_eq_none_iff] at h
  exact ⟨⟨(heap.alloc (.bytes (bytes ++ [0]))).1⟩, (heap.alloc (.bytes (bytes ++ [0]))).2,
    by rw [CString.new, h], Heap.extend_alloc _ _, Heap.readString_alloc heap h0⟩

lemma collect_fails {args : List Bytes} {e : NulError} (h : args.findSome? nulErrorOf = some e) :
    collectCStrings args heap = .error e := by
  induction args generalizing heap with
  | nil => cases h
  | cons arg args ih =>
    rw [List.findSome?_cons] at h
    cases hn : nulErrorOf arg with
    | some e' =>
      rw [hn] at h
      cases h
      rw [collectCStrings, new_fails heap hn]
      rfl
    | none =>
      rw [hn] at h
      obtain ⟨cstring, after, hc, _⟩ := new_reads heap hn
      rw [collectCStrings, hc]
      simp only [bind, Except.bind, ih after h]

lemma collect_reads {args : List Bytes} (h : args.findSome? nulErrorOf = none) :
    ∃ cstrings after, collectCStrings args heap = .ok (cstrings, after) ∧ heap <+: after ∧
      cstrings.length = args.length ∧
      (cstrings.map CString.ptr).mapM after.readString = some args := by
  induction args generalizing heap with
  | nil => exact ⟨[], heap, rfl, List.prefix_refl _, rfl, rfl⟩
  | cons arg args ih =>
    rw [List.findSome?_cons] at h
    cases hn : nulErrorOf arg with
    | some e => simp [hn] at h
    | none =>
      rw [hn] at h
      obtain ⟨cstring, middle, hc, hm, hr⟩ := new_reads heap hn
      obtain ⟨cstrings, after, hcs, ha, hl, hrs⟩ := ih middle h
      refine ⟨cstring :: cstrings, after, ?_, hm.trans ha, by simp [hl], ?_⟩
      · rw [collectCStrings, hc]
        simp only [bind, Except.bind, hcs]
      · simp [Heap.readString_extend ha hr, hrs]

lemma transpose_fails {exit : Option Bytes} {e : NulError}
    (h : exit.toList.findSome? nulErrorOf = some e) : transposeCString exit heap = .error e := by
  cases exit with
  | none => cases h
  | some symbol =>
    rw [Option.toList_some, List.findSome?_singleton] at h
    rw [transposeCString, new_fails heap h]
    rfl

lemma transpose_reads {exit : Option Bytes} (h : exit.toList.findSome? nulErrorOf = none) :
    ∃ cstring after, transposeCString exit heap = .ok (cstring, after) ∧ heap <+: after ∧
      (cstring = none ↔ exit = none) ∧
      ∀ later, after <+: later → readExit later (cstring.map CString.ptr) = some exit := by
  cases exit with
  | none => exact ⟨none, heap, rfl, List.prefix_refl _, by simp, fun _ _ => rfl⟩
  | some symbol =>
    rw [Option.toList_some, List.findSome?_singleton] at h
    obtain ⟨cstring, after, hc, ha, hr⟩ := new_reads heap h
    refine ⟨some cstring, after, ?_, ha, by simp, fun later hl => ?_⟩
    · rw [transposeCString, hc]
      rfl
    · rw [Option.map_some, readExit, Heap.readString_extend hl hr, Option.map_some]

lemma collect_table {elems : List Pointer} {strings : List Bytes} (hn : ¬ elems.length > u32Max)
    (h : elems.mapM heap.readString = some strings) :
    ∃ argv after, PtrVec.collect elems heap = (⟨elems, argv⟩, after) ∧ heap <+: after ∧
      (argv = none ↔ elems = []) ∧ ∀ later, after <+: later →
        readArgv later (UInt32.ofNat elems.length) argv = some strings := by
  cases elems with
  | nil => exact ⟨none, heap, rfl, List.prefix_refl _, by simp, fun _ _ => h⟩
  | cons p ps =>
    refine ⟨_, _, rfl, Heap.extend_alloc heap _, by simp, fun later hl => ?_⟩
    rw [readArgv, toNat_ofNat_short hn]
    exact Heap.readStrings_extend hl (Heap.readStrings_alloc h)

end strings

section building

variable (self : OptionsBuilder) (calls : List BuilderCall)

lemma apply_args :
    (calls.foldl OptionsBuilder.apply self).args = (lastSome argsOf calls).getD self.args :=
  foldl_field OptionsBuilder.args (fun _ call => by cases call <;> rfl) self calls

lemma apply_exit : (calls.foldl OptionsBuilder.apply self).defaultExitFunction =
    (lastSome exitOf calls).getD self.defaultExitFunction :=
  foldl_field OptionsBuilder.defaultExitFunction (fun _ call => by cases call <;> rfl) self calls

lemma told_concat (defaults : RISCVOptions) (args : List Bytes) (exit : Option Bytes)
    (call : BuilderCall) : told defaults (calls ++ [call]) =
      (OptionsBuilder.apply ⟨told defaults calls, args, exit⟩ call).raw := by
  cases call <;> simp only [told, lastSome_concat, Option.none_or, Option.some_or,
    Option.getD_some] <;> rfl

lemma apply_raw (defaults : RISCVOptions) (hs : self.raw = told defaults []) :
    (calls.foldl OptionsBuilder.apply self).raw = told defaults calls := by
  induction calls using List.reverseRecOn with
  | nil => exact hs
  | append_singleton calls call ih =>
    rw [List.foldl_concat]
    generalize calls.foldl OptionsBuilder.apply self = builder at ih
    rw [told_concat calls defaults builder.args builder.defaultExitFunction, ← ih]

lemma build_fails (heap : Heap) {e : Error}
    (h : firstError self.args self.defaultExitFunction = some e) : self.build heap = .error e := by
  simp only [firstError] at h
  split at h
  · next hl =>
    cases h
    exact if_pos hl
  · next hl =>
    rw [List.findSome?_append] at h
    obtain ⟨n, hn, rfl⟩ := Option.map_eq_some_iff.mp h
    rw [OptionsBuilder.build, if_neg hl]
    cases ha : self.args.findSome? nulErrorOf with
    | some n' =>
      rw [ha, Option.some_or, Option.some_inj] at hn
      subst hn
      rw [collect_fails heap ha]
      rfl
    | none =>
      rw [ha, Option.none_or] at hn
      obtain ⟨cstrings, after, hc, _⟩ := collect_reads heap ha
      simp only [hc, Except.mapError, bind, Except.bind, transpose_fails _ hn]

lemma build_reads (heap : Heap) (h : firstError self.args self.defaultExitFunction = none) :
    ∃ options after, self.build heap = .ok (options, after) ∧ ∀ later, after <+: later →
      ReadsBack later options self.args self.defaultExitFunction self.raw := by
  simp only [firstError] at h
  split at h
  · cases h
  next hl =>
  rw [Option.map_eq_none_iff, List.findSome?_append, Option.or_eq_none_iff] at h
  -- three allocations in a row: the strings, the table of their pointers, the exit symbol
  obtain ⟨cstrings, first, hc, _, hlen, hr⟩ := collect_reads heap h.1
  generalize hptrs : cstrings.map CString.ptr = ptrs at hr
  have hcount : ptrs.length = self.args.length := by rw [← hptrs, List.length_map, hlen]
  obtain ⟨argv, second, ht, _, hnull, htable⟩ := collect_table first (hcount ▸ hl) hr
  obtain ⟨exit, third, he, hext, hexit, hsymbol⟩ := transpose_reads second h.2
  have hargv : (if ptrs.isEmpty then none else argv) = argv := by
    split
    · next hnil => exact (hnull.mpr (List.isEmpty_iff.mp hnil)).symm
    · rfl
  have hb : self.build heap = .ok (⟨{ self.raw with
      argc := UInt32.ofNat ptrs.length
      argv := argv
      defaultExitFunction := exit.map CString.ptr }, ⟨cstrings, ⟨ptrs, argv⟩, exit⟩⟩, third) := by
    simp only [OptionsBuilder.build, if_neg hl, hc, Except.mapError, bind, Except.bind, hptrs, ht, he,
      hargv]
  refine ⟨_, third, hb, fun later hlater => ?_⟩
  constructor
  case argc => rw [hcount, toNat_ofNat_short hl]
  case argvNull => rw [hnull, ← List.length_eq_zero_iff, hcount, List.length_eq_zero_iff]
  case strings => exact htable later (hext.trans hlater)
  case exitNull => rw [Option.map_eq_none_iff, hexit]
  case symbol => exact hsymbol later hlater
  case plain => rfl
  case argvOwned => exact fun _ h => h
  case argsOwned => exact hptrs.symm
  case exitOwned => rfl

end building

lemma firstError_isSome {args : List Bytes} {exit : Option Bytes} :
    (∃ e, firstError args exit = some e) ↔
      args.length > u32Max ∨ ∃ bytes ∈ args ++ exit.toList, 0 ∈ bytes := by
  simp only [firstError]
  split
  · next h => simp only [Option.some.injEq, exists_eq', h, true_or]
  · next h =>
    rw [← Option.isSome_iff_exists, Option.isSome_map, ← Option.ne_none_iff_isSome, ne_eq,
      List.findSome?_eq_none_iff]
    simp only [nulErrorOf_eq_none, h, false_or, not_forall, not_not, exists_prop]

/-- Over every sequence of builder calls, `build` fails exactly when the last arguments or the last
symbol cannot be passed, with the first error in order; otherwise C reads back, now and after any
later allocation, what the builder was last told, over the defaults that libriscv set. -/
theorem build_reads_back {σ : Type} (H : Handler native σ) (s : σ) (calls : List BuilderCall)
    (heap : Heap) :
    ∃ builder t, OptionsBuilder.new.run H s = (some builder, t) ∧
      let built := (calls.foldl OptionsBuilder.apply builder).build heap
      ((∃ e, built = .error e) ↔ (lastArgs calls).length > u32Max ∨
        ∃ bytes ∈ lastArgs calls ++ (lastExit calls).toList, 0 ∈ bytes) ∧
      (∀ e, built = .error e → firstError (lastArgs calls) (lastExit calls) = some e) ∧
      ∀ options after, built = .ok (options, after) → ∀ later, after <+: later →
        ReadsBack later options (lastArgs calls) (lastExit calls)
          (told (H (.foreign (.setDefaults .zeroed)) s).1 calls) := by
  refine ⟨_, _, rfl, ?_⟩
  generalize hb : calls.foldl OptionsBuilder.apply _ = builder
  have hargs : builder.args = lastArgs calls := by rw [← hb, apply_args]; rfl
  have hexit : builder.defaultExitFunction = lastExit calls := by rw [← hb, apply_exit]; rfl
  have hraw : builder.raw = told (H (.foreign (.setDefaults .zeroed)) s).1 calls := by
    rw [← hb, apply_raw _ _ _ rfl]
  rw [← hargs, ← hexit, ← hraw, ← firstError_isSome]
  cases h : firstError builder.args builder.defaultExitFunction with
  | some e =>
    have he := build_fails builder heap h
    refine ⟨⟨fun _ => ⟨e, rfl⟩, fun _ => ⟨e, he⟩⟩, fun e' h' => ?_, fun options after h' => ?_⟩
    · rw [he] at h'
      cases h'
      rfl
    · rw [he] at h'
      cases h'
  | none =>
    obtain ⟨options, after, ho, hr⟩ := build_reads builder heap h
    refine ⟨⟨?_, fun hn => nomatch hn⟩, fun e' h' => ?_, fun options' after' h' => ?_⟩
    · rintro ⟨e, he⟩
      rw [ho] at he
      cases he
    · rw [ho] at h'
      cases h'
    · rw [ho] at h'
      cases h'
      exact hr

end Libriscv.RoundTrip

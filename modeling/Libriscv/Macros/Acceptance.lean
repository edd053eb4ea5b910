import Libriscv.Macros.Reading

/-! The registry macro accepts exactly the well-formed modules, and keeps them intact. -/

namespace Libriscv.Macros

open Foundations

/-- The error of the first offender in source order. A duplicate is charged to its later
occurrence. -/
inductive FirstOffence (ms : List Marked) : SynError → Prop
  | unreadable {before after : List Marked} {m : Marked} {e : SynError}
      (hm : ms = before ++ m :: after) (hb : WellFormed before) (hn : ∀ lit, ¬ Asks m.2 lit)
      (he : readMarked m = .error e) : FirstOffence ms e
  | duplicate {before after : List Marked} {m : Marked} {earlier : Marked} {lit lit' : LitInt}
      (hm : ms = before ++ m :: after) (hb : WellFormed before) (hl : Asks m.2 lit)
      (hmem : earlier ∈ before) (hl' : Asks earlier.2 lit') (hv : lit'.value = lit.value) :
      FirstOffence ms ⟨m.2.span, s!"duplicate syscall id {lit.value}"⟩

inductive FirstError (attrEmpty : Bool) (input : ItemMod) : SynError → Prop
  | arguments (ha : attrEmpty = false) :
      FirstError attrEmpty input ⟨.callSite, "syscall_registry takes no arguments"⟩
  | outOfLine (ha : attrEmpty = true) (hc : input.content = none) :
      FirstError attrEmpty input ⟨input.span, "syscall_registry expects an inline module"⟩
  | offence {items : List Item} {e : SynError} (ha : attrEmpty = true)
      (hc : input.content = some items) (ho : FirstOffence (marked items) e) :
      FirstError attrEmpty input e

structure Generates (name : String) (block : Block) (func : ItemFn) : Prop where
  ident : func.sig.ident = ⟨false, name⟩
  attrs : func.attrs = []
  vis : func.vis = .pub
  block : func.block = block

/-- The items as they were, then `register` with its registrations, then `registry`. -/
structure WithRegistry (input out : ItemMod) (items : List Item)
    (registrations : List Registration) : Prop where
  ident : out.ident = input.ident
  span : out.span = input.span
  content : ∃ register registry, out.content = some (items ++ [.fn register, .fn registry]) ∧
    Generates "register" (.register registrations) register ∧
    Generates "registry" .registry registry

def ItemMod.withRegistry (input : ItemMod) (items : List Item) (registrations : List Registration) :
    ItemMod where
  ident := input.ident
  content := some (items ++ [.fn (registerFn registrations), .fn registryFn])
  span := input.span

lemma withRegistry_spec (input : ItemMod) (items : List Item) (registrations : List Registration) :
    WithRegistry input (input.withRegistry items registrations) items registrations where
  ident := rfl
  span := rfl
  content := ⟨_, _, rfl, ⟨rfl, rfl, rfl, rfl⟩, ⟨rfl, rfl, rfl, rfl⟩⟩

lemma syscallRegistry_eq {input : ItemMod} {items : List Item} (h : input.content = some items) :
    syscallRegistry true input =
      (scanMarked [] (marked items)).map fun rs => input.withRegistry items (rs.map Prod.fst) := by
  rw [syscallRegistry, if_pos rfl, h]
  simp only [collectItems_eq, List.nil_append]
  cases scanMarked [] (marked items) <;> rfl

lemma syscallRegistry_eq_ok {input out : ItemMod} {items : List Item}
    (hc : input.content = some items) : syscallRegistry true input = .ok out ↔
      ∃ lits, List.Forall₂ (fun m lit => Asks m.2 lit) (marked items) lits ∧
        (lits.map LitInt.value).Nodup ∧
        out = input.withRegistry items ((List.zipWith reading (marked items) lits).map Prod.fst) := by
  rw [syscallRegistry_eq hc]
  refine ⟨?_, ?_⟩
  · intro h
    cases hs : scanMarked [] (marked items) with
    | error e =>
      rw [hs] at h
      cases h
    | ok rs =>
      rw [hs] at h
      cases h
      obtain ⟨lits, hf, hd, rfl⟩ := scanMarked_eq_ok.mp hs
      exact ⟨lits, hf, hd, rfl⟩
  · rintro ⟨lits, hf, hd, rfl⟩
    rw [scanMarked_eq_ok.mpr ⟨lits, hf, hd, rfl⟩]
    rfl

lemma duplicateId_reading {m : Marked} {lit : LitInt} (h : Asks m.2 lit) :
    duplicateId m (reading m lit) = ⟨m.2.span, s!"duplicate syscall id {lit.value}"⟩ := by
  have hn : toString (UInt32.ofNat lit.value) = toString lit.value :=
    congrArg toString (UInt32.toNat_ofNat_of_lt' h.fits)
  rw [duplicateId, reading, hn]

lemma scan_eq_error_iff {ms : List Marked} {e : SynError} :
    scanMarked [] ms = .error e ↔ FirstOffence ms e := by
  refine ⟨fun h => ?_, fun h => ?_⟩
  · obtain ⟨before, m, after, bs, hm, hb, ho⟩ := scan_eq_error h
    have hwell : WellFormed before := wellFormed_iff.mpr ⟨bs, hb⟩
    rcases ho with he | ⟨r, hr, hseen, rfl⟩
    · refine .unreadable hm hwell (fun lit hl => ?_) he
      rw [readMarked_eq_ok.mpr ⟨lit, hl, rfl⟩] at he
      cases he
    · obtain ⟨lit, hl, rfl⟩ := readMarked_eq_ok.mp hr
      obtain ⟨lits, hf, _, rfl⟩ := scanMarked_eq_ok.mp hb
      obtain ⟨earlier, hmem, lit', hl', hv⟩ :=
        exists_earlier hl.fits hf (hseen.resolve_left List.not_mem_nil)
      rw [duplicateId_reading hl]
      exact .duplicate hm hwell hl hmem hl' hv
  · cases h with
    | @unreadable before after m e hm hb hn he =>
      obtain ⟨rs, hs⟩ := wellFormed_iff.mp hb
      rw [scanMarked] at hs
      rw [hm, scanMarked, scan_append, hs]
      simp only [Except.bind, scan_cons_error he, Except.map]
    | @duplicate before after m earlier lit lit' hm hb hl hmem hl' hv =>
      obtain ⟨lits, hf, hd⟩ := hb
      have hs := scanMarked_eq_ok.mpr ⟨lits, hf, hd, rfl⟩
      have hr := readMarked_eq_ok.mpr ⟨lit, hl, rfl⟩
      have hseen : (reading m lit).2 ∈
          ((List.zipWith reading before lits).map Prod.snd).reverse ++ [] := by
        rw [List.append_nil, List.mem_reverse, reading, ← hv]
        exact seen_of_asks hf hmem hl'
      rw [scanMarked] at hs
      rw [hm, scanMarked, scan_append, hs]
      simp only [Except.bind, scan_cons_repeated hr hseen, Except.map, duplicateId_reading hl]

lemma marked_skip {item : Item} (h : ∀ func, item ≠ .fn func) (before after : List Item) :
    marked (before ++ item :: after) = marked (before ++ after) := by
  have hi : markedOf item = [] := by
    cases item with
    | fn func => exact absurd rfl (h func)
    | mod | impl | other => rfl
  rw [marked, marked, List.flatMap_append, List.flatMap_append, List.flatMap_cons, hi, List.nil_append]

/-- The registry macro accepts the well-formed inline modules, keeps their items and registers their
marked functions in order. Otherwise it reports the first error, which nested items never cause. -/
theorem registry_contract (attrEmpty : Bool) (input : ItemMod) :
    ((∃ out, syscallRegistry attrEmpty input = .ok out) ↔
      attrEmpty = true ∧ ∃ items, input.content = some items ∧ WellFormed (marked items)) ∧
    (∀ out, syscallRegistry attrEmpty input = .ok out →
      ∃ items registrations, input.content = some items ∧
        WithRegistry input out items registrations ∧
        List.Forall₂ RegistrationOf (marked items) registrations) ∧
    (∀ e, syscallRegistry attrEmpty input = .error e → FirstError attrEmpty input e) ∧
    (∀ before item after, (∀ func, item ≠ .fn func) →
      input.content = some (before ++ item :: after) →
      ∀ e, syscallRegistry attrEmpty input = .error e ↔
        syscallRegistry attrEmpty { input with content := some (before ++ after) } = .error e) := by
  refine ⟨?_, ?_, ?_, ?_⟩
  · cases attrEmpty with
    | false => simp [syscallRegistry]
    | true =>
      cases hc : input.content with
      | none => simp [syscallRegistry, hc]
      | some items =>
        simp only [syscallRegistry_eq hc, wellFormed_iff, Option.some.injEq, true_and,
          exists_eq_left']
        cases scanMarked [] (marked items) <;> simp [Except.map]
  · intro out h
    cases attrEmpty with
    | false => cases h
    | true =>
      cases hc : input.content with
      | none =>
        rw [syscallRegistry, if_pos rfl, hc] at h
        cases h
      | some items =>
        obtain ⟨lits, hf, _, rfl⟩ := (syscallRegistry_eq_ok hc).mp h
        exact ⟨items, _, rfl, withRegistry_spec _ _ _, registrationOf_reading hf⟩
  · intro e h
    cases attrEmpty with
    | false =>
      cases h
      exact .arguments rfl
    | true =>
      cases hc : input.content with
      | none =>
        rw [syscallRegistry, if_pos rfl, hc] at h
        cases h
        exact .outOfLine rfl hc
      | some items =>
        rw [syscallRegistry_eq hc] at h
        cases hs : scanMarked [] (marked items) with
        | ok rs =>
          rw [hs] at h
          cases h
        | error e' =>
          rw [hs] at h
          cases h
          exact .offence rfl hc (scan_eq_error_iff.mp hs)
  · intro before item after hi hc e
    cases attrEmpty with
    | false => rfl
    | true =>
      rw [syscallRegistry_eq hc, syscallRegistry_eq rfl, marked_skip hi]
      cases scanMarked [] (marked (before ++ after)) <;> simp [Except.map]

end Libriscv.Macros

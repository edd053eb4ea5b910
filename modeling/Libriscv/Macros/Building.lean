import Libriscv.Macros.Compiled

/-! Which modules with the registry attribute build at all, under any configuration. -/

namespace Libriscv.Macros

def generatedNames (func : ItemFn) : List String :=
  [(trampolineName .syscall func).name, (wrapperName func).name]

section

variable (build : Build)

def namesOfAttrs (attrs : List Attribute) (func : ItemFn) : List String :=
  (attrs.filter build.expands).flatMap (fun _ => generatedNames func) ++ [func.sig.ident.name]

def namesOfFn (func : ItemFn) : List String :=
  if build.enabled func.attrs then namesOfAttrs build (build.configureAttrs func.attrs) func else []

/-- The names that a module comes to define, with those that are generated for it. -/
def definedNames (items : List Item) : List String :=
  (build.functions items).flatMap (namesOfFn build) ++ ["register", "registry"] ++
    build.values items

/-- The names of the constructors that are generated in a module. -/
def constructorNames (items : List Item) : List String :=
  (expanded build items).map fun m => (wrapperName m.1).name

/-- What a module with the registry attribute needs in order to build. -/
structure Buildable (items : List Item) : Prop where
  readable : WellFormed (marked items)
  handled : ∀ m ∈ expanded build items, Handled m.2 m.1
  callable : ∀ m ∈ expanded build items, Callable build m.1
  distinct : (definedNames build items).Nodup
  checked : ∀ item ∈ items, checkItem build item = true
  fits : build.importsOk = true ∨ "Ok" ∈ definedNames build items → build.ownOk.isSome = true
  linked : ∀ m ∈ marked items, (wrapperName m.1).name ∈ constructorNames build items

end

section names

variable {build : Build}

lemma namesOfAttrs_cons {attr : Attribute} (ha : build.expands attr) (attrs : List Attribute)
    (func : ItemFn) : namesOfAttrs build (attr :: attrs) func =
      generatedNames func ++ namesOfAttrs build attrs (wrapSyscallResult func) := by
  rw [namesOfAttrs, namesOfAttrs, List.filter_cons_of_pos ha, List.flatMap_cons,
    List.append_assoc, generatedNames, generatedNames, trampolineName, trampolineName,
    wrapperName, wrapperName, wrapSyscallResult_sig]

lemma names_expandAttrs {attrs : List Attribute} {func : ItemFn} {defs : Definitions}
    (h : expandAttrs build attrs func = .ok defs) :
    defs.map Prod.fst = namesOfAttrs build attrs func := by
  induction attrs generalizing func defs with
  | nil =>
    cases h
    rfl
  | cons attr attrs ih =>
    by_cases ha : build.expands attr
    · obtain ⟨-, lit, rest, -, -, hr, rfl⟩ := (expandAttrs_cons_iff ha).mp h
      rw [List.map_append, ih hr, namesOfAttrs_cons ha]
      rfl
    · rw [expandAttrs, if_neg ha] at h
      rw [namesOfAttrs, List.filter_cons_of_neg ha]
      exact ih h

lemma names_expandFn {func : ItemFn} {defs : Definitions}
    (h : expandFn build func = .ok defs) : defs.map Prod.fst = namesOfFn build func := by
  rw [expandFn] at h
  rw [namesOfFn]
  split at h
  · next he =>
    rw [if_pos he]
    exact names_expandAttrs h
  · next he =>
    cases h
    rw [if_neg he]
    rfl

lemma names_expandFns {functions : List ItemFn} {defs : Definitions}
    (h : expandFns build functions = .ok defs) :
    defs.map Prod.fst = functions.flatMap (namesOfFn build) := by
  induction functions generalizing defs with
  | nil =>
    cases h
    rfl
  | cons func functions ih =>
    obtain ⟨ds, hd, h⟩ := ok_of_bind h
    obtain ⟨rest, hr, h⟩ := ok_of_bind h
    cases h
    rw [List.map_append, names_expandFn hd, ih hr, List.flatMap_cons]

lemma names_withRegistry {items : List Item} {own : Definitions}
    (h : expandFns build (build.functions items) = .ok own) (registrations : List Registration) :
    (own ++ registryDefs registrations ++ otherDefs build items).map Prod.fst =
      definedNames build items := by
  have hother : (otherDefs build items).map Prod.fst = build.values items := by
    rw [otherDefs, List.map_map]
    exact List.map_id _
  rw [List.map_append, List.map_append, names_expandFns h, hother]
  rfl

end names

section

variable {build : Build} {defs : Definitions}

lemma callConstructor_isSome (hn : (defs.map Prod.fst).Nodup) (handler : Ident) :
    (∃ h, callConstructor build defs handler = some h) ↔
      ∃ t, (handler.name, .handlerConstructor t) ∈ defs := by
  refine ⟨?_, ?_⟩
  · rintro ⟨h, hc⟩
    rw [callConstructor] at hc
    split at hc
    · next t hl => exact ⟨t, mem_of_lookup hl⟩
    · cases hc
  · rintro ⟨t, hm⟩
    rw [callConstructor, lookup_of_mem hn hm]
    exact ⟨_, rfl⟩

lemma link_isSome {registrations : List Registration} :
    (∃ steps, link build defs registrations = some steps) ↔
      ∀ r ∈ registrations, ∃ h, callConstructor build defs r.handler = some h := by
  induction registrations with
  | nil => exact ⟨fun _ _ h => (by cases h), fun _ => ⟨[], rfl⟩⟩
  | cons r rs ih =>
    rw [List.forall_mem_cons, ← ih]
    refine ⟨?_, ?_⟩
    · rintro ⟨steps, h⟩
      obtain ⟨handler, hh, h⟩ := Option.bind_eq_some_iff.mp h
      obtain ⟨steps', hs, _⟩ := Option.bind_eq_some_iff.mp h
      exact ⟨⟨handler, hh⟩, steps', hs⟩
    · rintro ⟨⟨handler, hh⟩, steps, hs⟩
      refine ⟨(r.id, handler) :: steps, ?_⟩
      rw [link, hh, hs]
      rfl

lemma map_handler_reading {ms : List Marked} {lits : List LitInt}
    (hf : List.Forall₂ (fun m lit => Asks m.2 lit) ms lits) :
    ((List.zipWith reading ms lits).map Prod.fst).map Registration.handler =
      ms.map fun m => wrapperName m.1 := by
  induction hf with
  | nil => rfl
  | cons _ _ ih => exact congrArg (List.cons _) ih

variable {items : List Item} {own : Definitions} {registrations : List Registration}

lemma constructor_mem_iff (hown : expandFns build (build.functions items) = .ok own)
    (hd : defs = own ++ registryDefs registrations ++ otherDefs build items)
    (hn : (defs.map Prod.fst).Nodup) (name : String) :
    (∃ t, (name, .handlerConstructor t) ∈ defs) ↔ name ∈ constructorNames build items := by
  rw [constructorNames, List.mem_map]
  refine ⟨?_, ?_⟩
  · rintro ⟨t, hm⟩
    have hmem : (name, .handlerConstructor t) ∈ own := by
      simpa [hd, registryDefs, otherDefs] using hm
    rcases expandFns_beside hown hmem with ⟨f, hf⟩ | ⟨m, hme, ⟨ht, -⟩ | ⟨-, rfl⟩⟩
    · cases hf
    · cases ht
    · exact ⟨m, hme, rfl⟩
  · rintro ⟨m, hm, rfl⟩
    exact ⟨_, (handles_of_expanded hown hd hn hm).wrapper⟩

lemma linked_iff (hown : expandFns build (build.functions items) = .ok own) {lits : List LitInt}
    (hf : List.Forall₂ (fun m lit => Asks m.2 lit) (marked items) lits)
    (hd : defs = own ++ registryDefs ((List.zipWith reading (marked items) lits).map Prod.fst) ++
      otherDefs build items) (ht : Typed build items defs) :
    (∃ program, registryProgram build defs = some program) ↔
      ∀ m ∈ marked items, (wrapperName m.1).name ∈ constructorNames build items := by
  obtain ⟨ok, hok⟩ := Option.isSome_iff_exists.mp ht.fits
  have hp : (∃ program, registryProgram build defs = some program) ↔
      ∃ steps, link build defs ((List.zipWith reading (marked items) lits).map Prod.fst) =
        some steps := by
    rw [registryProgram_eq hd ht.distinct hok]
    simp [Option.map_eq_some_iff]
  have hh := map_handler_reading hf
  rw [hp, link_isSome]
  simp only [callConstructor_isSome ht.distinct, constructor_mem_iff hown hd ht.distinct]
  refine ⟨fun h m hm => ?_, fun h r hr => ?_⟩
  · have hm' := List.mem_map_of_mem (f := fun m : Marked => wrapperName m.1) hm
    rw [← hh] at hm'
    obtain ⟨r, hr, he⟩ := List.mem_map.mp hm'
    exact he ▸ h r hr
  · have hr' := List.mem_map_of_mem (f := Registration.handler) hr
    rw [hh] at hr'
    obtain ⟨m, hm, he⟩ := List.mem_map.mp hr'
    exact he ▸ h m hm

lemma fits_iff (hd : defs.map Prod.fst = definedNames build items) :
    (resolveOk build defs).isSome = true ↔
      (build.importsOk = true ∨ "Ok" ∈ definedNames build items → build.ownOk.isSome = true) := by
  rw [resolveOk, hd]
  split
  · next h => exact ⟨fun hs _ => hs, fun hs => hs h⟩
  · next h => exact ⟨fun _ h' => absurd h' h, fun _ => rfl⟩

end

end Libriscv.Macros

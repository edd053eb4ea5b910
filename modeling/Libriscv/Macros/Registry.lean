import Libriscv.Foundations.Scan
import Libriscv.Macros.Handlers

/-! The registry macro: which modules it accepts, what it makes of them, and its first error. -/

namespace Libriscv.Macros

open Foundations

structure Collected where
  registrations : List Registration
  newItems : List Item
  seenIds : List UInt32

def collectAttrs (func : ItemFn) : List Attribute → Collected → Except SynError Collected
  | [], c => .ok c
  | attr :: attrs, c =>
    if attr.isSyscall then do
      let id ← parseSyscallAttr attr
      let idValue ← id.base10Parse
      if idValue ∈ c.seenIds then .error ⟨attr.span, s!"duplicate syscall id {idValue}"⟩
      else collectAttrs func attrs { c with
        registrations := c.registrations ++ [⟨id, wrapperName func⟩]
        seenIds := idValue :: c.seenIds }
    else collectAttrs func attrs c

def collectItem (c : Collected) : Item → Except SynError Collected
  | .fn func => collectAttrs func func.attrs c
  | _ => .ok c

def collectItems : List Item → Collected → Except SynError Collected
  | [], c => .ok c
  | item :: items, c => do
    let c ← collectItem c item
    collectItems items { c with newItems := c.newItems ++ [item] }

def syscallRegistry (attrEmpty : Bool) (input : ItemMod) : Except SynError ItemMod :=
  if attrEmpty then
    match input.content with
    | none => .error ⟨input.span, "syscall_registry expects an inline module"⟩
    | some items => do
      let c ← collectItems items ⟨[], [], []⟩
      .ok { input with
        content := some (c.newItems ++ [.fn (registerFn c.registrations), .fn registryFn]) }
  else .error ⟨.callSite, "syscall_registry takes no arguments"⟩

abbrev Marked := ItemFn × Attribute

def markedOf : Item → List Marked
  | .fn func => (func.attrs.filter Attribute.isSyscall).map (func, ·)
  | _ => []

def marked (items : List Item) : List Marked := items.flatMap markedOf

lemma mem_marked {items : List Item} {m : Marked} :
    m ∈ marked items ↔ Item.fn m.1 ∈ items ∧ m.2 ∈ m.1.attrs ∧ m.2.isSyscall := by
  rw [marked, List.mem_flatMap]
  refine ⟨?_, ?_⟩
  · rintro ⟨item, hi, hm⟩
    cases item with
    | mod | impl | other => cases hm
    | fn func =>
      obtain ⟨attr, ha, rfl⟩ := List.mem_map.mp hm
      exact ⟨hi, List.mem_filter.mp ha⟩
  · rintro ⟨hi, ha⟩
    exact ⟨_, hi, List.mem_map.mpr ⟨m.2, List.mem_filter.mpr ha, rfl⟩⟩

def readMarked (m : Marked) : Except SynError (Registration × UInt32) := do
  let id ← parseSyscallAttr m.2
  let idValue ← id.base10Parse
  .ok (⟨id, wrapperName m.1⟩, idValue)

def duplicateId (m : Marked) (r : Registration × UInt32) : SynError :=
  ⟨m.2.span, s!"duplicate syscall id {r.2}"⟩

def scanMarked : List UInt32 → List Marked → Except SynError (List (Registration × UInt32)) :=
  scan readMarked Prod.snd duplicateId

def Collected.extend (c : Collected) (rs : List (Registration × UInt32)) : Collected where
  registrations := c.registrations ++ rs.map Prod.fst
  newItems := c.newItems
  seenIds := (rs.map Prod.snd).reverse ++ c.seenIds

section collection

variable (c : Collected)

lemma extend_nil : c.extend [] = c := by
  rw [Collected.extend, List.map_nil, List.append_nil]
  rfl

lemma extend_append (rs rs' : List (Registration × UInt32)) :
    (c.extend rs).extend rs' = c.extend (rs ++ rs') := by
  simp only [Collected.extend, List.map_append, List.reverse_append, List.append_assoc]

lemma collectAttrs_cons {attr : Attribute} (ha : attr.isSyscall) (func : ItemFn)
    (attrs : List Attribute) : collectAttrs func (attr :: attrs) c =
      (readMarked (func, attr)).bind fun r =>
        if r.2 ∈ c.seenIds then .error (duplicateId (func, attr) r)
        else collectAttrs func attrs (c.extend [r]) := by
  rw [collectAttrs, if_pos ha, readMarked]
  cases parseSyscallAttr attr with
  | error e => rfl
  | ok id =>
    simp only [bind, Except.bind]
    cases id.base10Parse <;> rfl

lemma collectAttrs_eq (func : ItemFn) (attrs : List Attribute) : collectAttrs func attrs c =
    (scanMarked c.seenIds ((attrs.filter Attribute.isSyscall).map (func, ·))).map c.extend := by
  induction attrs generalizing c with
  | nil =>
    rw [collectAttrs, List.filter_nil, List.map_nil, scanMarked, scan, Except.map, extend_nil]
  | cons attr attrs ih =>
    by_cases ha : attr.isSyscall
    · rw [collectAttrs_cons c ha, List.filter_cons_of_pos ha, List.map_cons, scanMarked]
      cases hr : readMarked (func, attr) with
      | error e =>
        rw [scan_cons_error hr]
        rfl
      | ok r =>
        by_cases hm : r.2 ∈ c.seenIds
        · rw [scan_cons_repeated hr hm, Except.bind, if_pos hm]
          rfl
        · rw [scan_cons_fresh hr hm, Except.bind, if_neg hm, ih, scanMarked]
          change (scan _ _ _ (r.2 :: c.seenIds) _).map _ = _
          cases scan readMarked Prod.snd duplicateId (r.2 :: c.seenIds) _ with
          | error e => rfl
          | ok rs => exact congrArg Except.ok (extend_append c [r] rs)
    · rw [collectAttrs, if_neg ha, List.filter_cons_of_neg ha, ih]

lemma collectItem_eq (item : Item) :
    collectItem c item = (scanMarked c.seenIds (markedOf item)).map c.extend := by
  cases item with
  | fn func => exact collectAttrs_eq c func func.attrs
  | mod | impl | other =>
    change Except.ok c = Except.ok (c.extend [])
    rw [extend_nil]

lemma collectItems_eq (items : List Item) : collectItems items c =
    (scanMarked c.seenIds (marked items)).map fun rs =>
      { c.extend rs with newItems := c.newItems ++ items } := by
  induction items generalizing c with
  | nil =>
    rw [collectItems, marked, List.flatMap_nil, scanMarked, scan, Except.map, extend_nil,
      List.append_nil]
  | cons item items ih =>
    have hm : marked (item :: items) = markedOf item ++ marked items := List.flatMap_cons
    rw [collectItems, collectItem_eq, hm, scanMarked, scan_append]
    cases scan readMarked Prod.snd duplicateId c.seenIds (markedOf item) with
    | error e => rfl
    | ok rs =>
      simp only [Except.map, bind, Except.bind, ih]
      change Except.map _ (scan _ _ _ ((rs.map Prod.snd).reverse ++ c.seenIds) (marked items)) = _
      cases scan readMarked Prod.snd duplicateId ((rs.map Prod.snd).reverse ++ c.seenIds) _ with
      | error e => rfl
      | ok rs' =>
        simp only [Except.map, Collected.extend, List.map_append,
          List.reverse_append, List.append_assoc, List.singleton_append]

end collection

end Libriscv.Macros

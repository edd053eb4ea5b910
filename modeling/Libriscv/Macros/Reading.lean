import Mathlib.Data.List.Nodup
import Libriscv.Macros.Registry

/-! What a marked function asks for, and when a list of marked functions can be read. -/

namespace Libriscv.Macros

open Foundations

structure Asks (attr : Attribute) (lit : LitInt) : Prop where
  form : ∃ pathSpan span,
    attr.parseArgs = .ok (.nameValue (.ofIdent "id") pathSpan (.lit (.int lit)) span)
  positive : lit.negative = false
  fits : lit.value < 2 ^ 32

lemma Asks.unique {attr : Attribute} {lit lit' : LitInt} (h : Asks attr lit) (h' : Asks attr lit') :
    lit = lit' := by
  obtain ⟨_, _, hf⟩ := h.form
  obtain ⟨_, _, hf'⟩ := h'.form
  rw [hf] at hf'
  cases hf'
  rfl

def WellFormed (ms : List Marked) : Prop :=
  ∃ lits, List.Forall₂ (fun m lit => Asks m.2 lit) ms lits ∧ (lits.map LitInt.value).Nodup

def RegistrationOf (m : Marked) (r : Registration) : Prop :=
  ∃ lit, Asks m.2 lit ∧ r.id.value = lit.value ∧
    r.handler = ⟨false, m.1.sig.ident.name ++ "_handler"⟩

section reading

variable {m : Marked} {lit : LitInt}

lemma parseIdValue_eq_ok {value : Expr} {id : LitInt} : parseIdValue value = .ok id ↔
    ∃ lit n, value = .lit (.int lit) ∧ lit.base10Parse = .ok n ∧ id = .ofU32 n lit.span := by
  rcases value with (lit | span) | span
  · rw [parseIdValue]
    cases hn : lit.base10Parse with
    | error e =>
      refine ⟨?_, ?_⟩
      · exact fun h => nomatch h
      · rintro ⟨_, n, ⟨⟩, hn', _⟩
        rw [hn] at hn'
        cases hn'
    | ok n =>
      refine ⟨?_, ?_⟩
      · rintro ⟨⟩
        exact ⟨lit, n, rfl, hn, rfl⟩
      · rintro ⟨_, n', ⟨⟩, hn', rfl⟩
        rw [hn] at hn'
        cases hn'
        rfl
  all_goals
    refine ⟨?_, ?_⟩
    · exact fun h => nomatch h
    · rintro ⟨_, _, he, _⟩
      cases he

lemma parseSyscallId_eq_ok {arg : Meta} {id : LitInt} : parseSyscallId arg = .ok id ↔
    ∃ pathSpan value span, arg = .nameValue (.ofIdent "id") pathSpan value span ∧
      parseIdValue value = .ok id := by
  cases arg with
  | path | list =>
    refine ⟨?_, ?_⟩
    · exact fun h => nomatch h
    · rintro ⟨_, _, _, he, _⟩
      cases he
  | nameValue path pathSpan value span =>
    rw [parseSyscallId]
    split
    · next hp =>
      obtain rfl := Path.isIdent_iff.mp hp
      refine ⟨?_, ?_⟩
      · exact fun h => ⟨pathSpan, value, span, rfl, h⟩
      · rintro ⟨_, _, _, ⟨⟩, h⟩
        exact h
    · next hp =>
      refine ⟨?_, ?_⟩
      · exact fun h => nomatch h
      · rintro ⟨_, _, _, ⟨⟩, _⟩
        exact absurd (Path.isIdent_iff.mpr rfl) hp

lemma parseSyscallAttr_eq_ok {attr : Attribute} {id : LitInt} : parseSyscallAttr attr = .ok id ↔
    ∃ lit, Asks attr lit ∧ id = .ofU32 (UInt32.ofNat lit.value) lit.span := by
  rw [parseSyscallAttr]
  cases ha : attr.parseArgs with
  | error e =>
    refine ⟨?_, ?_⟩
    · exact fun h => nomatch h
    · rintro ⟨lit, ⟨⟨_, _, ha'⟩, _, _⟩, _⟩
      rw [ha] at ha'
      cases ha'
  | ok arg =>
    refine parseSyscallId_eq_ok.trans ⟨?_, ?_⟩
    · rintro ⟨pathSpan, value, span, rfl, hv⟩
      obtain ⟨lit, n, rfl, hn, rfl⟩ := parseIdValue_eq_ok.mp hv
      obtain ⟨hneg, hval⟩ := LitInt.base10Parse_eq_ok.mp hn
      refine ⟨lit, ⟨⟨pathSpan, span, ha⟩, hneg, hval ▸ n.toNat_lt⟩, ?_⟩
      rw [hval, UInt32.ofNat_toNat]
    · rintro ⟨lit, ⟨⟨pathSpan, span, ha'⟩, hneg, hfits⟩, rfl⟩
      rw [ha] at ha'
      cases ha'
      refine ⟨pathSpan, _, span, rfl, parseIdValue_eq_ok.mpr ⟨lit, _, rfl, ?_, rfl⟩⟩
      rw [LitInt.base10Parse_eq_ok, UInt32.toNat_ofNat_of_lt' hfits]
      exact ⟨hneg, rfl⟩

def reading (m : Marked) (lit : LitInt) : Registration × UInt32 :=
  (⟨.ofU32 (UInt32.ofNat lit.value) lit.span, wrapperName m.1⟩, UInt32.ofNat lit.value)

lemma readMarked_eq_ok {r : Registration × UInt32} :
    readMarked m = .ok r ↔ ∃ lit, Asks m.2 lit ∧ r = reading m lit := by
  rw [readMarked]
  cases hp : parseSyscallAttr m.2 with
  | error e =>
    refine ⟨?_, ?_⟩
    · intro h
      cases h
    · rintro ⟨lit, hl, _⟩
      rw [parseSyscallAttr_eq_ok.mpr ⟨lit, hl, rfl⟩] at hp
      cases hp
  | ok id =>
    obtain ⟨lit, hl, rfl⟩ := parseSyscallAttr_eq_ok.mp hp
    simp only [bind, Except.bind, LitInt.base10Parse_ofU32]
    refine ⟨?_, ?_⟩
    · rintro ⟨⟩
      exact ⟨lit, hl, rfl⟩
    · rintro ⟨lit', hl', rfl⟩
      rw [hl.unique hl']
      rfl

end reading

section scanning

variable {ms : List Marked}

lemma forall₂_readMarked {rs : List (Registration × UInt32)} :
    List.Forall₂ (fun m r => readMarked m = .ok r) ms rs ↔
      ∃ lits, List.Forall₂ (fun m lit => Asks m.2 lit) ms lits ∧ rs = List.zipWith reading ms lits := by
  induction ms generalizing rs with
  | nil =>
    rw [List.forall₂_nil_left_iff]
    refine ⟨?_, ?_⟩
    · rintro rfl
      exact ⟨[], .nil, rfl⟩
    · rintro ⟨lits, _, rfl⟩
      rfl
  | cons m ms ih =>
    rw [List.forall₂_cons_left_iff]
    refine ⟨?_, ?_⟩
    · rintro ⟨r, rs, hr, hrs, rfl⟩
      obtain ⟨lit, hl, rfl⟩ := readMarked_eq_ok.mp hr
      obtain ⟨lits, hf, rfl⟩ := ih.mp hrs
      exact ⟨lit :: lits, .cons hl hf, rfl⟩
    · rintro ⟨_, hf, rfl⟩
      obtain ⟨lit, lits, hl, hf', rfl⟩ := List.forall₂_cons_left_iff.mp hf
      exact ⟨_, _, readMarked_eq_ok.mpr ⟨lit, hl, rfl⟩, ih.mpr ⟨lits, hf', rfl⟩, rfl⟩

lemma map_snd_reading {lits : List LitInt} (h : List.Forall₂ (fun m lit => Asks m.2 lit) ms lits) :
    ((List.zipWith reading ms lits).map Prod.snd).map UInt32.toNat = lits.map LitInt.value := by
  induction h with
  | nil => rfl
  | cons hl _ ih =>
    rw [List.zipWith_cons_cons, List.map_cons, List.map_cons, List.map_cons, ih, reading,
      UInt32.toNat_ofNat_of_lt' hl.fits]

lemma nodup_reading {lits : List LitInt} (h : List.Forall₂ (fun m lit => Asks m.2 lit) ms lits) :
    ((List.zipWith reading ms lits).map Prod.snd).Nodup ↔ (lits.map LitInt.value).Nodup := by
  rw [← map_snd_reading h]
  exact (List.nodup_map_iff fun _ _ => UInt32.toNat_inj.mp).symm

lemma scanMarked_eq_ok {rs : List (Registration × UInt32)} : scanMarked [] ms = .ok rs ↔
    ∃ lits, List.Forall₂ (fun m lit => Asks m.2 lit) ms lits ∧ (lits.map LitInt.value).Nodup ∧
      rs = List.zipWith reading ms lits := by
  rw [scanMarked, scan_eq_ok, forall₂_readMarked]
  refine ⟨?_, ?_⟩
  · rintro ⟨⟨lits, hf, rfl⟩, hd, _⟩
    exact ⟨lits, hf, (nodup_reading hf).mp hd, rfl⟩
  · rintro ⟨lits, hf, hd, rfl⟩
    exact ⟨⟨lits, hf, rfl⟩, (nodup_reading hf).mpr hd, fun _ _ => List.not_mem_nil⟩

lemma wellFormed_iff : WellFormed ms ↔ ∃ rs, scanMarked [] ms = .ok rs := by
  simp only [scanMarked_eq_ok, WellFormed]
  refine ⟨?_, ?_⟩
  · rintro ⟨lits, hf, hd⟩
    exact ⟨_, lits, hf, hd, rfl⟩
  · rintro ⟨_, lits, hf, hd, _⟩
    exact ⟨lits, hf, hd⟩

lemma registrationOf_reading {lits : List LitInt}
    (h : List.Forall₂ (fun m lit => Asks m.2 lit) ms lits) :
    List.Forall₂ RegistrationOf ms ((List.zipWith reading ms lits).map Prod.fst) := by
  induction h with
  | nil => exact .nil
  | @cons m lit _ _ hl _ ih =>
    refine .cons ⟨lit, hl, ?_, ?_⟩ ih
    · rw [reading, LitInt.value_ofU32, UInt32.toNat_ofNat_of_lt' hl.fits]
    · simp [reading, wrapperName, formatIdent]

lemma exists_asks {lits : List LitInt} (h : List.Forall₂ (fun m lit => Asks m.2 lit) ms lits)
    {lit : LitInt} (hl : lit ∈ lits) : ∃ m ∈ ms, Asks m.2 lit := by
  induction h with
  | nil => cases hl
  | @cons m _ _ _ hm _ ih =>
    rcases List.mem_cons.mp hl with rfl | hl
    · exact ⟨m, List.mem_cons_self, hm⟩
    · obtain ⟨m', hm', ha⟩ := ih hl
      exact ⟨m', List.mem_cons_of_mem _ hm', ha⟩

lemma seen_of_asks {lits : List LitInt} (h : List.Forall₂ (fun m lit => Asks m.2 lit) ms lits)
    {m : Marked} (hm : m ∈ ms) {lit : LitInt} (hl : Asks m.2 lit) :
    UInt32.ofNat lit.value ∈ (List.zipWith reading ms lits).map Prod.snd := by
  induction h with
  | nil => cases hm
  | cons hl' _ ih =>
    rw [List.zipWith_cons_cons, List.map_cons]
    rcases List.mem_cons.mp hm with rfl | hm
    · rw [hl.unique hl']
      exact List.mem_cons_self
    · exact List.mem_cons_of_mem _ (ih hm)

lemma exists_earlier {lits : List LitInt} {value : ℕ} (hv : value < 2 ^ 32)
    (h : List.Forall₂ (fun m lit => Asks m.2 lit) ms lits)
    (hm : UInt32.ofNat value ∈ (List.zipWith reading ms lits).map Prod.snd) :
    ∃ m ∈ ms, ∃ lit, Asks m.2 lit ∧ lit.value = value := by
  have hn := List.mem_map_of_mem (f := UInt32.toNat) hm
  rw [map_snd_reading h, UInt32.toNat_ofNat_of_lt' hv] at hn
  obtain ⟨lit, hl, he⟩ := List.mem_map.mp hn
  obtain ⟨m, hm, ha⟩ := exists_asks h hl
  exact ⟨m, hm, lit, ha, he⟩

end scanning

end Libriscv.Macros

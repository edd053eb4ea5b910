import Mathlib.Data.List.Basic
import Mathlib.Data.List.Forall2

/-! Reading a list in order, with early exits for what cannot be read and for a repeated key. -/

namespace Libriscv.Foundations

variable {α β κ ε : Type} [DecidableEq κ]

/-- Refuse the first element that cannot be read or whose key was seen before. -/
def scan (read : α → Except ε β) (key : β → κ) (repeated : α → β → ε) :
    List κ → List α → Except ε (List β)
  | _, [] => .ok []
  | seen, a :: as => do
    let b ← read a
    if key b ∈ seen then .error (repeated a b)
    else do
      let bs ← scan read key repeated (key b :: seen) as
      .ok (b :: bs)

variable {read : α → Except ε β} {key : β → κ} {repeated : α → β → ε}

lemma scan_cons_error {seen : List κ} {a : α} {e : ε} (h : read a = .error e) (as : List α) :
    scan read key repeated seen (a :: as) = .error e := by
  rw [scan, h]
  rfl

lemma scan_cons_repeated {seen : List κ} {a : α} {b : β} (h : read a = .ok b) (hb : key b ∈ seen)
    (as : List α) : scan read key repeated seen (a :: as) = .error (repeated a b) := by
  rw [scan, h]
  exact if_pos hb

lemma scan_cons_fresh {seen : List κ} {a : α} {b : β} (h : read a = .ok b) (hb : key b ∉ seen)
    (as : List α) : scan read key repeated seen (a :: as) =
      (scan read key repeated (key b :: seen) as).map (b :: ·) := by
  rw [scan, h]
  simp only [bind, Except.bind, if_neg hb]
  cases scan read key repeated (key b :: seen) as <;> rfl

lemma scan_append (seen : List κ) (first second : List α) :
    scan read key repeated seen (first ++ second) = (scan read key repeated seen first).bind fun bs =>
      (scan read key repeated ((bs.map key).reverse ++ seen) second).map (bs ++ ·) := by
  induction first generalizing seen with
  | nil =>
    rw [List.nil_append, scan, Except.bind, List.map_nil, List.reverse_nil, List.nil_append]
    cases scan read key repeated seen second <;> rfl
  | cons a first ih =>
    rw [List.cons_append]
    cases hr : read a with
    | error e =>
      rw [scan_cons_error hr, scan_cons_error hr]
      rfl
    | ok b =>
      by_cases hb : key b ∈ seen
      · rw [scan_cons_repeated hr hb, scan_cons_repeated hr hb]
        rfl
      · rw [scan_cons_fresh hr hb, scan_cons_fresh hr hb, ih]
        cases scan read key repeated (key b :: seen) first with
        | error e => rfl
        | ok bs =>
          simp only [Except.map, Except.bind, List.map_cons, List.reverse_cons, List.append_assoc,
            List.singleton_append]
          cases scan read key repeated ((bs.map key).reverse ++ key b :: seen) second <;> rfl

theorem scan_eq_ok {seen : List κ} {as : List α} {bs : List β} :
    scan read key repeated seen as = .ok bs ↔
      List.Forall₂ (fun a b => read a = .ok b) as bs ∧ (bs.map key).Nodup ∧
        ∀ b ∈ bs, key b ∉ seen := by
  induction as generalizing seen bs with
  | nil =>
    rw [scan, Except.ok.injEq, List.forall₂_nil_left_iff]
    refine ⟨?_, ?_⟩
    · rintro rfl
      simp
    · exact fun h => h.1.symm
  | cons a as ih =>
    -- the seen keys grow with each element, so the statement is about every list of seen keys
    cases hr : read a with
    | error e =>
      rw [scan_cons_error hr]
      refine ⟨?_, ?_⟩
      · exact fun h => nomatch h
      · rintro ⟨h, _⟩
        obtain ⟨b, _, hb, _, _⟩ := List.forall₂_cons_left_iff.mp h
        rw [hr] at hb
        cases hb
    | ok b =>
      by_cases hb : key b ∈ seen
      · rw [scan_cons_repeated hr hb]
        refine ⟨?_, ?_⟩
        · exact fun h => nomatch h
        · rintro ⟨h, _, hn⟩
          obtain ⟨b', bs', hb', _, rfl⟩ := List.forall₂_cons_left_iff.mp h
          rw [hr] at hb'
          cases hb'
          exact absurd hb (hn b List.mem_cons_self)
      · rw [scan_cons_fresh hr hb]
        refine ⟨?_, ?_⟩
        · intro h
          cases hs : scan read key repeated (key b :: seen) as with
          | error e =>
            rw [hs] at h
            cases h
          | ok bs' =>
            rw [hs] at h
            cases h
            obtain ⟨hf, hd, hn⟩ := ih.mp hs
            refine ⟨.cons hr hf, ?_, ?_⟩
            · rw [List.map_cons, List.nodup_cons]
              refine ⟨fun hm => ?_, hd⟩
              obtain ⟨c, hc, he⟩ := List.mem_map.mp hm
              exact hn c hc (he ▸ List.mem_cons_self)
            · intro c hc
              rcases List.mem_cons.mp hc with rfl | hc
              · exact hb
              · exact fun hs => hn c hc (List.mem_cons_of_mem _ hs)
        · rintro ⟨h, hd, hn⟩
          obtain ⟨b', bs', hb', hf, rfl⟩ := List.forall₂_cons_left_iff.mp h
          rw [hr] at hb'
          cases hb'
          rw [List.map_cons, List.nodup_cons] at hd
          have hs : scan read key repeated (key b :: seen) as = .ok bs' := by
            refine ih.mpr ⟨hf, hd.2, fun c hc hm => ?_⟩
            rcases List.mem_cons.mp hm with he | hm
            · exact hd.1 (he ▸ List.mem_map_of_mem hc)
            · exact hn c (List.mem_cons_of_mem _ hc) hm
          rw [hs]
          rfl

/-- A scan that fails names the first offender: what came before it could all be accepted. -/
theorem scan_eq_error {seen : List κ} {as : List α} {e : ε}
    (h : scan read key repeated seen as = .error e) :
    ∃ before a after bs, as = before ++ a :: after ∧
      scan read key repeated seen before = .ok bs ∧
      (read a = .error e ∨
        ∃ b, read a = .ok b ∧ (key b ∈ seen ∨ key b ∈ bs.map key) ∧ e = repeated a b) := by
  induction as generalizing seen with
  | nil => cases h
  | cons a as ih =>
    cases hr : read a with
    | error e' =>
      rw [scan_cons_error hr] at h
      cases h
      exact ⟨[], a, as, [], rfl, rfl, .inl hr⟩
    | ok b =>
      by_cases hb : key b ∈ seen
      · rw [scan_cons_repeated hr hb] at h
        cases h
        exact ⟨[], a, as, [], rfl, rfl, .inr ⟨b, hr, .inl hb, rfl⟩⟩
      · rw [scan_cons_fresh hr hb] at h
        cases hs : scan read key repeated (key b :: seen) as with
        | ok bs =>
          rw [hs] at h
          cases h
        | error e' =>
          rw [hs] at h
          cases h
          obtain ⟨before, c, after, bs, rfl, hbefore, ho⟩ := ih hs
          refine ⟨a :: before, c, after, b :: bs, rfl, ?_, ho.imp_right ?_⟩
          · rw [scan_cons_fresh hr hb, hbefore]
            rfl
          · rintro ⟨d, hd, hm, he⟩
            refine ⟨d, hd, ?_, he⟩
            rw [List.mem_cons] at hm
            rw [List.map_cons, List.mem_cons]
            tauto

end Libriscv.Foundations

import Mathlib.Data.List.Basic

/-! Code that works on a world and may unwind, how unwinding is contained, and what ends a process. -/

namespace Libriscv.Foundations

/-- What was done to the world before an unwinding stays done. -/
abbrev Effectful (W V : Type) := ExceptT V (StateM W)

namespace Effectful

variable {W V α β : Type}

def exec (x : Effectful W V α) (w : W) : Except V α × W := Id.run (x.run.run w)

lemma exec_bind (x : Effectful W V α) (f : α → Effectful W V β) (w : W) :
    (x >>= f).exec w = match x.exec w with
      | (.ok a, u) => (f a).exec u
      | (.error payload, u) => (.error payload, u) := by
  change Id.run ((ExceptT.bindCont f (x.exec w).1).run (x.exec w).2) = _
  rcases x.exec w with ⟨_ | a, u⟩ <;> rfl

lemma exec_lift (p : StateM W α) (w : W) :
    (liftM p : Effectful W V α).exec w = (.ok (p.run w).1, (p.run w).2) := rfl

def catchUnwind (body : Effectful W V α) : Effectful W V (Except V α) := ExceptT.lift body.run

lemma exec_catchUnwind (body : Effectful W V α) (w : W) :
    (catchUnwind body).exec w = (.ok (body.exec w).1, (body.exec w).2) := rfl

section

variable (drop : V → StateM W (Option V))

def dropValue (v : V) : Effectful W V Unit := do
  match ← drop v with
  | none => pure ()
  | some payload => throw payload

def dropOutcome : Except V Unit → Effectful W V Unit
  | .ok () => pure ()
  | .error payload => dropValue drop payload

def contained (body : Effectful W V Unit) : Effectful W V Unit := do
  let result ← catchUnwind body
  dropOutcome drop result

/-- The body ends in the world `t`, counting the destructor of what it may have thrown. -/
inductive Settles (body : Effectful W V Unit) (w t : W) : Prop
  | returned (h : body.exec w = (.ok (), t))
  | caught {payload : V} {u : W} (h : body.exec w = (.error payload, u))
      (hd : (drop payload).run u = (none, t))

variable {drop} {w t : W}

lemma exec_dropValue (v : V) : (dropValue drop v).exec w = match (drop v).run w with
    | (none, u) => (.ok (), u)
    | (some payload, u) => (.error payload, u) := by
  rw [dropValue, exec_bind, exec_lift]
  rcases (drop v).run w with ⟨_ | payload, u⟩ <;> rfl

lemma dropValue_ok_iff {v : V} :
    (dropValue drop v).exec w = (.ok (), t) ↔ (drop v).run w = (none, t) := by
  rw [exec_dropValue]
  rcases (drop v).run w with ⟨_ | payload, u⟩
  · exact ⟨fun h => by cases h; rfl, fun h => by cases h; rfl⟩
  · exact ⟨fun h => (nomatch h), fun h => (nomatch h)⟩

lemma dropValue_error_iff {v payload : V} :
    (dropValue drop v).exec w = (.error payload, t) ↔ (drop v).run w = (some payload, t) := by
  rw [exec_dropValue]
  rcases (drop v).run w with ⟨_ | payload, u⟩
  · exact ⟨fun h => (nomatch h), fun h => (nomatch h)⟩
  · exact ⟨fun h => by cases h; rfl, fun h => by cases h; rfl⟩

lemma settles_congr {body body' : Effectful W V Unit} {u : W} (h : body.exec w = body'.exec u) :
    Settles drop body w t → Settles drop body' u t := by
  rintro (hr | ⟨hc, hd⟩)
  · exact .returned (h.symm.trans hr)
  · exact .caught (h.symm.trans hc) hd

theorem contained_ok_iff {body : Effectful W V Unit} :
    (contained drop body).exec w = (.ok (), t) ↔ Settles drop body w t := by
  rw [contained, exec_bind, exec_catchUnwind]
  rcases hb : body.exec w with ⟨payload | _, u⟩
  · change (dropValue drop payload).exec u = _ ↔ _
    rw [dropValue_ok_iff]
    refine ⟨fun h => .caught hb h, fun h => ?_⟩
    cases h with
    | returned h =>
      rw [hb] at h
      cases h
    | caught h hd =>
      rw [hb] at h
      cases h
      exact hd
  · refine ⟨fun h => .returned (hb.trans h), fun h => ?_⟩
    cases h with
    | returned h => exact hb.symm.trans h
    | caught h hd =>
      rw [hb] at h
      cases h

end

/-- Bodies that run one after the other: an unwinding that leaves one of them is the end. -/
def survive : List (Effectful W V Unit) → W → Option W
  | [], w => some w
  | body :: bodies, w =>
    match body.exec w with
    | (.ok (), u) => survive bodies u
    | (.error _, _) => none

inductive Chain {ι : Type} (R : ι → W → W → Prop) : List ι → W → W → Prop
  | nil (w : W) : Chain R [] w w
  | cons {a : ι} {rest : List ι} {w u t : W} (h : R a w u) (hr : Chain R rest u t) :
      Chain R (a :: rest) w t

theorem survive_iff {ι : Type} {f : ι → Effectful W V Unit} {R : ι → W → W → Prop}
    (hf : ∀ a w t, (f a).exec w = (.ok (), t) ↔ R a w t) {bodies : List ι} {w t : W} :
    survive (bodies.map f) w = some t ↔ Chain R bodies w t := by
  induction bodies generalizing w with
  | nil =>
    refine ⟨fun h => ?_, fun h => ?_⟩
    · cases h
      exact .nil _
    · cases h
      rfl
  | cons a bodies ih =>
    rw [List.map_cons, survive]
    refine ⟨fun h => ?_, fun h => ?_⟩
    · rcases ha : (f a).exec w with ⟨payload | _, u⟩
      · rw [ha] at h
        cases h
      · rw [ha] at h
        exact .cons ((hf a w u).mp ha) (ih.mp h)
    · cases h with
      | cons h hr =>
        rw [(hf a w _).mpr h]
        exact ih.mpr hr

end Effectful

end Libriscv.Foundations

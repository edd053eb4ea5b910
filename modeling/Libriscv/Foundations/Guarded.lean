import Mathlib.Logic.Equiv.Basic
import Mathlib.Logic.Function.Basic
import Mathlib.Logic.Relation

/-! Resources held in places that keep other places in use: when a child never outlives its parent. -/

namespace Libriscv.Foundations

structure Cell (P R : Type) where
  held : R
  keeps : Option P
  deriving DecidableEq, Repr

abbrev Layout (P R : Type) := P → Option (Cell P R)

namespace Layout

variable {P R : Type}

def Keeps (l : Layout P R) (p q : P) : Prop := ∃ c, l p = some c ∧ c.keeps = some q

def Kept (l : Layout P R) (q : P) : Prop := ∃ p, l.Keeps p q

def Holds (l : Layout P R) (p : P) (r : R) : Prop := ∃ c, l p = some c ∧ c.held = r

def Occupied (l : Layout P R) : Prop := ∀ q, l.Kept q → l q ≠ none

variable (parent : R → Option R)

/-- The cell keeps, directly or through a chain, a place that holds the parent of its resource. -/
def Secures (l : Layout P R) (c : Cell P R) : Prop :=
  ∀ r, parent c.held = some r →
    ∃ k q, c.keeps = some k ∧ Relation.ReflTransGen l.Keeps k q ∧ l.Holds q r

def Guarded (l : Layout P R) : Prop := ∀ p c, l p = some c → l.Secures parent c

def contents (l : Layout P R) (p : P) : Option R := (l p).map Cell.held

variable {parent} {l l' : Layout P R}

lemma contents_eq_some {p : P} {r : R} : l.contents p = some r ↔ l.Holds p r :=
  Option.map_eq_some_iff

lemma Secures.congr {parent' : R → Option R} {c : Cell P R} (h : l.Secures parent c)
    (hc : parent' c.held = parent c.held) : l.Secures parent' c :=
  fun r hr => h r (hc ▸ hr)

lemma Secures.frame {c : Cell P R} (h : l.Secures parent c)
    (hk : ∀ k, c.keeps = some k → l' k = l k) (hf : ∀ q, l.Kept q → l' q = l q) :
    l'.Secures parent c := by
  intro r hr
  obtain ⟨k, q, hc, hkq, hq⟩ := h r hr
  have hreach : Relation.ReflTransGen l'.Keeps k q ∧ l' q = l q := by
    clear hq
    induction hkq with
    | refl => exact ⟨.refl, hk k hc⟩
    | tail _ hbc ih =>
      refine ⟨ih.1.tail ?_, hf _ ⟨_, hbc⟩⟩
      obtain ⟨d, hd, he⟩ := hbc
      exact ⟨d, ih.2.trans hd, he⟩
  obtain ⟨d, hd, he⟩ := hq
  exact ⟨k, q, hc, hreach.1, d, hreach.2.trans hd, he⟩

lemma Secures.mono {c : Cell P R} (h : l.Secures parent c)
    (hl : ∀ p d, l p = some d → l' p = some d) : l'.Secures parent c := by
  intro r hr
  obtain ⟨k, q, hc, hkq, d, hd, he⟩ := h r hr
  have hkeeps : ∀ a b, l.Keeps a b → l'.Keeps a b := fun a b ⟨e, he, hb⟩ => ⟨e, hl a e he, hb⟩
  exact ⟨k, q, hc, Relation.ReflTransGen.mono hkeeps _ _ hkq, d, hl q d hd, he⟩

/-- Every ancestor of a resource that is held is held as well. -/
lemma Guarded.ancestor_held (h : l.Guarded parent) {p : P} {r a : R} (hr : l.Holds p r)
    (ha : Relation.TransGen (fun r s => parent r = some s) r a) : ∃ q, l.Holds q a := by
  have hparent {p : P} {r s : R} (hr : l.Holds p r) (hs : parent r = some s) : ∃ q, l.Holds q s := by
    obtain ⟨c, hc, rfl⟩ := hr
    obtain ⟨_, q, _, _, hq⟩ := h p c hc s hs
    exact ⟨q, hq⟩
  -- the chain of parents is followed from the resource upwards
  induction ha with
  | single hs => exact hparent hr hs
  | tail _ hs ih =>
    obtain ⟨q, hq⟩ := ih
    exact hparent hq hs

/-- The place that holds an ancestor is kept: by its child, or by the chain from the child. -/
lemma Guarded.ancestor_kept (h : l.Guarded parent) {p : P} {r a : R} (hr : l.Holds p r)
    (ha : Relation.TransGen (fun r s => parent r = some s) r a) : ∃ q, l.Holds q a ∧ l.Kept q := by
  obtain ⟨b, hrb, hb⟩ := Relation.TransGen.tail'_iff.mp ha
  have hbheld : ∃ q, l.Holds q b := by
    rcases Relation.reflTransGen_iff_eq_or_transGen.mp hrb with rfl | hrb
    · exact ⟨p, hr⟩
    · exact h.ancestor_held hr hrb
  obtain ⟨q, c, hc, rfl⟩ := hbheld
  obtain ⟨k, x, hk, hkx, hx⟩ := h q c hc a hb
  refine ⟨x, hx, ?_⟩
  rcases Relation.ReflTransGen.cases_tail hkx with rfl | ⟨y, _, hyx⟩
  · exact ⟨q, c, hc, hk⟩
  · exact ⟨y, hyx⟩

variable [DecidableEq P]

lemma keeps_update {p a b : P} {x : Option (Cell P R)} :
    Keeps (Function.update l p x) a b ↔
      (a = p ∧ ∃ c, x = some c ∧ c.keeps = some b) ∨ (a ≠ p ∧ l.Keeps a b) := by
  simp only [Keeps]
  by_cases h : a = p
  · subst h
    simp
  · simp [h]

lemma kept_update {p b : P} {x : Option (Cell P R)} (h : Kept (Function.update l p x) b) :
    (∃ c, x = some c ∧ c.keeps = some b) ∨ l.Kept b := by
  obtain ⟨a, ha⟩ := h
  rcases keeps_update.mp ha with ⟨_, h⟩ | ⟨_, h⟩
  · exact .inl h
  · exact .inr ⟨a, h⟩

lemma Guarded.update (h : l.Guarded parent) {p : P} (hp : ¬ l.Kept p) {x : Option (Cell P R)}
    (hx : ∀ c, x = some c → l.Secures parent c ∧ c.keeps ≠ some p) :
    Guarded parent (Function.update l p x) := by
  have hf : ∀ q, q ≠ p → Function.update l p x q = l q := fun q hq => Function.update_of_ne hq _ _
  have hframe : ∀ q, l.Kept q → Function.update l p x q = l q := by
    rintro q hq
    refine hf q ?_
    rintro rfl
    exact hp hq
  intro q c hc
  by_cases hq : q = p
  · subst hq
    rw [Function.update_self] at hc
    obtain ⟨hs, hn⟩ := hx c hc
    refine hs.frame (fun k hk => hf k ?_) hframe
    rintro rfl
    exact hn hk
  · rw [hf q hq] at hc
    exact (h q c hc).frame (fun k hk => hframe k ⟨q, c, hc, hk⟩) hframe

lemma Occupied.update (h : l.Occupied) {p : P} (hp : ¬ l.Kept p) {x : Option (Cell P R)}
    (hx : ∀ c k, x = some c → c.keeps = some k → l k ≠ none ∧ k ≠ p) :
    Occupied (Function.update l p x) := by
  intro q hq
  rcases kept_update hq with ⟨c, hc, hk⟩ | hl
  · obtain ⟨hn, hne⟩ := hx c q hc hk
    rwa [Function.update_of_ne hne]
  · have hne : q ≠ p := by
      rintro rfl
      exact hp hl
    rw [Function.update_of_ne hne]
    exact h q hl

def move (l : Layout P R) (p q : P) : Layout P R :=
  Function.update (Function.update l q (l p)) p none

def exchange (l : Layout P R) (p q : P) (c d : Cell P R) : Layout P R :=
  Function.update (Function.update l p (some ⟨d.held, c.keeps⟩)) q (some ⟨c.held, d.keeps⟩)

variable {p q : P} {c d : Cell P R}

lemma not_kept_moved (hp : ¬ l.Kept p) : ¬ Kept (Function.update l q (l p)) p := by
  intro hk
  rcases kept_update hk with ⟨c, hc, hk⟩ | hk
  · exact hp ⟨p, c, hc, hk⟩
  · exact hp hk

lemma not_kept_exchanged (hc : l p = some c) (hq : ¬ l.Kept q) :
    ¬ Kept (Function.update l p (some ⟨d.held, c.keeps⟩)) q := by
  intro hk
  rcases kept_update hk with ⟨_, he, hk⟩ | hk
  · cases he
    exact hq ⟨p, c, hc, hk⟩
  · exact hq hk

lemma kept_exchange (hc : l p = some c) (hd : l q = some d) {x : P}
    (h : (l.exchange p q c d).Kept x) : l.Kept x := by
  rcases kept_update h with ⟨_, he, hk⟩ | h
  · cases he
    exact ⟨q, d, hd, hk⟩
  · rcases kept_update h with ⟨_, he, hk⟩ | h
    · cases he
      exact ⟨p, c, hc, hk⟩
    · exact h

lemma Guarded.move (h : l.Guarded parent) (ho : l.Occupied) (hp : ¬ l.Kept p) (hq : l q = none) :
    (l.move p q).Guarded parent := by
  have hnq : ¬ l.Kept q := fun hk => ho q hk hq
  refine Guarded.update (Guarded.update h hnq fun c hc => ⟨h p c hc, fun hk => ?_⟩)
    (not_kept_moved hp) fun c hc => nomatch hc
  exact hnq ⟨p, c, hc, hk⟩

lemma Occupied.move (h : l.Occupied) (hp : ¬ l.Kept p) (hq : l q = none) : (l.move p q).Occupied := by
  have hnq : ¬ l.Kept q := fun hk => h q hk hq
  refine Occupied.update (Occupied.update h hnq fun c k hc hk => ?_) (not_kept_moved hp)
    fun c k hc => nomatch hc
  refine ⟨h k ⟨p, c, hc, hk⟩, ?_⟩
  rintro rfl
  exact hnq ⟨p, c, hc, hk⟩

lemma contents_move (hpq : p ≠ q) (hq : l q = none) (x : P) :
    (l.move p q).contents x = l.contents (Equiv.swap p q x) := by
  simp only [contents, Layout.move]
  by_cases hp : x = p
  · subst hp
    rw [Function.update_self, Equiv.swap_apply_left, hq]
  · rw [Function.update_of_ne hp]
    by_cases hx : x = q
    · subst hx
      rw [Function.update_self, Equiv.swap_apply_right]
    · rw [Function.update_of_ne hx, Equiv.swap_apply_of_ne_of_ne hp hx]

lemma contents_exchange (hpq : p ≠ q) (hc : l p = some c) (hd : l q = some d) (x : P) :
    (l.exchange p q c d).contents x = l.contents (Equiv.swap p q x) := by
  simp only [contents, Layout.exchange]
  by_cases hq : x = q
  · subst hq
    rw [Function.update_self, Equiv.swap_apply_right, hc]
    rfl
  · rw [Function.update_of_ne hq]
    by_cases hp : x = p
    · subst hp
      rw [Function.update_self, Equiv.swap_apply_left, hd]
      rfl
    · rw [Function.update_of_ne hp, Equiv.swap_apply_of_ne_of_ne hp hq]

lemma contents_update {x : Option (Cell P R)} :
    contents (Function.update l p x) = Function.update l.contents p (x.map Cell.held) :=
  Function.comp_update (Option.map Cell.held) l p x

lemma Guarded.exchange (h : l.Guarded parent) (hc : l p = some c) (hd : l q = some d)
    (hp : ¬ l.Kept p) (hq : ¬ l.Kept q) (hsp : l.Secures parent ⟨d.held, c.keeps⟩)
    (hsq : l.Secures parent ⟨c.held, d.keeps⟩) : (l.exchange p q c d).Guarded parent := by
  have hne {k : P} (hk : l.Kept k) : k ≠ p := by
    rintro rfl
    exact hp hk
  -- the first write leaves `q` unkept, so the second one is an update of a place nobody keeps
  refine Guarded.update (Guarded.update h hp ?_) (not_kept_exchanged hc hq) ?_
  · intro _ he
    cases he
    exact ⟨hsp, fun hk => hp ⟨p, c, hc, hk⟩⟩
  · intro _ he
    cases he
    refine ⟨hsq.frame (fun k hk => ?_) (fun k hk => ?_), fun hk => hq ⟨q, d, hd, hk⟩⟩
    · exact Function.update_of_ne (hne ⟨q, d, hd, hk⟩) _ _
    · exact Function.update_of_ne (hne hk) _ _

lemma Occupied.exchange (h : l.Occupied) (hc : l p = some c) (hd : l q = some d)
    (hp : ¬ l.Kept p) (hq : ¬ l.Kept q) : (l.exchange p q c d).Occupied := by
  have hkeep {k : P} (hk : l.Kept k) (hne : k ≠ p) :
      Function.update l p (some (⟨d.held, c.keeps⟩ : Cell P R)) k ≠ none := by
    rw [Function.update_of_ne hne]
    exact h k hk
  refine Occupied.update (Occupied.update h hp ?_) (not_kept_exchanged hc hq) ?_
  · intro _ k he hk
    cases he
    refine ⟨h k ⟨p, c, hc, hk⟩, ?_⟩
    rintro rfl
    exact hp ⟨k, c, hc, hk⟩
  · intro _ k he hk
    cases he
    have hkk : l.Kept k := ⟨q, d, hd, hk⟩
    refine ⟨hkeep hkk ?_, ?_⟩
    · rintro rfl
      exact hp hkk
    · rintro rfl
      exact hq hkk

end Layout

end Libriscv.Foundations

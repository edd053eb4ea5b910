import Mathlib.Data.Nat.PSub

/-! Code that returns or unwinds, values whose destructors may unwind again, and `catch_unwind`. -/

namespace Libriscv.Foundations

variable {V α : Type}

abbrev Unwinding (V α : Type) := Except V α

def dropValue (drop : V → Option V) (v : V) : Unwinding V Unit :=
  match drop v with
  | none => .ok ()
  | some payload => .error payload

def catchUnwind (body : Unwinding V α) : Unwinding V (Except V α) := .ok body

def dropOutcome (drop : V → Option V) : Except V Unit → Unwinding V Unit
  | .ok () => .ok ()
  | .error payload => dropValue drop payload

variable {drop : V → Option V} {body : Unwinding V Unit}

lemma dropValue_eq_ok {v : V} : dropValue drop v = .ok () ↔ drop v = none := by
  simp only [dropValue]
  split <;> simp [*]

lemma dropValue_eq_error {v payload : V} :
    dropValue drop v = .error payload ↔ drop v = some payload := by
  simp only [dropValue]
  split <;> simp [*]

/-- A caught panic comes back exactly when the destructor of its payload panics. -/
theorem catch_drop_eq_ok : (catchUnwind body >>= dropOutcome drop) = .ok () ↔
    ∀ payload, body = .error payload → drop payload = none := by
  change dropOutcome drop body = .ok () ↔ _
  cases body with
  | ok => simp [dropOutcome]
  | error payload => simp [dropOutcome, dropValue_eq_ok]

end Libriscv.Foundations

import Libriscv.Callbacks.Contexts
import Libriscv.Foundations.Unwinding

/-! The generated trampolines: when a panic of a handler stays inside. -/

namespace Libriscv.Trampolines

open Foundations Macros

variable {V : Type}

inductive Output (V : Type)
  | unit
  | syscallResult (result : Except Error V)
  -- another implementation of `SyscallHandlerOutput`, shown as what it does
  | custom (handled : Unwinding V Unit)

section

variable (drop : V → Option V)

def Output.handle : Output V → Unwinding V Unit
  | .unit => .ok ()
  -- binding `self.0` to `_` does not move it, so the value is dropped where `handle` returns
  | .syscallResult (.ok value) => dropValue drop value
  | .syscallResult (.error _) => .ok ()
  | .custom handled => handled

def closure {C : Type} (ctx : Option C) (f : C → Unwinding V (Output V)) : Unwinding V Unit :=
  match ctx with
  | some ctx => do
    let output ← f ctx
    output.handle drop
  | none => .ok ()

def trampoline (c : Callback) (f : c.Context → Unwinding V (Output V)) (args : c.Args) :
    Unwinding V Unit := do
  -- `let _ = catch_unwind(..);` drops the result at once, outside of any `catch_unwind`
  let result ← catchUnwind (closure drop (c.fromRaw args) f)
  dropOutcome drop result

def expandedTrampoline (e : Expansion) : (e.callback.Context → Unwinding V (Output V)) →
    e.callback.Args → Unwinding V Unit :=
  trampoline drop e.callback

def Settles : Unwinding V (Output V) → Prop
  | .error payload => drop payload = none
  | .ok (.syscallResult (.ok value)) => ∀ payload, drop value = some payload → drop payload = none
  | .ok (.custom handled) => ∀ payload, handled = .error payload → drop payload = none
  | .ok .unit | .ok (.syscallResult (.error _)) => True

lemma closure_settles {C : Type} (ctx : C) (f : C → Unwinding V (Output V)) :
    (∀ payload, closure drop (some ctx) f = .error payload → drop payload = none) ↔
      Settles drop (f ctx) := by
  change (∀ payload, (f ctx).bind (Output.handle drop) = .error payload → _) ↔ _
  cases f ctx with
  | error payload => simp [Except.bind, Settles]
  | ok output =>
    cases output with
    | unit => simp [Except.bind, Output.handle, Settles]
    | custom handled => simp [Except.bind, Output.handle, Settles]
    | syscallResult result =>
      cases result with
      | error e => simp [Except.bind, Output.handle, Settles]
      | ok value => simp [Except.bind, Output.handle, Settles, dropValue_eq_error]

end

/-- The trampoline of each macro returns to its caller exactly when the handler is not called at
all, or neither the payload of its panic nor that of dropping its result has a panicking destructor. -/
theorem trampoline_returns_iff (drop : V → Option V) (e : Expansion)
    (f : e.callback.Context → Unwinding V (Output V)) (args : e.callback.Args) :
    expandedTrampoline drop e f args = .ok () ↔
      ∀ ctx, e.callback.fromRaw args = some ctx → Settles drop (f ctx) := by
  rw [expandedTrampoline, trampoline, catch_drop_eq_ok]
  cases e.callback.fromRaw args with
  | none => simp [closure]
  | some ctx => simp [closure_settles]

theorem payload_panics_outside :
    (∃ e, syscall (.ok (.nameValue (.ofIdent "id") .callSite (.lit (.int hexLiteral)) .callSite))
        (hostFunction [] "f" "SyscallContext") = .ok e ∧
      ∃ f args, expandedTrampoline Nat.ppred e f args = .error 0) ∧
    (∃ e, syscallHandler true (hostFunction [] "f" "SyscallContext") = .ok e ∧
      ∃ f args, expandedTrampoline Nat.ppred e f args = .error 0) ∧
    (∃ e, errorHandler true (hostFunction [] "f" "ErrorContext") = .ok e ∧
      ∃ f args, expandedTrampoline Nat.ppred e f args = .error 0) ∧
    ∃ e, stdoutHandler true (hostFunction [] "f" "StdoutContext") = .ok e ∧
      ∃ f args, expandedTrampoline Nat.ppred e f args = .error 0 :=
  ⟨⟨_, rfl, fun _ => .error 1, some 0, rfl⟩, ⟨_, rfl, fun _ => .ok (.syscallResult (.ok 2)), some 0, rfl⟩,
    ⟨_, rfl, fun _ => .error 1, ⟨none, 0, none, 0⟩, rfl⟩,
    ⟨_, rfl, fun _ => .ok (.syscallResult (.ok 2)), ⟨none, none, 0⟩, rfl⟩⟩

end Libriscv.Trampolines

import Libriscv.Callbacks.Trampolines
import Libriscv.Foundations.Containment

/-! Handlers that change the world: which of C's callbacks reach them, and what outlives a panic. -/

namespace Libriscv.Deliveries

open Foundations Macros
open Effectful (contained Settles survive Chain settles_congr exec_bind)

variable {W V : Type}

inductive Returned (W V : Type)
  | unit
  | syscallResult (result : Except Error V)
  | custom (handled : Effectful W V Unit)

structure Delivery (W V : Type) where
  callback : Callback
  handler : callback.Context → Effectful W V (Returned W V)
  args : callback.Args

inductive Turn (W V : Type)
  -- what the guest, C and the rest of the host do until C calls back again
  | meanwhile (change : W → W)
  | deliver (delivery : Delivery W V)

section

variable (drop : V → StateM W (Option V))

def Returned.handle : Returned W V → Effectful W V Unit
  | .unit => pure ()
  | .syscallResult (.ok value) => Effectful.dropValue drop value
  | .syscallResult (.error _) => pure ()
  | .custom handled => handled

def closure {C : Type} (ctx : Option C) (f : C → Effectful W V (Returned W V)) :
    Effectful W V Unit :=
  match ctx with
  | some ctx => do
    let returned ← f ctx
    returned.handle drop
  | none => pure ()

def trampoline (c : Callback) (f : c.Context → Effectful W V (Returned W V)) (args : c.Args) :
    Effectful W V Unit :=
  contained drop (closure drop (c.fromRaw args) f)

def Turn.perform : Turn W V → Effectful W V Unit
  | .meanwhile change => modify change
  | .deliver ⟨callback, handler, args⟩ => trampoline drop callback handler args

end

/-- `unknown` holds none of the codes that have a name. -/
def Named (t : ErrorType) : Prop := ∀ code, t = .unknown code → code ≠ -1 ∧ code ≠ -2 ∧ code ≠ -3

def Shows : (c : Callback) → c.Args → c.Context → Prop
  | .syscall, m, ctx => m = some ctx.machine
  | .error, args, ctx =>
    ctx.errorType.asRaw = args.kind ∧ Named ctx.errorType ∧ ctx.message = args.msg ∧
      ctx.data = args.data ∧ ctx.opaquePtr = args.opaquePtr
  | .stdout, args, ctx =>
    (∀ slice, ctx.data = some slice ↔
      args.msg = some slice.ptr ∧ args.len ≠ 0 ∧ slice.len = args.len.toNat) ∧
      ctx.opaquePtr = args.opaquePtr

section

variable (drop : V → StateM W (Option V))

/-- A value is dropped: its destructor returns, or throws what is dropped quietly itself. -/
inductive Released (v : V) (w t : W) : Prop
  | quiet (h : (drop v).run w = (none, t))
  | caught {payload : V} {u : W} (h : (drop v).run w = (some payload, u))
      (hd : (drop payload).run u = (none, t))

/-- The handler, called once in the world `w`, is done with in the world `t`. -/
inductive Answers (call : Effectful W V (Returned W V)) (w t : W) : Prop
  | unit (h : call.exec w = (.ok .unit, t))
  | failed {e : Error} (h : call.exec w = (.ok (.syscallResult (.error e)), t))
  | value {v : V} {u : W} (h : call.exec w = (.ok (.syscallResult (.ok v)), u))
      (hr : Released drop v u t)
  | custom {handled : Effectful W V Unit} {u : W}
      (h : call.exec w = (.ok (.custom handled), u)) (hs : Settles drop handled u t)
  | panicked {payload : V} {u : W} (h : call.exec w = (.error payload, u))
      (hd : (drop payload).run u = (none, t))

inductive Serves : Turn W V → W → W → Prop
  | meanwhile (change : W → W) (w : W) : Serves (.meanwhile change) w (change w)
  | ignored {delivery : Delivery W V} (h : ∀ ctx, ¬ Shows delivery.callback delivery.args ctx)
      (w : W) : Serves (.deliver delivery) w w
  | called {delivery : Delivery W V} {ctx : delivery.callback.Context}
      (h : Shows delivery.callback delivery.args ctx) {w t : W}
      (ha : Answers drop (delivery.handler ctx) w t) : Serves (.deliver delivery) w t

end

lemma named_fromRaw (code : Int32) : Named (.fromRaw code) := by
  intro code' h
  simp only [ErrorType.fromRaw] at h
  split_ifs at h with h₁ h₂ h₃
  cases h
  exact ⟨h₁, h₂, h₃⟩

lemma fromRaw_asRaw {t : ErrorType} (h : Named t) : .fromRaw t.asRaw = t := by
  cases t with
  | generalException | machineException | machineTimeout => rfl
  | unknown code =>
    obtain ⟨h₁, h₂, h₃⟩ := h code rfl
    rw [ErrorType.asRaw, ErrorType.fromRaw, if_neg h₁, if_neg h₂, if_neg h₃]

lemma shows_error (args : ErrorArgs) (ctx : ErrorContext) :
    Shows .error args ctx ↔ ErrorContext.fromRaw args = ctx := by
  refine ⟨?_, ?_⟩
  · rintro ⟨hk, hn, hm, hd, ho⟩
    rw [ErrorContext.fromRaw, ← hk, fromRaw_asRaw hn, ← hm, ← hd, ← ho]
  · rintro rfl
    exact ⟨ErrorType.asRaw_fromRaw _, named_fromRaw _, rfl, rfl, rfl⟩

lemma stdout_data (args : StdoutArgs) (slice : HostSlice) :
    (StdoutContext.fromRaw args).data = some slice ↔
      args.msg = some slice.ptr ∧ args.len ≠ 0 ∧ slice.len = args.len.toNat := by
  obtain ⟨ptr, len⟩ := slice
  rw [StdoutContext.fromRaw]
  cases args.msg with
  | none => simp
  | some msg =>
    by_cases h : args.len = 0
    · simp [h]
    · simp [h, eq_comm]

lemma shows_stdout (args : StdoutArgs) (ctx : StdoutContext) :
    Shows .stdout args ctx ↔ StdoutContext.fromRaw args = ctx := by
  refine ⟨?_, ?_⟩
  · rintro ⟨hd, ho⟩
    obtain ⟨data, opaquePtr⟩ := ctx
    have he : (StdoutContext.fromRaw args).data = data :=
      Option.ext fun slice => (stdout_data args slice).trans (hd slice).symm
    rw [← he]
    cases ho
    rfl
  · rintro rfl
    exact ⟨stdout_data args, rfl⟩

lemma shows_iff (c : Callback) (args : c.Args) (ctx : c.Context) :
    Shows c args ctx ↔ c.fromRaw args = some ctx := by
  cases c with
  | syscall =>
    rw [Shows, Callback.fromRaw, SyscallContext.fromRaw, Option.map_eq_some_iff]
    refine ⟨fun h => ⟨ctx.machine, h, rfl⟩, ?_⟩
    rintro ⟨m, hm, rfl⟩
    exact hm
  | error => exact (shows_error args ctx).trans Option.some_inj.symm
  | stdout => exact (shows_stdout args ctx).trans Option.some_inj.symm

section

variable {drop : V → StateM W (Option V)} {w t u : W}

lemma released_iff {v : V} : Settles drop (Effectful.dropValue drop v) w t ↔ Released drop v w t := by
  refine ⟨fun h => ?_, fun h => ?_⟩
  · cases h with
    | returned h => exact .quiet (Effectful.dropValue_ok_iff.mp h)
    | caught h hd => exact .caught (Effectful.dropValue_error_iff.mp h) hd
  · cases h with
    | quiet h => exact .returned (Effectful.dropValue_ok_iff.mpr h)
    | caught h hd => exact .caught (Effectful.dropValue_error_iff.mpr h) hd

variable {call : Effectful W V (Returned W V)}

lemma exec_handle {returned : Returned W V} (h : call.exec w = (.ok returned, u)) :
    (call >>= Returned.handle drop).exec w = (returned.handle drop).exec u := by
  rw [exec_bind, h]

lemma settles_of_answers (h : Answers drop call w t) :
    Settles drop (call >>= Returned.handle drop) w t := by
  cases h with
  | unit h | failed h => exact .returned (exec_handle h)
  | value h hr => exact settles_congr (exec_handle h).symm (released_iff.mpr hr)
  | custom h hs => exact settles_congr (exec_handle h).symm hs
  | panicked h hd => exact .caught (by rw [exec_bind, h]) hd

lemma settles_pure (h : Settles drop (pure ()) u t) : u = t := by
  cases h with
  | returned h =>
    cases h
    rfl
  | caught h hd => cases h

lemma answers_of_settles (h : Settles drop (call >>= Returned.handle drop) w t) :
    Answers drop call w t := by
  rcases hc : call.exec w with ⟨payload | returned, u⟩
  · have he : (call >>= Returned.handle drop).exec w = (.error payload, u) := by rw [exec_bind, hc]
    cases h with
    | returned h =>
      rw [he] at h
      cases h
    | caught h hd =>
      rw [he] at h
      cases h
      exact .panicked hc hd
  · have hs := settles_congr (exec_handle hc) h
    cases returned with
    | unit =>
      cases settles_pure hs
      exact .unit hc
    | syscallResult result =>
      cases result with
      | error e =>
        cases settles_pure hs
        exact .failed hc
      | ok v => exact .value hc (released_iff.mp hs)
    | custom handled => exact .custom hc hs

lemma trampoline_ok_iff (delivery : Delivery W V) :
    (trampoline drop delivery.callback delivery.handler delivery.args).exec w = (.ok (), t) ↔
      Serves drop (.deliver delivery) w t := by
  rw [trampoline, Effectful.contained_ok_iff]
  cases hx : delivery.callback.fromRaw delivery.args with
  | none =>
    have hnone : ∀ ctx, ¬ Shows delivery.callback delivery.args ctx := by
      intro ctx h
      rw [(shows_iff _ _ _).mp h] at hx
      cases hx
    refine ⟨fun h => ?_, fun h => ?_⟩
    · cases settles_pure h
      exact .ignored hnone w
    · cases h with
      | ignored => exact .returned rfl
      | called h ha => exact absurd h (hnone _)
  | some ctx =>
    have hs : Shows delivery.callback delivery.args ctx := (shows_iff _ _ _).mpr hx
    refine ⟨fun h => .called hs (answers_of_settles h), fun h => ?_⟩
    cases h with
    | ignored h => exact absurd hs (h ctx)
    | called h ha =>
      rw [(shows_iff _ _ _).mp h] at hx
      cases hx
      exact settles_of_answers ha

lemma perform_ok_iff (turn : Turn W V) (w t : W) :
    (turn.perform drop).exec w = (.ok (), t) ↔ Serves drop turn w t := by
  cases turn with
  | meanwhile change =>
    refine ⟨fun h => ?_, fun h => ?_⟩
    · cases h
      exact .meanwhile change w
    · cases h
      rfl
  | deliver delivery => exact trampoline_ok_iff delivery

end

section

variable (drop : V → Option V)

def Returned.ofOutput : Trampolines.Output V → Returned W V
  | .unit => .unit
  | .syscallResult result => .syscallResult result
  | .custom handled => .custom (.mk (pure handled))

lemma exec_closure {C : Type} (ctx : Option C) (f : C → Unwinding V (Trampolines.Output V)) (w : W) :
    (closure (fun v => pure (drop v)) ctx fun ctx => .mk (pure ((f ctx).map .ofOutput))).exec w =
      (Trampolines.closure drop ctx f, w) := by
  cases ctx with
  | none => rfl
  | some ctx =>
    rw [closure, Trampolines.closure, exec_bind]
    cases f ctx with
    | error payload => rfl
    | ok output =>
      rcases output with _ | ⟨e | v⟩ | handled
      · rfl
      · rfl
      · change (Effectful.dropValue (fun v => pure (drop v)) v).exec w = (dropValue drop v, w)
        rw [Effectful.exec_dropValue, dropValue]
        cases drop v <;> rfl
      · rfl

/-- Where neither handlers nor destructors change the world, this is the trampoline without one. -/
lemma exec_trampoline (c : Callback) (f : c.Context → Unwinding V (Trampolines.Output V))
    (args : c.Args) (w : W) :
    (trampoline (fun v => pure (drop v)) c (fun ctx => .mk (pure ((f ctx).map .ofOutput)))
      args).exec w = (Trampolines.trampoline drop c f args, w) := by
  rw [trampoline, contained, exec_bind, Effectful.exec_catchUnwind, exec_closure]
  change (Effectful.dropOutcome _ _).exec w = (dropOutcome drop _, w)
  cases Trampolines.closure drop (c.fromRaw args) f with
  | ok => rfl
  | error payload =>
    rw [Effectful.dropOutcome, Effectful.exec_dropValue, dropOutcome, dropValue]
    cases drop payload <;> rfl

end

section

variable (drop : V → StateM W (Option V)) (turns : List (Turn W V)) (w : W)

def Quiet : Prop := ∀ v w, ((drop v).run w).1 = none

variable {drop}

lemma perform_quiet (hq : Quiet drop) (turn : Turn W V) :
    ∃ t, (turn.perform drop).exec w = (.ok (), t) := by
  cases turn with
  | meanwhile change => exact ⟨change w, rfl⟩
  | deliver delivery =>
    let body := closure drop (delivery.callback.fromRaw delivery.args) delivery.handler
    rcases hb : body.exec w with ⟨payload | _, u⟩
    · have hd : (drop payload).run u = (none, ((drop payload).run u).2) :=
        Prod.ext (hq payload u) rfl
      exact ⟨_, Effectful.contained_ok_iff.mpr (.caught hb hd)⟩
    · exact ⟨u, Effectful.contained_ok_iff.mpr (.returned hb)⟩

lemma survive_quiet (hq : Quiet drop) :
    ∃ t, survive (turns.map (Turn.perform drop)) w = some t := by
  induction turns generalizing w with
  | nil => exact ⟨w, rfl⟩
  | cons turn turns ih =>
    obtain ⟨u, hu⟩ := perform_quiet w hq turn
    obtain ⟨t, ht⟩ := ih u
    exact ⟨t, by rw [List.map_cons, survive, hu, ← ht]⟩

end

/-- Over any run of callbacks, with whatever happens between them: the process is alive at its end
exactly when each was served by its rules, and the world is what these leave. Without panicking
destructors it is always alive, however often handlers panic. -/
theorem callbacks_served (drop : V → StateM W (Option V)) (turns : List (Turn W V)) (w : W) :
    (∀ t, survive (turns.map (Turn.perform drop)) w = some t ↔ Chain (Serves drop) turns w t) ∧
      (Quiet drop → ∃ t, Chain (Serves drop) turns w t) := by
  have hs : ∀ t, survive (turns.map (Turn.perform drop)) w = some t ↔
      Chain (Serves drop) turns w t := fun t => Effectful.survive_iff perform_ok_iff
  refine ⟨hs, fun hq => ?_⟩
  obtain ⟨t, ht⟩ := survive_quiet turns w hq
  exact ⟨t, (hs t).mp ht⟩

example : survive (([
    .deliver ⟨.syscall, fun _ => do modify (· + 1); throw 0, some 7⟩,
    .deliver ⟨.syscall, fun ctx => do modify (· * ctx.machine); pure .unit, some 5⟩] :
      List (Turn ℕ ℕ)).map (Turn.perform fun _ => pure none)) 3 = some 20 := by
  rfl

end Libriscv.Deliveries

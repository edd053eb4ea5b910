import Libriscv.Callbacks.Contexts
import Libriscv.Foundations.Borrows

/-! The lifetime of a callback's data: what the signature of a handler makes it. -/

namespace Libriscv.Lifetimes

open Foundations Macros

def region (l : Lifetime) : Option Region :=
  if l.name = "static" then some .static else if l.name = "_" then some .call else none

inductive ContextLifetime (arity : ℕ)
  -- one that an alias, a type argument or an associated type has inside
  | inside (r : Region)
  | argument (i : Fin arity)
  deriving DecidableEq, Repr

/-- A name of the context type: how many lifetimes it takes, and where the context has its own. -/
structure ContextName where
  arity : ℕ
  lifetime : ContextLifetime arity
  deriving DecidableEq, Repr

/-- What a handler's signature finds in scope. The type and const arguments of a path, and all that
stands before its last segment, are part of what `context` looks up. -/
structure Scope where
  context : Option String → Macros.Path → Option ContextName
  handled : Option Ty → Bool

def lifetimeArgument : GenericArgument → Option Lifetime
  | .lifetime l => some l
  | _ => none

def lifetimesOf (path : Macros.Path) : Option (List Lifetime) :=
  match path.segments.getLast?.map PathSegment.arguments with
  | some (.angleBracketed args) => some (args.filterMap lifetimeArgument)
  | some .none => some []
  | _ => none

def contextRegion (name : ContextName) (lifetimes : List Lifetime) : Option Region :=
  if lifetimes = [] ∨ lifetimes.length = name.arity ∧ lifetimes.all fun l => (region l).isSome then
    -- `from_raw` leaves the lifetime open, so the signature decides; one it leaves out is picked by
    -- the trampoline for the call
    some (match name.lifetime with
      | .inside r => r
      | .argument i => (lifetimes[i]?.bind region).getD .call)
  else none

/-- The lifetime `'a` in the context of an accepted handler; `none` does not type-check. -/
def handlerRegion (scope : Scope) (input : ItemFn) : Option Region :=
  match input.sig.inputs with
  | [.typed (.reference lifetime true (.path qself path))] =>
    -- the reference is to a local of the trampoline and cannot be `'static`
    if scope.handled input.sig.output ∧ (lifetime.bind region = some .call ∨ lifetime = none) then do
      let name ← scope.context qself path
      let lifetimes ← lifetimesOf path
      contextRegion name lifetimes
    else none
  | _ => none

def StaticContext (scope : Scope) (input : ItemFn) : Prop :=
  ∃ lifetime qself path name,
    input.sig.inputs = [.typed (.reference lifetime true (.path qself path))] ∧
    scope.context qself path = some name ∧
      (name.lifetime = .inside .static ∨ ∃ i lifetimes, name.lifetime = .argument i ∧
        lifetimesOf path = some lifetimes ∧ lifetimes[i]? = some ⟨"static"⟩)

lemma region_eq_static {l : Lifetime} : region l = some .static ↔ l = ⟨"static"⟩ := by
  rcases l with ⟨name⟩
  simp only [region]
  split_ifs with h h'
  · simpa using h
  · simpa using h
  · simpa using h

lemma contextRegion_eq_static {name : ContextName} {lifetimes : List Lifetime} {r : Region}
    (h : contextRegion name lifetimes = some r) : r = .static ↔
      name.lifetime = .inside .static ∨
        ∃ i, name.lifetime = .argument i ∧ lifetimes[i]? = some ⟨"static"⟩ := by
  obtain ⟨_, h⟩ := Option.ite_none_right_eq_some.mp h
  rw [Option.some.injEq] at h
  subst h
  cases name.lifetime with
  | inside r => simp
  | argument i =>
    simp only [reduceCtorEq, false_or, ContextLifetime.argument.injEq, exists_eq_left']
    cases lifetimes[i]? with
    | none => simp
    | some l =>
      rw [Option.bind_some, Option.some.injEq, ← region_eq_static]
      cases region l <;> simp

lemma handlerRegion_eq_static {scope : Scope} {input : ItemFn} {r : Region}
    (h : handlerRegion scope input = some r) : r = .static ↔ StaticContext scope input := by
  simp only [handlerRegion] at h
  split at h
  · next lifetime qself path hi =>
    obtain ⟨_, h⟩ := Option.ite_none_right_eq_some.mp h
    obtain ⟨name, hn, h⟩ := Option.bind_eq_some_iff.mp h
    obtain ⟨lifetimes, hl, h⟩ := Option.bind_eq_some_iff.mp h
    rw [contextRegion_eq_static h]
    refine ⟨?_, ?_⟩
    · rintro (hs | ⟨i, hs, hstatic⟩)
      · exact ⟨_, _, _, _, hi, hn, .inl hs⟩
      · exact ⟨_, _, _, _, hi, hn, .inr ⟨i, lifetimes, hs, hl, hstatic⟩⟩
    · rintro ⟨lifetime', qself', path', name', hi', hn', hs⟩
      rw [hi] at hi'
      cases hi'
      rw [hn] at hn'
      cases hn'
      refine hs.imp_right fun ⟨i, lifetimes', hs, hl', hstatic⟩ => ⟨i, hs, ?_⟩
      rw [hl] at hl'
      cases hl'
      exact hstatic
  · cases h

def borrowed : (c : Callback) → c.Context → Option Pointer
  | .syscall, _ => none
  | .error, ctx => ctx.message
  | .stdout, ctx => ctx.data.map HostSlice.ptr

structure Delivery (c : Callback) where
  args : c.Args
  body : Body

def Delivery.visit {c : Callback} (d : Delivery c) : Visit Pointer :=
  ⟨(c.fromRaw d.args).bind (borrowed c), d.body⟩

/-- Over every sequence of callbacks, no body that type-checks at this lifetime reads a buffer of a
call that has returned. -/
def NoLateRead (c : Callback) (r : Region) : Prop :=
  ∀ deliveries : List (Delivery c), (∀ d ∈ deliveries, WellTyped r d.body) →
    (run visit .start (deliveries.map Delivery.visit)).isSome

lemma noLateRead_call (c : Callback) : NoLateRead c .call := by
  intro deliveries ht
  refine visits_call (fun v hv => ?_) fun _ => rfl
  obtain ⟨d, hd, rfl⟩ := List.mem_map.mp hv
  exact ht d hd

lemma not_noLateRead_static {c : Callback} {args : c.Args} {ptr : Pointer}
    (hp : (c.fromRaw args).bind (borrowed c) = some ptr) : ¬ NoLateRead c .static := by
  intro h
  have hrun := h [⟨args, keepBody⟩, ⟨args, readBody⟩] <| by
    intro d hd
    rcases List.mem_cons.mp hd with rfl | hd
    · exact keepBody_typed
    · rw [List.mem_singleton.mp hd]
      exact readBody_typed .static
  have hlate := late_read ptr (Delivery.visit ⟨args, readBody⟩).own
  rw [List.map_cons, Delivery.visit, hp] at hrun
  exact absurd (hlate ▸ hrun) (by decide)

def Contained (scope : Scope) (expansion : Except SynError Expansion) (input : ItemFn) : Prop :=
  ∀ e, expansion = .ok e → ∀ r, handlerRegion scope input = some r →
    r = .call ∧ NoLateRead e.callback r

def KeepsStaticOut (scope : Scope) (expansion : Except SynError Expansion) (input : ItemFn) : Prop :=
  ∀ e, expansion = .ok e → (handlerRegion scope input).isSome → ¬ StaticContext scope input

lemma plainHandler_callback {macroName : String} {c : Callback} {attrEmpty : Bool} {input : ItemFn}
    {e : Expansion} (h : plainHandler macroName c attrEmpty input = .ok e) : e.callback = c := by
  simp only [plainHandler] at h
  split at h
  · cases hs : checkSignature macroName c input with
    | error e =>
      rw [hs] at h
      cases h
    | ok =>
      rw [hs] at h
      cases h
      rfl
  · cases h

lemma noLateRead_iff {scope : Scope} {input : ItemFn} {c : Callback} {r : Region}
    (hc : ∃ args ptr, (c.fromRaw args).bind (borrowed c) = some ptr)
    (hr : handlerRegion scope input = some r) : NoLateRead c r ↔ ¬ StaticContext scope input := by
  rw [← handlerRegion_eq_static hr]
  refine ⟨?_, ?_⟩
  · rintro h rfl
    obtain ⟨args, ptr, hp⟩ := hc
    exact not_noLateRead_static hp h
  · intro h
    cases r with
    | call => exact noLateRead_call c
    | static => exact absurd rfl h

lemma contained_iff {scope : Scope} {expansion : Except SynError Expansion} {input : ItemFn}
    (hc : ∀ e, expansion = .ok e →
      ∃ args ptr, (e.callback.fromRaw args).bind (borrowed e.callback) = some ptr) :
    Contained scope expansion input ↔ KeepsStaticOut scope expansion input := by
  refine forall_congr' fun e => forall_congr' fun he => ?_
  refine ⟨?_, ?_⟩
  · intro h hr
    obtain ⟨r, hr⟩ := Option.isSome_iff_exists.mp hr
    exact (noLateRead_iff (hc e he) hr).mp (h r hr).2
  · intro h r hr
    have hs := h (hr ▸ rfl)
    refine ⟨?_, (noLateRead_iff (hc e he) hr).mpr hs⟩
    cases r with
    | call => rfl
    | static => exact absurd ((handlerRegion_eq_static hr).mp rfl) hs

/-- The data of a callback stays inside the callback exactly for the handlers whose signature does
not name the context at `'static`, for error and for stdout handlers. -/
theorem data_contained_iff (scope : Callback → Scope) (attrEmpty : Bool) (input : ItemFn) :
    (Contained (scope .error) (errorHandler attrEmpty input) input ↔
      KeepsStaticOut (scope .error) (errorHandler attrEmpty input) input) ∧
    (Contained (scope .stdout) (stdoutHandler attrEmpty input) input ↔
      KeepsStaticOut (scope .stdout) (stdoutHandler attrEmpty input) input) := by
  refine ⟨?_, ?_⟩
  · refine contained_iff fun e he => ?_
    rw [plainHandler_callback he]
    exact ⟨⟨none, 0, some ⟨0, 0⟩, 0⟩, _, rfl⟩
  · refine contained_iff fun e he => ?_
    rw [plainHandler_callback he]
    exact ⟨⟨none, some ⟨0, 0⟩, 1⟩, _, rfl⟩

def imported (context : String) : Scope where
  context
    | none, .mk false [.mk ident _] => if ident.is context then some ⟨1, .argument 0⟩ else none
    | _, _ => none
  handled output := output.isNone

/-- `type StdoutContext<T> = <T as Tr>::Ctx`, where the `Ctx` of `u8` is a context at `'static`. -/
def aliased (context : String) : Scope where
  context
    | none, .mk false [.mk ident (.angleBracketed [.type (.path none path)])] =>
      if ident.is context ∧ path.isIdent "u8" then some ⟨0, .inside .static⟩ else none
    | _, _ => none
  handled output := output.isNone

def keepHandler (context : String) (arg : GenericArgument) : ItemFn :=
  let path := Macros.Path.mk false [.mk ⟨false, context⟩ (.angleBracketed [arg])]
  { hostFunction [] "keep" context with
    sig := ⟨⟨false, "keep"⟩, false, false, [], [.typed (.reference none true (.path none path))], false,
      none, .callSite⟩ }

/-- `ErrorContext<'static>` and `StdoutContext<'static>`, and the alias `StdoutContext<u8>`. -/
theorem static_context_escapes :
    let static := GenericArgument.lifetime ⟨"static"⟩
    let u8 := GenericArgument.type (.path none (.ofIdent "u8"))
    ¬ Contained (imported "ErrorContext") (errorHandler true (keepHandler "ErrorContext" static))
      (keepHandler "ErrorContext" static) ∧
    ¬ Contained (imported "StdoutContext") (stdoutHandler true (keepHandler "StdoutContext" static))
      (keepHandler "StdoutContext" static) ∧
    ¬ Contained (aliased "StdoutContext") (stdoutHandler true (keepHandler "StdoutContext" u8))
      (keepHandler "StdoutContext" u8) ∧
    ¬ NoLateRead .error .static ∧ ¬ NoLateRead .stdout .static := by
  refine ⟨fun h => ?_, fun h => ?_, fun h => ?_, ?_, ?_⟩
  · exact absurd (h _ rfl .static rfl).1 (by decide)
  · exact absurd (h _ rfl .static rfl).1 (by decide)
  · exact absurd (h _ rfl .static rfl).1 (by decide)
  · exact @not_noLateRead_static .error ⟨none, 0, some ⟨0, 0⟩, 0⟩ _ rfl
  · exact @not_noLateRead_static .stdout ⟨none, some ⟨0, 0⟩, 1⟩ _ rfl

end Libriscv.Lifetimes

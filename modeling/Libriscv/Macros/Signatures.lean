import Libriscv.Macros.Reading

/-! The four handler macros: which functions they accept, what they make, and their first error. -/

namespace Libriscv.Macros

def Path.EndsWith (path : Path) (segment : PathSegment) : Prop :=
  ∃ init, path.segments = init ++ [segment]

def TakesContext (callback : Callback) (arg : FnArg) : Prop :=
  ∃ lifetime qself path arguments, arg = .typed (.reference lifetime true (.path qself path)) ∧
    path.EndsWith (.mk ⟨false, callback.context⟩ arguments)

structure WellSigned (callback : Callback) (func : ItemFn) : Prop where
  synchronous : func.sig.asyncness = false
  safe : func.sig.unsafety = false
  monomorphic : func.sig.genericParams = []
  fixed : func.sig.variadic = false
  context : ∃ arg, func.sig.inputs = [arg] ∧ TakesContext callback arg

/-- The checks of a signature in their order. An error is that of the first one that fails. -/
inductive SignatureError (macroName : String) (callback : Callback) (func : ItemFn) :
    SynError → Prop
  | asynchronous (h : func.sig.asyncness = true) : SignatureError macroName callback func
      ⟨func.sig.span, s!"{macroName} does not support async fns"⟩
  | unsafety (ha : func.sig.asyncness = false) (h : func.sig.unsafety = true) :
      SignatureError macroName callback func
        ⟨func.sig.span, s!"{macroName} expects a safe function"⟩
  | generics (ha : func.sig.asyncness = false) (hu : func.sig.unsafety = false)
      (h : func.sig.genericParams ≠ []) : SignatureError macroName callback func
        ⟨func.sig.span, s!"{macroName} does not support generics"⟩
  | variadics (ha : func.sig.asyncness = false) (hu : func.sig.unsafety = false)
      (hg : func.sig.genericParams = []) (h : func.sig.variadic = true) :
      SignatureError macroName callback func
        ⟨func.sig.span, s!"{macroName} does not support variadics"⟩
  | count (ha : func.sig.asyncness = false) (hu : func.sig.unsafety = false)
      (hg : func.sig.genericParams = []) (hv : func.sig.variadic = false)
      (h : func.sig.inputs.length ≠ 1) : SignatureError macroName callback func
        ⟨func.sig.span, s!"expected exactly one argument: &mut {callback.context}"⟩
  | context {arg : FnArg} (ha : func.sig.asyncness = false) (hu : func.sig.unsafety = false)
      (hg : func.sig.genericParams = []) (hv : func.sig.variadic = false)
      (hi : func.sig.inputs = [arg]) (h : ¬ TakesContext callback arg) :
      SignatureError macroName callback func
        ⟨func.sig.span, s!"argument must be &mut {callback.context}"⟩

lemma Ident.is_iff {ident : Ident} {s : String} : ident.is s = true ↔ ident = ⟨false, s⟩ := by
  rcases ident with ⟨raw, name⟩
  simp [Ident.is]

lemma isContextArg_iff {callback : Callback} {arg : FnArg} :
    isContextArg callback.context arg = true ↔ TakesContext callback arg := by
  simp only [isContextArg]
  split
  · next lifetime qself path =>
    cases hl : path.segments.getLast? with
    | none =>
      refine ⟨fun h => (nomatch h), ?_⟩
      rintro ⟨_, _, _, arguments, ⟨⟩, init, hs⟩
      rw [hs, List.getLast?_concat] at hl
      cases hl
    | some segment =>
      rcases segment with ⟨ident, arguments⟩
      obtain ⟨init, hs⟩ := List.getLast?_eq_some_iff.mp hl
      refine ⟨fun h => ?_, ?_⟩
      · obtain rfl := Ident.is_iff.mp h
        exact ⟨lifetime, qself, path, arguments, rfl, init, hs⟩
      · rintro ⟨_, _, _, _, ⟨⟩, init', hs'⟩
        rw [hs', List.getLast?_concat] at hl
        cases hl
        exact Ident.is_iff.mpr rfl
  · next h =>
    refine ⟨fun h => (nomatch h), ?_⟩
    rintro ⟨lifetime, qself, path, _, rfl, _⟩
    exact absurd rfl (h lifetime qself path)

lemma validateContextArg_eq_ok {callback : Callback} {func : ItemFn} :
    validateContextArg func callback.context = .ok () ↔
      ∃ arg, func.sig.inputs = [arg] ∧ TakesContext callback arg := by
  rw [validateContextArg]
  split
  · next arg hi =>
    rw [hi]
    by_cases hc : isContextArg callback.context arg = true
    · rw [if_pos hc]
      exact ⟨fun _ => ⟨arg, rfl, isContextArg_iff.mp hc⟩, fun _ => rfl⟩
    · rw [if_neg hc]
      refine ⟨fun h => (nomatch h), ?_⟩
      rintro ⟨_, ⟨⟩, h⟩
      exact absurd (isContextArg_iff.mpr h) hc
  · next hi =>
    refine ⟨fun h => (nomatch h), ?_⟩
    rintro ⟨arg, he, _⟩
    exact absurd he (hi arg)

lemma validateContextArg_error {macroName : String} {callback : Callback} {func : ItemFn}
    {e : SynError} (ha : func.sig.asyncness = false) (hu : func.sig.unsafety = false)
    (hg : func.sig.genericParams = []) (hv : func.sig.variadic = false)
    (h : validateContextArg func callback.context = .error e) :
    SignatureError macroName callback func e := by
  rw [validateContextArg] at h
  split at h
  · next arg hi =>
    split at h
    · cases h
    · next hc =>
      cases h
      exact .context ha hu hg hv hi fun ht => hc (isContextArg_iff.mpr ht)
  · next hi =>
    cases h
    refine .count ha hu hg hv fun hl => ?_
    obtain ⟨arg, he⟩ := List.length_eq_one_iff.mp hl
    exact hi arg he

section

variable {macroName : String} {callback : Callback} {func : ItemFn}

lemma checkSignature_eq_ok :
    checkSignature macroName callback func = .ok () ↔ WellSigned callback func := by
  refine ⟨fun h => ?_, fun h => ?_⟩
  · rw [checkSignature] at h
    split_ifs at h with ha hu hg hv
    exact ⟨by simpa using ha, by simpa using hu, not_not.mp hg, by simpa using hv,
      validateContextArg_eq_ok.mp h⟩
  · rw [checkSignature, if_neg (by simp [h.synchronous]), if_neg (by simp [h.safe]),
      if_neg (not_not.mpr h.monomorphic), if_neg (by simp [h.fixed])]
    exact validateContextArg_eq_ok.mpr h.context

lemma checkSignature_error {e : SynError} (h : checkSignature macroName callback func = .error e) :
    SignatureError macroName callback func e := by
  rw [checkSignature] at h
  split_ifs at h with ha hu hg hv
  · cases h
    exact .asynchronous ha
  · cases h
    exact .unsafety (by simpa using ha) hu
  · cases h
    exact .generics (by simpa using ha) (by simpa using hu) hg
  · cases h
    exact .variadics (by simpa using ha) (by simpa using hu) (not_not.mp hg) hv
  · exact validateContextArg_error (by simpa using ha) (by simpa using hu) (not_not.mp hg)
      (by simpa using hv) h

end

/-- The function returns `SyscallResult<inner, ..>`, under whatever path. -/
def ReturnsResult (func : ItemFn) (inner : Ty) : Prop :=
  ∃ qself path rest, func.sig.output = some (.path qself path) ∧
    path.EndsWith (.mk ⟨false, "SyscallResult"⟩ (.angleBracketed (.type inner :: rest)))

inductive Body (func : ItemFn) : Block → Prop
  | wrapped {inner : Ty} (h : ReturnsResult func inner) : Body func (.wrapped inner func.block)
  | kept (h : ∀ inner, ¬ ReturnsResult func inner) : Body func func.block

lemma wrapSyscallResult_result {func : ItemFn} {inner : Ty} (h : ReturnsResult func inner) :
    wrapSyscallResult func = { func with block := .wrapped inner func.block } := by
  obtain ⟨qself, path, rest, ho, init, hs⟩ := h
  simp only [wrapSyscallResult, ho, hs, List.getLast?_concat]
  exact if_pos (Ident.is_iff.mpr rfl)

lemma wrapSyscallResult_other {func : ItemFn} (h : ∀ inner, ¬ ReturnsResult func inner) :
    wrapSyscallResult func = func := by
  simp only [wrapSyscallResult]
  split
  · next qself path ho =>
    split
    · next ident inner rest hl =>
      refine if_neg fun hi => h inner ?_
      obtain rfl := Ident.is_iff.mp hi
      exact ⟨qself, path, rest, ho, List.getLast?_eq_some_iff.mp hl⟩
    · rfl
  · rfl

lemma wrapSyscallResult_spec (func : ItemFn) :
    ∃ block, wrapSyscallResult func = { func with block } ∧ Body func block := by
  by_cases h : ∃ inner, ReturnsResult func inner
  · obtain ⟨inner, h⟩ := h
    exact ⟨_, wrapSyscallResult_result h, .wrapped h⟩
  · have hn : ∀ inner, ¬ ReturnsResult func inner := fun inner hi => h ⟨inner, hi⟩
    exact ⟨func.block, wrapSyscallResult_other hn, .kept hn⟩

/-- An application of one of the handler macros, with what it is given as its argument. -/
inductive HandlerMacro
  | syscall (attr : Except SynError Meta)
  | syscallHandler (attrEmpty : Bool)
  | errorHandler (attrEmpty : Bool)
  | stdoutHandler (attrEmpty : Bool)

namespace HandlerMacro

def name : HandlerMacro → String
  | syscall _ => "syscall"
  | syscallHandler _ => "syscall_handler"
  | errorHandler _ => "error_handler"
  | stdoutHandler _ => "stdout_handler"

def callback : HandlerMacro → Callback
  | syscall _ | syscallHandler _ => .syscall
  | errorHandler _ => .error
  | stdoutHandler _ => .stdout

def expand : HandlerMacro → ItemFn → Except SynError Expansion
  | syscall attr => Macros.syscall attr
  | syscallHandler attrEmpty => Macros.syscallHandler attrEmpty
  | errorHandler attrEmpty => Macros.errorHandler attrEmpty
  | stdoutHandler attrEmpty => Macros.stdoutHandler attrEmpty

/-- The argument is well formed, and stands for this number. -/
def Takes : HandlerMacro → Option LitInt → Prop
  | syscall attr, id => ∃ pathSpan lit span,
      attr = .ok (.nameValue (.ofIdent "id") pathSpan (.lit (.int lit)) span) ∧
        lit.negative = false ∧ lit.value < 2 ^ 32 ∧
        id = some (.ofU32 (UInt32.ofNat lit.value) lit.span)
  | syscallHandler attrEmpty, id | errorHandler attrEmpty, id | stdoutHandler attrEmpty, id =>
    attrEmpty = true ∧ id = none

end HandlerMacro

def idForm : String := "expected syscall attribute of the form #[syscall(id = <int>)]"

inductive ArgumentError : HandlerMacro → SynError → Prop
  | unexpected {mac : HandlerMacro}
      (h : mac = .syscallHandler false ∨ mac = .errorHandler false ∨ mac = .stdoutHandler false) :
      ArgumentError mac ⟨.callSite, s!"{mac.name} takes no arguments"⟩
  | unparsed (e : SynError) : ArgumentError (.syscall (.error e)) e
  | path (path : Path) (span : Span) :
      ArgumentError (.syscall (.ok (.path path span))) ⟨span, idForm⟩
  | list (path : Path) (span : Span) :
      ArgumentError (.syscall (.ok (.list path span))) ⟨span, idForm⟩
  | key {path : Path} {pathSpan span : Span} {value : Expr} (h : path ≠ .ofIdent "id") :
      ArgumentError (.syscall (.ok (.nameValue path pathSpan value span))) ⟨pathSpan, idForm⟩
  | literal {pathSpan valueSpan span : Span} {value : Expr}
      (h : value = .lit (.other valueSpan) ∨ value = .other valueSpan) :
      ArgumentError (.syscall (.ok (.nameValue (.ofIdent "id") pathSpan value span)))
        ⟨valueSpan, "syscall id must be an integer literal"⟩
  | negative {pathSpan span : Span} {lit : LitInt} (h : lit.negative = true) :
      ArgumentError (.syscall (.ok (.nameValue (.ofIdent "id") pathSpan (.lit (.int lit)) span)))
        ⟨lit.span, "invalid digit found in string"⟩
  | large {pathSpan span : Span} {lit : LitInt} (hn : lit.negative = false)
      (h : 2 ^ 32 ≤ lit.value) :
      ArgumentError (.syscall (.ok (.nameValue (.ofIdent "id") pathSpan (.lit (.int lit)) span)))
        ⟨lit.span, "number too large to fit in target type"⟩

/-- What a macro makes of a function: the function, its trampoline and its constructor. -/
def Expands (mac : HandlerMacro) (id : Option LitInt) (func : ItemFn) (e : Expansion) : Prop :=
  ∃ block, Body func block ∧ e = ⟨id, { func with block }, mac.callback,
    ⟨false, mac.callback.trampolinePrefix ++ func.sig.ident.name⟩,
    ⟨false, func.sig.ident.name ++ "_handler"⟩, func.vis⟩

section

variable {func : ItemFn}

lemma expands_expand (mac : HandlerMacro) (id : Option LitInt) :
    Expands mac id func (expand id mac.callback func) := by
  obtain ⟨block, hw, hb⟩ := wrapSyscallResult_spec func
  refine ⟨block, hb, ?_⟩
  rw [expand, hw, trampolineName, wrapperName, formatIdent, formatIdent]
  simp

lemma syscall_argument_ok {attr : Except SynError Meta} {id : Option LitInt} :
    (attr >>= parseSyscallId).map some = .ok id ↔ (HandlerMacro.syscall attr).Takes id := by
  cases attr with
  | error e =>
    refine ⟨fun h => (nomatch h), ?_⟩
    rintro ⟨_, _, _, ⟨⟩, _⟩
  | ok arg =>
    change (parseSyscallId arg).map some = .ok id ↔ _
    refine ⟨fun h => ?_, ?_⟩
    · cases hp : parseSyscallId arg with
      | error e =>
        rw [hp] at h
        cases h
      | ok lit' =>
        rw [hp] at h
        cases h
        obtain ⟨pathSpan, value, span, rfl, hv⟩ := parseSyscallId_eq_ok.mp hp
        obtain ⟨lit, n, rfl, hn, rfl⟩ := parseIdValue_eq_ok.mp hv
        obtain ⟨hneg, hval⟩ := LitInt.base10Parse_eq_ok.mp hn
        refine ⟨pathSpan, lit, span, rfl, hneg, hval ▸ n.toNat_lt, ?_⟩
        rw [hval, UInt32.ofNat_toNat]
    · rintro ⟨pathSpan, lit, span, ⟨⟩, hneg, hfits, rfl⟩
      have hn : lit.base10Parse = .ok (UInt32.ofNat lit.value) := by
        rw [LitInt.base10Parse_eq_ok, UInt32.toNat_ofNat_of_lt' hfits]
        exact ⟨hneg, rfl⟩
      rw [parseSyscallId_eq_ok.mpr ⟨pathSpan, _, span, rfl, parseIdValue_eq_ok.mpr
        ⟨lit, _, rfl, hn, rfl⟩⟩]
      rfl

lemma syscall_argument_error {attr : Except SynError Meta} {e : SynError}
    (h : attr >>= parseSyscallId = .error e) : ArgumentError (.syscall attr) e := by
  cases attr with
  | error e' =>
    cases h
    exact .unparsed e
  | ok arg =>
    change parseSyscallId arg = .error e at h
    cases arg with
    | path path span =>
      cases h
      exact .path path span
    | list path span =>
      cases h
      exact .list path span
    | nameValue path pathSpan value span =>
      rw [parseSyscallId] at h
      split at h
      · next hp =>
        obtain rfl := Path.isIdent_iff.mp hp
        rcases value with (lit | valueSpan) | valueSpan
        · rw [parseIdValue, LitInt.base10Parse] at h
          split_ifs at h with hn hv
          · cases h
            exact .negative hn
          · cases h
          · cases h
            exact .large (by simpa using hn) (Nat.le_of_not_lt hv)
        · cases h
          exact .literal (.inl rfl)
        · cases h
          exact .literal (.inr rfl)
      · next hp =>
        cases h
        exact .key fun he => hp (Path.isIdent_iff.mpr he)

/-- The argument is read first, then the signature is checked, then the function is expanded. -/
def Stages (mac : HandlerMacro) (func : ItemFn) (argument : Except SynError (Option LitInt)) :
    Prop :=
  (∀ id, argument = .ok id ↔ mac.Takes id) ∧ (∀ e, argument = .error e → ArgumentError mac e) ∧
    mac.expand func = argument.bind fun id =>
      (checkSignature mac.name mac.callback func).bind fun _ =>
        .ok (expand id mac.callback func)

lemma plain_stages {mac : HandlerMacro} {attrEmpty : Bool}
    (ht : ∀ id, mac.Takes id ↔ attrEmpty = true ∧ id = none)
    (he : attrEmpty = false → ArgumentError mac ⟨.callSite, s!"{mac.name} takes no arguments"⟩)
    (hx : mac.expand func = plainHandler mac.name mac.callback attrEmpty func) :
    ∃ argument, Stages mac func argument := by
  cases attrEmpty with
  | false =>
    refine ⟨.error ⟨.callSite, s!"{mac.name} takes no arguments"⟩, fun id => ?_, ?_, hx⟩
    · rw [ht]
      exact ⟨fun h => (nomatch h), fun h => (nomatch h.1)⟩
    · rintro _ ⟨⟩
      exact he rfl
  | true =>
    refine ⟨.ok none, fun id => ?_, fun _ h => (nomatch h), hx⟩
    rw [ht]
    exact ⟨fun h => ⟨rfl, (Except.ok.inj h).symm⟩, fun h => congrArg _ h.2.symm⟩

lemma stages (mac : HandlerMacro) : ∃ argument, Stages mac func argument := by
  cases mac with
  | syscall attr =>
    refine ⟨(attr >>= parseSyscallId).map some, fun _ => syscall_argument_ok, fun e h => ?_, ?_⟩
    · refine syscall_argument_error ?_
      cases hp : attr >>= parseSyscallId with
      | error e' =>
        rw [hp] at h
        cases h
        rfl
      | ok lit =>
        rw [hp] at h
        cases h
    · cases attr with
      | error e => rfl
      | ok arg =>
        change (parseSyscallId arg).bind _ = ((parseSyscallId arg).map some).bind _
        cases parseSyscallId arg <;> rfl
  | syscallHandler attrEmpty =>
    refine plain_stages (fun _ => Iff.rfl) ?_ rfl
    rintro rfl
    exact .unexpected (.inl rfl)
  | errorHandler attrEmpty =>
    refine plain_stages (fun _ => Iff.rfl) ?_ rfl
    rintro rfl
    exact .unexpected (.inr (.inl rfl))
  | stdoutHandler attrEmpty =>
    refine plain_stages (fun _ => Iff.rfl) ?_ rfl
    rintro rfl
    exact .unexpected (.inr (.inr rfl))

end

/-- A handler macro accepts a function exactly when its argument and the signature are well formed;
it keeps the function, except for the body of one that returns a `SyscallResult`, and names what it
generates after it; otherwise it reports the first error, those of the argument before any other. -/
theorem handler_macros_contract (mac : HandlerMacro) (func : ItemFn) :
    ((∃ e, mac.expand func = .ok e) ↔ (∃ id, mac.Takes id) ∧ WellSigned mac.callback func) ∧
    (∀ e, mac.expand func = .ok e → ∃ id, mac.Takes id ∧ Expands mac id func e) ∧
    (∀ e, mac.expand func = .error e → ArgumentError mac e ∨
      (∃ id, mac.Takes id) ∧ SignatureError mac.name mac.callback func e) := by
  obtain ⟨argument, hok, herror, he⟩ := @stages func mac
  rw [he]
  cases argument with
  | error e =>
    refine ⟨⟨?_, ?_⟩, ?_, ?_⟩
    · rintro ⟨_, ⟨⟩⟩
    · rintro ⟨⟨id, ht⟩, _⟩
      cases (hok id).mpr ht
    · exact fun _ h => nomatch h
    · rintro _ ⟨⟩
      exact .inl (herror e rfl)
  | ok id =>
    have ht := (hok id).mp rfl
    cases hs : checkSignature mac.name mac.callback func with
    | error e =>
      refine ⟨⟨?_, ?_⟩, ?_, ?_⟩
      · rintro ⟨_, ⟨⟩⟩
      · rintro ⟨_, hw⟩
        rw [checkSignature_eq_ok.mpr hw] at hs
        cases hs
      · exact fun _ h => nomatch h
      · rintro _ ⟨⟩
        exact .inr ⟨⟨id, ht⟩, checkSignature_error hs⟩
    | ok u =>
      refine ⟨⟨?_, ?_⟩, ?_, ?_⟩
      · exact fun _ => ⟨⟨id, ht⟩, checkSignature_eq_ok.mp hs⟩
      · exact fun _ => ⟨_, rfl⟩
      · rintro _ ⟨⟩
        exact ⟨id, ht, expands_expand mac id⟩
      · exact fun _ h => nomatch h

end Libriscv.Macros

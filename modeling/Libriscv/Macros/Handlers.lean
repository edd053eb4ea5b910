import Libriscv.Macros.Items

/-! The macros that turn a function into a handler with a trampoline and a constructor. -/

namespace Libriscv.Macros

def isContextArg (expected : String) : FnArg → Bool
  | .typed (.reference _ true (.path _ path)) =>
    match path.segments.getLast? with
    | some segment => segment.ident.is expected
    | none => false
  | _ => false

def validateContextArg (input : ItemFn) (expected : String) : Except SynError Unit :=
  match input.sig.inputs with
  | [arg] =>
    if isContextArg expected arg then .ok ()
    else .error ⟨input.sig.span, s!"argument must be &mut {expected}"⟩
  | _ => .error ⟨input.sig.span, s!"expected exactly one argument: &mut {expected}"⟩

def wrapSyscallResult (input : ItemFn) : ItemFn :=
  match input.sig.output with
  | some (.path _ path) =>
    match path.segments.getLast? with
    | some (.mk ident (.angleBracketed (.type inner :: _))) =>
      if ident.is "SyscallResult" then { input with block := .wrapped inner input.block } else input
    | _ => input
  | _ => input

def parseIdValue : Expr → Except SynError LitInt
  | .lit (.int lit) => do
    let parsed ← lit.base10Parse
    .ok (.ofU32 parsed lit.span)
  | .lit (.other span) | .other span => .error ⟨span, "syscall id must be an integer literal"⟩

def parseSyscallId : Meta → Except SynError LitInt
  | .nameValue path pathSpan value _ =>
    if path.isIdent "id" then parseIdValue value
    else .error ⟨pathSpan, "expected syscall attribute of the form #[syscall(id = <int>)]"⟩
  | .path _ span | .list _ span =>
    .error ⟨span, "expected syscall attribute of the form #[syscall(id = <int>)]"⟩

def parseSyscallAttr (attr : Attribute) : Except SynError LitInt := do
  let arg ← attr.parseArgs
  parseSyscallId arg

inductive Callback
  | syscall
  | error
  | stdout
  deriving DecidableEq, Repr

namespace Callback

def context : Callback → String
  | .syscall => "SyscallContext"
  | .error => "ErrorContext"
  | .stdout => "StdoutContext"

def trampolinePrefix : Callback → String
  | .syscall => "__libriscv_syscall_trampoline_"
  | .error => "__libriscv_error_trampoline_"
  | .stdout => "__libriscv_stdout_trampoline_"

end Callback

structure Expansion where
  idChecks : Option LitInt
  input : ItemFn
  callback : Callback
  trampoline : Ident
  wrapper : Ident
  vis : Visibility

def wrapperName (func : ItemFn) : Ident := formatIdent "" func.sig.ident "_handler"

def trampolineName (callback : Callback) (func : ItemFn) : Ident :=
  formatIdent callback.trampolinePrefix func.sig.ident ""

def checkSignature (macroName : String) (callback : Callback) (input : ItemFn) :
    Except SynError Unit :=
  if input.sig.asyncness then .error ⟨input.sig.span, s!"{macroName} does not support async fns"⟩
  else if input.sig.unsafety then .error ⟨input.sig.span, s!"{macroName} expects a safe function"⟩
  else if input.sig.genericParams ≠ [] then
    .error ⟨input.sig.span, s!"{macroName} does not support generics"⟩
  else if input.sig.variadic then
    .error ⟨input.sig.span, s!"{macroName} does not support variadics"⟩
  else validateContextArg input callback.context

def expand (idChecks : Option LitInt) (callback : Callback) (input : ItemFn) : Expansion where
  idChecks
  input := wrapSyscallResult input
  callback
  trampoline := trampolineName callback input
  wrapper := wrapperName input
  vis := input.vis

def syscall (attr : Except SynError Meta) (input : ItemFn) : Except SynError Expansion := do
  -- `attr` is what `syn::parse::<Meta>` makes of the argument
  let arg ← attr
  let id ← parseSyscallId arg
  checkSignature "syscall" .syscall input
  .ok (expand (some id) .syscall input)

def plainHandler (macroName : String) (callback : Callback) (attrEmpty : Bool) (input : ItemFn) :
    Except SynError Expansion :=
  if attrEmpty then do
    checkSignature macroName callback input
    .ok (expand none callback input)
  else .error ⟨.callSite, s!"{macroName} takes no arguments"⟩

def syscallHandler := plainHandler "syscall_handler" .syscall
def errorHandler := plainHandler "error_handler" .error
def stdoutHandler := plainHandler "stdout_handler" .stdout

end Libriscv.Macros

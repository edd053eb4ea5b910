import Libriscv.Macros.Syntax

/-! Attributes, functions and modules, and the functions that the registry macro generates. -/

namespace Libriscv.Macros

abbrev Predicate := String

inductive Attribute
  -- `args` is what `parse_args::<Meta>` makes of the argument
  | plain (path : Path) (args : Except SynError Meta) (span : Span)
  | cfg (predicate : Predicate) (span : Span)
  | cfgAttr (predicate : Predicate) (attrs : List Attribute) (span : Span)

namespace Attribute

def path : Attribute → Path
  | plain path _ _ => path
  | cfg .. => .ofIdent "cfg"
  | cfgAttr .. => .ofIdent "cfg_attr"

def span : Attribute → Span
  | plain _ _ span | cfg _ span | cfgAttr _ _ span => span

def parseArgs : Attribute → Except SynError Meta
  | plain _ args _ => args
  | cfg predicate span | cfgAttr predicate _ span => .ok (.path (.ofIdent predicate) span)

def isSyscall (attr : Attribute) : Bool := attr.path.isIdent "syscall"

end Attribute

inductive Visibility
  | inherited
  | restricted (path : String)
  | pub
  deriving DecidableEq, Repr

inductive FnArg
  | receiver
  | typed (ty : Ty)

structure Signature where
  ident : Ident
  asyncness : Bool
  unsafety : Bool
  genericParams : List String
  inputs : List FnArg
  variadic : Bool
  output : Option Ty
  span : Span

structure Registration where
  id : LitInt
  handler : Ident
  deriving DecidableEq, Repr

inductive Block
  | source (tokens : String)
  -- the body of a handler that returns a `SyscallResult`
  | wrapped (inner : Ty) (block : Block)
  -- the two bodies that the registry macro writes
  | register (registrations : List Registration)
  | registry

structure ItemFn where
  attrs : List Attribute
  vis : Visibility
  sig : Signature
  block : Block

inductive Item
  | fn (func : ItemFn)
  | mod (ident : Ident) (content : Option (List Item))
  | impl (functions : List ItemFn)
  -- Any other item, with the functions and the names of the other values that the compiler has
  -- in its place once foreign macros have run: `h!(read);`, a constant, an import.
  | other (attrs : List Attribute) (functions : List ItemFn) (names : List String)

structure ItemMod where
  ident : Ident
  content : Option (List Item)
  span : Span

def generated (name : String) (inputs : List FnArg) (output : Ty) (block : Block) : ItemFn where
  attrs := []
  vis := .pub
  sig := ⟨⟨false, name⟩, false, false, [], inputs, false, some output, .callSite⟩
  block

def libriscvPath (name : String) (args : PathArguments) : Ty :=
  .path none (.mk true [.mk ⟨false, "libriscv"⟩ .none, .mk ⟨false, name⟩ args])

def registerFn (registrations : List Registration) : ItemFn :=
  generated "register"
    [.typed (.reference none true (libriscvPath "SyscallRegistryBuilder" .none))]
    (libriscvPath "Result" (.angleBracketed [.type (.other "()")])) (.register registrations)

def registryFn : ItemFn :=
  generated "registry" []
    (libriscvPath "Result" (.angleBracketed [.type (libriscvPath "SyscallRegistry" .none)])) .registry

def syscallAttr (path : Path) (lit : LitInt) : Attribute :=
  .plain path (.ok (.nameValue (.ofIdent "id") .callSite (.lit (.int lit)) .callSite)) .callSite

def hostFunction (attrs : List Attribute) (name context : String) : ItemFn where
  attrs
  vis := .inherited
  sig := ⟨⟨false, name⟩, false, false, [],
    [.typed (.reference none true (.path none (.ofIdent context)))], false, none, .callSite⟩
  block := .source "{}"

def hexLiteral : LitInt :=
  ⟨false, .hexadecimal, [some ⟨1, by decide⟩, some ⟨15, by decide⟩, some ⟨4, by decide⟩], "", .callSite⟩

end Libriscv.Macros

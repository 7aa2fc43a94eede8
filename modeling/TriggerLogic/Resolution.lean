import TriggerLogic.Context
import TriggerLogic.Expr
import TriggerLogic.Glob
import TriggerLogic.Notice

/-! Binding leaves to the names of a run. A tree is cleared, and then its leaves are bound from left
to right up to the first failure. -/

namespace TriggerLogic

structure Resolution where
  bindings : List Binding
  notice : Option Notice
deriving DecidableEq, Repr

structure Glob.Refusal where
  pattern : String
  message : String
deriving DecidableEq, Repr

instance : Coe Glob.Refusal String :=
  ⟨Glob.Refusal.pattern⟩

/-- What the library that compiles regular expressions says of those it does not compile. -/
class RegexLibrary where
  refusal : List Char → Option String

inductive BindError where
  | unresolved (notice : Notice)
  | invalidPattern (refusal : Glob.Refusal)
deriving DecidableEq, Repr

def BindError.message : BindError → String
  | unresolved n => "Configuration error: " ++ n.message
  | invalidPattern r => "Invalid pattern \"" ++ r.pattern ++ "\": " ++ r.message

def BindError.tooLarge : String :=
  "Compiled regex exceeds size limit of 10485760 bytes."

namespace RegexLibrary

def sizeLimit : Nat := 10485760

/-- The bytes of the compiled program. The sizes are fitted to the lengths at which the library
starts to refuse: 10486 times `?`, 10083 times `*`. -/
def programSize (size : Nat) : List Char → Nat
  | '\\' :: c :: cs => programSize (size + 32 * c.utf8Size) cs
  | '.' :: '*' :: cs => programSize (size + 1040) cs
  | '.' :: cs => programSize (size + 1000) cs
  | c :: cs => programSize (size + 32 * c.utf8Size) cs
  | [] => size

instance : RegexLibrary where
  refusal regex := if programSize 80 regex ≤ sizeLimit then none else some BindError.tooLarge

end RegexLibrary

variable [RegexLibrary]

def Glob.compile (pattern : String) : Except BindError Glob :=
  let g := ofPattern pattern
  match RegexLibrary.refusal g.regexText with
  | some message => .error (.invalidPattern ⟨pattern, message⟩)
  | none => .ok g

namespace Leaf

def scan (ctx : Context) (l : Leaf) (g : Glob) : List Binding :=
  (g.filter (ctx.knownNames l.level)).filterMap fun name =>
    (ctx.indexOf l.level name).map (⟨name, ·⟩)

def lookup (ctx : Context) (l : Leaf) : List Binding :=
  match ctx.indexOf l.level l.pattern with
  | some i => [⟨l.pattern, i⟩]
  | none => []

def noticeKind (l : Leaf) : Notice.Kind :=
  if l.isGlob then .noMatch else .notFound

def resolutionOf (ctx : Context) (l : Leaf) (bindings : List Binding) : Resolution where
  bindings := bindings
  notice :=
    if bindings.isEmpty then
      some { pattern := l.pattern, level := l.level, kind := l.noticeKind,
             knownNames := ctx.knownNames l.level }
    else none

def resolve (ctx : Context) (l : Leaf) : Except BindError Resolution :=
  if l.isGlob then
    match Glob.compile l.pattern with
    | .error e => .error e
    | .ok g => .ok (l.resolutionOf ctx (l.scan ctx g))
  else .ok (l.resolutionOf ctx (l.lookup ctx))

def settle (ctx : Context) (l : Leaf) : Leaf × Except BindError (List Notice) :=
  match l.resolve ctx with
  | .error e => (l, .error e)
  | .ok r =>
    (l.bind r.bindings,
      match r.notice with
      | none => .ok []
      | some n => if ctx.policy.isStrict then .error (.unresolved n) else .ok [n])

end Leaf

namespace Expr

def settle (ctx : Context) : Expr → Expr × Except BindError (List Notice)
  | constant b => (constant b, .ok [])
  | leaf l =>
    let (l', outcome) := l.settle ctx
    (leaf l', outcome)
  | not e =>
    let (e', outcome) := e.settle ctx
    (not e', outcome)
  | and l r =>
    match l.settle ctx with
    | (l', .error e) => (and l' r, .error e)
    | (l', .ok notices) =>
      let (r', outcome) := r.settle ctx
      (and l' r', outcome.map (notices ++ ·))
  | or l r =>
    match l.settle ctx with
    | (l', .error e) => (or l' r, .error e)
    | (l', .ok notices) =>
      let (r', outcome) := r.settle ctx
      (or l' r', outcome.map (notices ++ ·))

/-- Binds every leaf to the names of the context. All leaves are cleared first, so a pass that stops
keeps nothing of an earlier one. -/
def rebind (ctx : Context) (e : Expr) : Expr × Except BindError (List Notice) :=
  (e.mapLeaves Leaf.reset).settle ctx

end Expr

end TriggerLogic

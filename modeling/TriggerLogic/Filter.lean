import TriggerLogic.Evaluation
import TriggerLogic.Expr.Dump
import TriggerLogic.Expr.Parse
import TriggerLogic.Resolution

namespace TriggerLogic

variable [RegexLibrary]

structure Condition where
  source : String
  root : Expr
deriving DecidableEq, Repr

structure FilterConfig where
  conditions : List String := []
  policy : Option Policy := none
deriving DecidableEq, Repr

inductive FilterError where
  | noConditions
  | parse (condition : String) (error : ParseError)
deriving DecidableEq, Repr

namespace FilterError

def noConditionsDetail : String := "at least one trigger condition is required"

def message : FilterError → String
  | noConditions => "Configuration error: " ++ noConditionsDetail
  | parse condition error =>
    "Couldn't parse trigger expression \"" ++ condition ++ "\": " ++ error.message

end FilterError

namespace Condition

def parse (source : String) : Except FilterError Condition :=
  match Expr.parse source with
  | .ok root => .ok { source, root }
  | .error e => .error (.parse source e)

def rebind (ctx : Context) (c : Condition) : Condition × Except BindError (List Notice) :=
  let (root, outcome) := c.root.rebind ctx
  ({ c with root }, outcome)

/-- Binds the conditions in order up to the first failure; those after it stay as they are. -/
def rebindAll (ctx : Context) : List Condition → List Condition × Except BindError (List Notice)
  | [] => ([], .ok [])
  | c :: cs =>
    match c.rebind ctx with
    | (c', .error e) => (c' :: cs, .error e)
    | (c', .ok notices) =>
      let (cs', outcome) := rebindAll ctx cs
      (c' :: cs', outcome.map (notices ++ ·))

def judgeAny (ctx : Context) : List Condition → Verdict
  | [] => ⟨false, []⟩
  | c :: cs => (c.root.judge ctx).followedBy false (judgeAny ctx cs)

end Condition

namespace FilterConfig

def validate (config : FilterConfig) : Except FilterError Unit :=
  if config.conditions.isEmpty then .error .noConditions else .ok ()

def addConditions (conditions : List String) (config : FilterConfig) : FilterConfig :=
  { config with conditions := config.conditions ++ conditions }

def withPolicy (policy : Policy) (config : FilterConfig) : FilterConfig :=
  { config with policy := some policy }

end FilterConfig

structure Filter where
  config : FilterConfig
  conditions : List Condition
  configured : Bool := false
deriving DecidableEq, Repr

namespace Filter

def ofConfig (config : FilterConfig) : Except FilterError Filter :=
  match config.validate with
  | .error e => .error e
  | .ok () =>
    match config.conditions.mapM Condition.parse with
    | .error e => .error e
    | .ok conditions => .ok { config, conditions }

def view (f : Filter) (ctx : Context) : Context :=
  match f.config.policy with
  | some policy => ctx.withPolicy policy
  | none => ctx

/-- Binds the conditions to the names of the context. A failed call leaves the filter not
configured, so the next one tries again. -/
def configure (ctx : Context) (f : Filter) : Filter × Except BindError (List Notice) :=
  if f.configured && !ctx.updated then (f, .ok [])
  else
    let (conditions, outcome) := Condition.rebindAll (f.view ctx) f.conditions
    ({ f with conditions, configured := outcome.isOk }, outcome)

def judge (ctx : Context) (f : Filter) : Verdict :=
  if f.configured then Condition.judgeAny ctx f.conditions else ⟨false, []⟩

def accept (ctx : Context) (f : Filter) : Bool :=
  (f.judge ctx).value

def display (f : Filter) : String :=
  " OR ".intercalate (f.conditions.map fun c => c.root.dump)

end Filter

end TriggerLogic

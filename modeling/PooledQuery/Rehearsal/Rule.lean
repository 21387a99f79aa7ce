/-
Transforms and sinks that are given by rules.
-/
import PooledQuery.Rows.Fields
import PooledQuery.Session.World

namespace PooledQuery.Rehearsal

/-- What a rule does with the value of a field. -/
inductive RuleAction where
  | replace (value : Value)
  | upper
  | truth
  | wrap
  | tag (name : Text)
  | fail (failure : Failure)

/-- A rule for the fields of one name, or for all fields. -/
structure Rule where
  key : Option Text
  action : RuleAction

namespace RuleAction

def apply (action : RuleAction) (value : Value) : Except Failure Value :=
  match action with
  | .replace other => .ok other
  | .upper =>
      match value with
      | .text content => .ok (.text (Text.upper content))
      | _ => .ok value
  | .truth => .ok (.bool value.isTruthy)
  | .wrap => .ok (.list [value])
  | .tag name => .ok (.table false [(.text name, value)])
  | .fail failure => .error failure

end RuleAction

def Rule.covers (rule : Rule) (name : Text) : Bool :=
  rule.key.all fun key => key == name

def transform (observed : Bool) (rules : List Rule) : Transform :=
  { observed := observed
    apply := fun name value =>
      match rules.find? fun rule => rule.covers name with
      | some rule => rule.action.apply value
      | none => .ok value }

def sink (failure : Option Failure) : Sink :=
  .report fun _ _ =>
    match failure with
    | some cause => .error cause
    | none => .ok ()

end PooledQuery.Rehearsal

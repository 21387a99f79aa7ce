/-
Settings of a session.

Settings are drafted as values and settled by checking them: the echo level must be one
of three names, the default limit at least one, the threshold for slow statements not
negative.  Each setter checks the one value that it changes.
-/
import PooledQuery.Settings.PatternText
import PooledQuery.Value.Display

namespace PooledQuery

/-- How much of a statement is echoed to the log: its text on one line with the outcome as
JSON, its text as it is with the outcome displayed, or nothing. -/
inductive Echo where
  | full
  | plain
  | silent
  deriving DecidableEq, Repr

namespace Echo

def name : Echo → Text
  | .full => "ALL"
  | .plain => "SIMPLE"
  | .silent => "NONE"

def ofName (value : Value) : Except Failure Echo :=
  let unknown : Except Failure Echo := do throw (.unknownEchoLevel (← value.writtenDisplay))
  match value with
  | .text content =>
      if content = full.name then .ok .full
      else if content = plain.name then .ok .plain
      else if content = silent.name then .ok .silent
      else unknown
  | _ => unknown

end Echo

/-- Settled settings of a session. -/
structure Settings where
  echo : Echo
  defaultLimit : Number
  -- Slow statements are recorded if this counts as true.
  recordsSlow : Value
  -- Statements are slow above so many milliseconds.
  slowThreshold : Number
  ignoreMarker : Value

namespace Settings

/-- Settings as they are given; what is missing has a default. -/
structure Draft where
  echo : Option Value
  defaultLimit : Option Value
  recordsSlow : Option Value
  slowThreshold : Option Value
  ignoreMarker : Option Value

namespace Draft

def empty : Draft := ⟨none, none, none, none, none⟩

def overriddenBy (draft other : Draft) : Draft :=
  { echo := other.echo.or draft.echo
    defaultLimit := other.defaultLimit.or draft.defaultLimit
    recordsSlow := other.recordsSlow.or draft.recordsSlow
    slowThreshold := other.slowThreshold.or draft.slowThreshold
    ignoreMarker := other.ignoreMarker.or draft.ignoreMarker }

def settle (draft : Draft) : Except Failure Settings := do
  let echo ← Echo.ofName (draft.echo.getD (.text Echo.full.name))
  let defaultLimit ← (draft.defaultLimit.getD (.int 10)).notBelow 1 .defaultLimitBelowOne
  let slowThreshold ← (draft.slowThreshold.getD (.int 1000)).notBelow 0 .negativeSlowThreshold
  return {
    echo := echo
    defaultLimit := defaultLimit
    recordsSlow := draft.recordsSlow.getD (.bool false)
    slowThreshold := slowThreshold
    ignoreMarker := draft.ignoreMarker.getD (.text "IGNORE") }

end Draft

def withEcho (settings : Settings) (value : Value) : Except Failure Settings := do
  return { settings with echo := ← Echo.ofName value }

def withDefaultLimit (settings : Settings) (value : Value) : Except Failure Settings := do
  return { settings with defaultLimit := ← value.notBelow 1 .limitBelowOne }

def withRecordsSlow (settings : Settings) (value : Value) : Settings :=
  { settings with recordsSlow := value }

def withSlowThreshold (settings : Settings) (value : Value) : Except Failure Settings := do
  return { settings with slowThreshold := ← value.notBelow 0 .negativeSlowTime }

/-- Whether failures of a statement are not reported.  A marker of bytes is read as a search
pattern. -/
def ignores (settings : Settings) (sql : Text) : Except Failure Bool :=
  match settings.ignoreMarker with
  | .text marker => .ok (!marker.isEmpty && Marker.occursIn marker sql)
  | .bytes _ content =>
      if content.isEmpty then .ok false
      else do return (← Pattern.ofText (Marker.patternText content)).occursIn sql
  | value => if value.isTruthy then .error (.markerNotText value.typeName) else .ok false

end Settings
end PooledQuery

/-
Labels of projected columns.

A column is labelled by its alias if it has one.  A call without alias is labelled by
the function's name, a qualified name by its last component, and any other expression by
itself; quotes and brackets around a label are dropped.
-/
import PooledQuery.Outline.Keyword

namespace PooledQuery

namespace Text

def between? (opening closing : Char) (text : Text) : Option Text :=
  match text with
  | .char first :: second :: rest =>
      if first = opening ∧ (second :: rest).getLast? = some (.char closing) then
        some ((second :: rest).dropLast)
      else none
  | _ => none

def unquoted (identifier : Text) : Text :=
  let trimmed := trim identifier
  ((between? backtick backtick trimmed).or
    ((between? doubleQuote doubleQuote trimmed).or (between? '[' ']' trimmed))).getD trimmed

end Text

namespace Column

def afterAliasKeyword? (text : Text) : Option Text := do
  let keyword ← Keyword.afterBlanks? text
  Keyword.afterBlanks? (← Text.afterWord? "AS" keyword)

/-- What follows each alias keyword outside parentheses and quotes.  The search goes on
after a keyword that was found, so the next `skipped` code points begin no other one. -/
def aliasTails (skipped : Nat) (nesting : Nesting) : Text → List Text
  | [] => []
  | point :: rest =>
      match skipped with
      | remaining + 1 => aliasTails remaining (nesting.step point) rest
      | 0 =>
          match afterAliasKeyword? (point :: rest) with
          | none => aliasTails 0 (nesting.step point) rest
          | some following =>
              let others := aliasTails (rest.length - following.length) (nesting.step point) rest
              if nesting.isTop point then following :: others else others

def alias? (expression : Text) : Option Text :=
  match (aliasTails 0 .top expression).getLast? with
  | some following =>
      match Text.words following with
      | [_] => some (Text.unquoted following)
      | _ => none
  | none => none

def beginsName : CodePoint → Bool
  | .char c => c.isAlpha || c == '_'
  | .surrogate _ => false

def continuesName (point : CodePoint) : Bool :=
  point.isWord || point == .char '.' || point == .char '$'

/-- The name of the function when the expression is a name, an opening parenthesis and
anything up to a closing parenthesis at its end. -/
def callee? (expression : Text) : Option Text :=
  match expression with
  | [] => none
  | first :: rest =>
      if beginsName first then
        match Text.trimStart (rest.dropWhile continuesName) with
        | .char '(' :: inner =>
            if inner.getLast? = some (.char ')') then some (first :: rest.takeWhile continuesName)
            else none
        | _ => none
      else none

inductive QualifiedState where
  | opening
  | bare
  | quoted (quote : Char) (filled : Bool)
  | closed
  deriving DecidableEq, Repr

/-- Whether a code point may occur in a component without quotes; every component but the
first may have an asterisk. -/
def continuesComponent (isFirst : Bool) (point : CodePoint) : Bool :=
  point.isWord || point == .char '$' || (!isFirst && point == .char '*')

/-- Whether the rest of a qualified name is well formed; the last component must not be
the first. -/
def isQualifiedFrom (isFirst : Bool) (state : QualifiedState) : Text → Bool
  | [] => !isFirst && (state = .bare || state = .closed)
  | point :: rest =>
      match state with
      | .opening =>
          if point = .char Text.backtick then
            isQualifiedFrom isFirst (.quoted Text.backtick false) rest
          else if point = .char Text.doubleQuote then
            isQualifiedFrom isFirst (.quoted Text.doubleQuote false) rest
          else continuesComponent isFirst point && isQualifiedFrom isFirst .bare rest
      | .bare =>
          if point = .char '.' then isQualifiedFrom false .opening rest
          else continuesComponent isFirst point && isQualifiedFrom isFirst .bare rest
      | .quoted quote filled =>
          if point = .char quote then filled && isQualifiedFrom isFirst .closed rest
          else isQualifiedFrom isFirst (.quoted quote true) rest
      | .closed => point = .char '.' && isQualifiedFrom false .opening rest

def isQualified (expression : Text) : Bool :=
  isQualifiedFrom true .opening expression

def afterLastDot (expression : Text) : Text :=
  (expression.reverse.takeWhile (· != .char '.')).reverse

def label (expression : Text) : Text :=
  match alias? expression with
  | some name => name
  | none =>
      match callee? expression with
      | some name => name ++ "(...)"
      | none =>
          if isQualified expression then Text.unquoted (afterLastDot expression)
          else Text.unquoted expression

end Column
end PooledQuery

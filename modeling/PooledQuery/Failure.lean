/-
Failures.

Every way in which an operation of the library can fail is a constructor that carries
what is known about the cause.  The wording is given by `Failure.message` alone.  The
texts that a constructor carries are already displayed values or names of value types.
-/
import PooledQuery.Text.Quoted
import PooledQuery.Text.Utf8

namespace PooledQuery

/-- The kinds of failure that a driver, a pool, a statement body, a transform or a sink
raises.  All are ordinary but the last two, which ask the whole program to stop. -/
inductive RaisedKind where
  | driver
  | runtime
  | value
  | type
  | connection
  | interrupt
  | cancelled
  deriving DecidableEq, Repr

/-- The two orders that settings and page numbers are tested with. -/
inductive OrderTest where
  | less
  | atMost
  deriving DecidableEq, Repr

inductive Arithmetic where
  | product
  | quotient
  deriving DecidableEq, Repr

inductive PatternProblem where
  | unopened
  | unclosed
  | unclosedSet
  | badRange (first last : Text)
  deriving DecidableEq, Repr

inductive Failure where
  -- Raised by a collaborator, and passed on as it is.
  | raised (kind : RaisedKind) (message : Text)
  | unknownEchoLevel (shown : Text)
  | defaultLimitBelowOne
  | limitBelowOne
  | negativeSlowThreshold
  | negativeSlowTime
  | partitionCountBelowOne
  | missingPool
  | unsupportedParameterStyle (style : Text)
  | notAnInteger (shown : Text)
  | integerTooLong (digits : Nat)
  | integerTooLongToWrite
  | notAFloat (shown : Text)
  | noInteger (type : Text)
  | floatNaNToInteger
  | floatInfinityToInteger
  | decimalNaNToInteger
  | decimalInfinityToInteger
  | divisionByZero
  | floatDivisionByZero
  | decimalDivisionByZero (undefined : Bool)
  | quotientTooLarge
  | integerTooLargeForFloat
  | decimalUnordered
  | decimalTooLarge
  | floatNaNToRatio
  | floatInfinityToRatio
  | countTooLarge
  | countNotInteger (type : Text)
  | repetitionTooLong (ofBytes : Bool)
  | outOfMemory
  | durationOutOfRange (days : Int)
  | durationDividedByZero
  | notReal (type : Text)
  | unordered (test : OrderTest) (left right : Text)
  | unsupportedOperands (operation : Arithmetic) (left right : Text)
  | notIterable (type : Text)
  | notCallable (type : Text)
  | missingAttribute (type name : Text)
  | markerNotText (type : Text)
  | malformedPattern (problem : PatternProblem) (position : Nat)
  | rowLength (short : Bool)
  | rowWithoutColumns
  | unsupportedRow (shownType : Text)
  | notSerializable (type : Text)
  | unserializableKey (type : Text)
  | notCopyable (described : Text)
  | unencodable (run : Text.UnencodableRun)
  | tableAsParameter
  | notFinite (shown : Text)
  | missingColumn (shown : Text)
  | connectionClosed
  | noReleaseRoute
  | noRowSet
  | nestingTooDeep
  deriving DecidableEq, Repr

namespace Failure

/-- Ordinary failures may be handled by the surrounding code; interruption and
cancellation pass through it. -/
def isOrdinary : Failure → Bool
  | .raised .interrupt _ => false
  | .raised .cancelled _ => false
  | _ => true

def orderSign : OrderTest → Text
  | .less => "<"
  | .atMost => "<="

def arithmeticSign : Arithmetic → Text
  | .product => "*"
  | .quotient => "/"

def unencodableMessage (run : Text.UnencodableRun) : Text :=
  let codec : Text := "'utf-8' codec can't encode character"
  let reason : Text := ": surrogates not allowed"
  if run.length = 1 then
    codec ++ " '" ++ Text.numericEscape run.first.value ++ "' in position " ++
      Text.ofNat run.start ++ reason
  else
    codec ++ "s in position " ++ Text.ofNat run.start ++ "-" ++
      Text.ofNat (run.start + run.length - 1) ++ reason

def patternMessage : PatternProblem → Text
  | .unopened => "unbalanced parenthesis"
  | .unclosed => "missing ), unterminated subpattern"
  | .unclosedSet => "unterminated character set"
  | .badRange first last => "bad character range " ++ first ++ "-" ++ last

def durationMessage (days : Int) : Text :=
  if -2147483648 ≤ days ∧ days ≤ 2147483647 then
    "days=" ++ Text.ofInt days ++ "; must have magnitude <= 999999999"
  else "Python int too large to convert to C int"

def message : Failure → Text
  | .raised _ message => message
  | .unknownEchoLevel shown => shown ++ " is not a valid LogLevel"
  | .defaultLimitBelowOne => "default_limit must be >= 1."
  | .limitBelowOne => "limit must be >= 1."
  | .negativeSlowThreshold => "slow_query_ms must be >= 0."
  | .negativeSlowTime => "slow query time must be >= 0."
  | .partitionCountBelowOne => "partition count must be >= 1."
  | .missingPool => "pool is required."
  | .unsupportedParameterStyle style => "Unsupported paramstyle: " ++ style
  | .notAnInteger shown => "invalid literal for int() with base 10: " ++ shown
  | .integerTooLong digits =>
      "Exceeds the limit (4300 digits) for integer string conversion: value has " ++
        Text.ofNat digits ++ " digits; use sys.set_int_max_str_digits() to increase the limit"
  | .integerTooLongToWrite =>
      "Exceeds the limit (4300 digits) for integer string conversion; " ++
        "use sys.set_int_max_str_digits() to increase the limit"
  | .notAFloat shown => "could not convert string to float: " ++ shown
  | .noInteger type =>
      "int() argument must be a string, a bytes-like object or a real number, not '" ++ type ++ "'"
  | .floatNaNToInteger => "cannot convert float NaN to integer"
  | .floatInfinityToInteger => "cannot convert float infinity to integer"
  | .decimalNaNToInteger => "cannot convert NaN to integer"
  | .decimalInfinityToInteger => "cannot convert Infinity to integer"
  | .divisionByZero => "division by zero"
  | .floatDivisionByZero => "float division by zero"
  | .decimalDivisionByZero undefined =>
      if undefined then "[<class 'decimal.DivisionUndefined'>]" else "[<class 'decimal.DivisionByZero'>]"
  | .quotientTooLarge => "integer division result too large for a float"
  | .integerTooLargeForFloat => "int too large to convert to float"
  | .decimalUnordered => "[<class 'decimal.InvalidOperation'>]"
  | .decimalTooLarge => "[<class 'decimal.Overflow'>]"
  | .floatNaNToRatio => "cannot convert NaN to integer ratio"
  | .floatInfinityToRatio => "cannot convert Infinity to integer ratio"
  | .countTooLarge => "cannot fit 'int' into an index-sized integer"
  | .countNotInteger type => "can't multiply sequence by non-int of type '" ++ type ++ "'"
  | .repetitionTooLong ofBytes =>
      if ofBytes then "repeated bytes are too long" else "repeated string is too long"
  | .outOfMemory => ""
  | .durationOutOfRange days => durationMessage days
  | .durationDividedByZero => "integer division or modulo by zero"
  | .notReal type => "must be real number, not " ++ type
  | .unordered test left right =>
      "'" ++ orderSign test ++ "' not supported between instances of '" ++ left ++ "' and '" ++
        right ++ "'"
  | .unsupportedOperands operation left right =>
      "unsupported operand type(s) for " ++ arithmeticSign operation ++ ": '" ++ left ++ "' and '" ++
        right ++ "'"
  | .notIterable type => "'" ++ type ++ "' object is not iterable"
  | .notCallable type => "'" ++ type ++ "' object is not callable"
  | .missingAttribute type name => "'" ++ type ++ "' object has no attribute '" ++ name ++ "'"
  | .markerNotText type => "decoding to str: need a bytes-like object, " ++ type ++ " found"
  | .malformedPattern problem position =>
      patternMessage problem ++ " at position " ++ Text.ofNat position
  | .rowLength short =>
      if short then "zip() argument 2 is shorter than argument 1"
      else "zip() argument 2 is longer than argument 1"
  | .rowWithoutColumns => "Cursor has no description; cannot map tuple rows to dict."
  | .unsupportedRow shownType => "Unsupported row type: " ++ shownType
  | .notSerializable type => "Object of type " ++ type ++ " is not JSON serializable"
  | .unserializableKey type => "keys must be str, int, float, bool or None, not " ++ type
  | .notCopyable described => "cannot pickle " ++ described
  | .unencodable run => unencodableMessage run
  | .tableAsParameter => "dict can not be used as parameter"
  | .notFinite shown => shown ++ " can not be used with MySQL"
  | .missingColumn shown => shown
  | .connectionClosed => "connection is closed"
  | .noReleaseRoute =>
      "Pool has no release(conn) and connection has no release(); cannot return connection."
  | .noRowSet => "typed query did not return a row set"
  | .nestingTooDeep => "maximum recursion depth exceeded in comparison"

end Failure
end PooledQuery

/-
Keywords in statement texts.

A keyword is found in any letter case and as a whole word.  A phrase is a sequence of
keywords with white space between them.
-/
import PooledQuery.Outline.Nesting

namespace PooledQuery

/-- A way to recognise something at a place of a text, given the code point before that
place: what follows it, if it stands there. -/
abbrev Recognizer := Option CodePoint → Text → Option Text

/-- A place where something was recognised in a text. -/
structure Occurrence where
  before : Text
  here : Text
  after : Text
  deriving DecidableEq, Repr

namespace Keyword

def endsWord (point : Option CodePoint) : Bool :=
  point.any CodePoint.isWord

def afterBlanks? (text : Text) : Option Text :=
  match text with
  | [] => none
  | point :: rest => if point.isBlank then some (Text.trimStart rest) else none

def afterPhrase? : List Text → Text → Option Text
  | [], text => some text
  | [word], text => Text.afterWord? word text
  | word :: next :: words, text => do
      let rest ← Text.afterWord? word text
      afterPhrase? (next :: words) (← afterBlanks? rest)

def phrase (words : List Text) : Recognizer := fun before text =>
  if endsWord before then none
  else
    match afterPhrase? words text with
    | some rest => if endsWord rest.head? then none else some rest
    | none => none

def word (keyword : Text) : Recognizer :=
  phrase [keyword]

def firstOf (choices : List Recognizer) : Recognizer := fun before text =>
  choices.findSome? fun recognize => recognize before text

def firstFrom (recognize : Recognizer) (before : Option CodePoint) (nesting : Nesting) :
    Text → Option Occurrence
  | [] => none
  | point :: rest =>
      match if nesting.isTop point then recognize before (point :: rest) else none with
      | some following => some ⟨[], point :: rest, following⟩
      | none =>
          (firstFrom recognize (some point) (nesting.step point) rest).map fun found =>
            { found with before := point :: found.before }

/-- The first place of a whole text outside parentheses and quotes where something is
recognised. -/
def first? (recognize : Recognizer) (text : Text) : Option Occurrence :=
  firstFrom recognize none .top text

end Keyword
end PooledQuery

/-
White space in texts: trimming, words, and single spacing.
-/
import PooledQuery.Text.Classes

namespace PooledQuery.Text

def trimStart (text : Text) : Text :=
  text.dropWhile CodePoint.isBlank

def trimEnd (text : Text) : Text :=
  (text.reverse.dropWhile CodePoint.isBlank).reverse

def trim (text : Text) : Text :=
  trimEnd (trimStart text)

/-- The pieces of a text between the separating code points; there is one more piece than
separators, and a piece may be empty. -/
def pieces (separates : CodePoint → Bool) : Text → List Text
  | [] => [[]]
  | point :: rest =>
      if separates point then [] :: pieces separates rest
      else
        match pieces separates rest with
        | [] => [[point]]
        | first :: others => (point :: first) :: others

/-- The maximal runs of code points other than white space. -/
def words (text : Text) : List Text :=
  (pieces CodePoint.isBlank text).filter fun piece => !piece.isEmpty

def singleSpaced (text : Text) : Text :=
  joined [.char ' '] (words text)

end PooledQuery.Text

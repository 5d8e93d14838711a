import TraitRoutes.Unicode.LetterCase
import TraitRoutes.Unicode.Cluster

/-!
# Words of a name

A name is cut into words at underscores, hyphens and spaces, and at the borders
that letter case and digits mark: `getItem`, `HTTPServer` and `item2` all have
two words. A separator always cuts, so two in a row enclose an empty word. The
words are then joined again in one of three styles. Case is that of clusters, of
which a letter with its accents is one.
-/

namespace TraitRoutes.Text

open Unicode (clusters lowerText upperText)

/-- A cluster that reads differently in lower case and in upper case, and stands
in upper case. -/
def isUpperCluster (g : List Char) : Bool := upperText g != lowerText g && g == upperText g

/-- A cluster that reads differently in lower case and in upper case, and stands
in lower case. -/
def isLowerCluster (g : List Char) : Bool := upperText g != lowerText g && g == lowerText g

/-- A cluster of ASCII digits. -/
def isDigitCluster (g : List Char) : Bool := g.all Char.isDigit

/-- A cluster that separates words and belongs to none. -/
def isSeparator (g : List Char) : Bool := g == ['_'] || g == ['-'] || g == [' ']

/-- Whether a word ends behind the cluster `g`, before the clusters `rest`. -/
def endsWord (g : List Char) : List (List Char) → Bool
  | [] => false
  | h :: more =>
    (isLowerCluster g && isUpperCluster h)
      || (isUpperCluster g && isUpperCluster h && (more.head?.map isLowerCluster).getD false)
      || (isDigitCluster g && (isLowerCluster h || isUpperCluster h))
      || ((isLowerCluster g || isUpperCluster g) && isDigitCluster h)

/-- Puts a cluster in front of the first word. -/
def intoFirst (g : List Char) : List (List (List Char)) → List (List (List Char))
  | [] => [[g]]
  | word :: more => (g :: word) :: more

/-- Cuts clusters into words. -/
def cut : List (List Char) → List (List (List Char))
  | [] => [[]]
  | g :: rest =>
    if isSeparator g then [] :: cut rest
    else if endsWord g rest then [g] :: cut rest
    else intoFirst g (cut rest)

/-- The words of a text, each as its clusters. The empty text has none. -/
def wordsOf (text : List Char) : List (List (List Char)) :=
  if text.isEmpty then [] else cut (clusters text)

/-- A word in lower case. -/
def lowerWord (word : List (List Char)) : List Char := lowerText word.flatten

/-- A word with its first character in upper case and the others in lower case. -/
def capitalWord (word : List (List Char)) : List Char :=
  match word.flatten with
  | [] => []
  | c :: rest => Unicode.upperChar c ++ lowerText rest

/-- The words in lower case, joined by underscores. -/
def snakeCase (text : List Char) : List Char :=
  ['_'].intercalate ((wordsOf text).map lowerWord)

/-- The words in lower case, joined by hyphens. -/
def kebabCase (text : List Char) : List Char :=
  ['-'].intercalate ((wordsOf text).map lowerWord)

/-- The words with capitals, put together. -/
def pascalCase (text : List Char) : List Char := (wordsOf text).flatMap capitalWord

end TraitRoutes.Text

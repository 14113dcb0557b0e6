import Schemata.Text.Character

/-!
Names cut into words, and the two spellings built from the words: snake case (`user_address`) and
lower camel case (`userAddress`).

A word ends at every character that is no letter and no digit, between a lower case and an upper
case letter, and before the last capital of a run of capitals that a lower case letter follows.
Digits and letters without case belong to the case of the letters before them.
-/
namespace Schemata.Text

/-- The case of the last cased letter of the word being read. -/
inductive WordCase where
  | unknown | lower | upper
  deriving DecidableEq, Repr

def WordCase.after (w : WordCase) (c : Char) : WordCase :=
  if isLowercase c then .lower else if isUppercase c then .upper else w

/-- Cuts a run of letters and digits into words. `word` is the part of the current word already
read, last character first, and `w` its case. -/
def wordsOfRun (w : WordCase) (word : List Char) : List Char → List (List Char)
  | [] => []
  | [c] => [(c :: word).reverse]
  | c :: d :: rest =>
    if w.after c = .lower && isUppercase d then
      (c :: word).reverse :: wordsOfRun .unknown [] (d :: rest)
    else if w = .upper && isUppercase c && isLowercase d then
      word.reverse :: wordsOfRun .unknown [c] (d :: rest)
    else wordsOfRun (w.after c) (c :: word) (d :: rest)

/-- The maximal runs of letters and digits; `run` is the one being read, last character first. -/
def runsOf (run : List Char) : List Char → List (List Char)
  | [] => [run.reverse]
  | c :: rest => if isAlphanumeric c then runsOf (c :: run) rest else run.reverse :: runsOf [] rest

def words (s : List Char) : List (List Char) :=
  (runsOf [] s).flatMap (wordsOfRun .unknown [])

/-- A word in lower case. A capital sigma at its end becomes the final sigma. -/
def lowerWord : List Char → List Char
  | [] => []
  | ['Σ'] => ['ς']
  | c :: rest => lowercase c ++ lowerWord rest

/-- A word with its first letter in upper case and the others in lower case. -/
def capitalWord : List Char → List Char
  | [] => []
  | c :: rest => uppercase c ++ lowerWord rest

/-- Words in lower case with underscores between them. -/
def snakeCase (s : String) : String :=
  String.ofList (((words s.toList).map lowerWord).intersperse ['_']).flatten

/-- The first word in lower case, all later words capitalized. -/
def lowerCamelCase (s : String) : String :=
  match words s.toList with
  | [] => ""
  | first :: later => String.ofList (lowerWord first ++ later.flatMap capitalWord)

end Schemata.Text

import DocFilter.Text.Alphanumeric
import DocFilter.Text.Case

/-!
Words in a name, and the two ways of joining them again. A word ends at a character that is neither
letter nor digit, between a small letter and a capital, and before the last of a run of capitals
when a small letter follows it. Characters without case do not count as either.
-/

namespace DocFilter.Text

/-- The case of the last letter with a case in the current word. -/
inductive LastCase where
  | none
  | lower
  | upper
  deriving DecidableEq

def LastCase.after (last : LastCase) (c : Char) : LastCase :=
  if isLower c then .lower else if isUpper c then .upper else last

/-- Splits a run of letters and digits, of which `current` has been read, backwards. -/
def splitRun (last : LastCase) (current : List Char) : List Char → List (List Char)
  | [] => if current.isEmpty then [] else [current.reverse]
  | c :: rest =>
    match rest with
    | [] => [(c :: current).reverse]
    | next :: _ =>
      if last.after c = .lower ∧ isUpper next then
        (c :: current).reverse :: splitRun .none [] rest
      else if last = .upper ∧ isUpper c ∧ isLower next then
        current.reverse :: splitRun .none [c] rest
      else splitRun (last.after c) (c :: current) rest

/-- The runs of letters and digits, empty ones included. -/
def runs : List Char → List (List Char)
  | [] => [[]]
  | c :: rest =>
    if isAlphanumeric c then
      match runs rest with
      | [] => [[c]]
      | run :: others => (c :: run) :: others
    else [] :: runs rest

def words (name : String) : List (List Char) := (runs name.toList).flatMap (splitRun .none [])

/-- A capital sigma becomes the final small sigma at the end of a word. -/
def lowerWord : List Char → List Char
  | [] => []
  | [c] => if c = 'Σ' then ['ς'] else toLower c
  | c :: rest => toLower c ++ lowerWord rest

def capitalizeWord : List Char → List Char
  | [] => []
  | c :: rest => toUpper c ++ lowerWord rest

def upperCamel (name : String) : String := String.ofList ((words name).flatMap capitalizeWord)

def snake (name : String) : String :=
  String.ofList (List.intercalate ['_'] ((words name).map lowerWord))

end DocFilter.Text

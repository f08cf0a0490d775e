/-! The parts of a text between the occurrences of a character. -/
namespace ObservedConfig.Text

def splitOn (sep : Char) : List Char → List (List Char)
  | [] => [[]]
  | c :: cs =>
    if c = sep then [] :: splitOn sep cs
    else match splitOn sep cs with
      | part :: parts => (c :: part) :: parts
      | [] => [[c]]

theorem splitOn_ne_nil (sep : Char) (cs : List Char) : splitOn sep cs ≠ [] := by
  cases cs with
  | nil => simp [splitOn]
  | cons c cs =>
    simp only [splitOn]
    split
    · simp
    · split
      · simp
      · simp

def splitAtLast? (sep : Char) (cs : List Char) : Option (List Char × List Char) :=
  if cs.contains sep then
    let tail := (cs.reverse.takeWhile (· != sep)).reverse
    some (cs.take (cs.length - tail.length - 1), tail)
  else none

end ObservedConfig.Text

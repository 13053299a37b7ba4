import Rulesheet.Text.Blank

/- Cutting text at a separator, and the lists of trimmed names written that way. Cutting never
   loses a piece: `n` separators give `n + 1` pieces, and joining them restores the text. -/
namespace Rulesheet.Text

def cutChars (sep : Char) : List Char → List (List Char)
  | [] => [[]]
  | c :: rest =>
    if c = sep then [] :: cutChars sep rest
    else match cutChars sep rest with
      | piece :: pieces => (c :: piece) :: pieces
      | [] => [[c]]

theorem cutChars_ne_nil (sep : Char) (s : List Char) : cutChars sep s ≠ [] := by
  cases s with
  | nil => simp [cutChars]
  | cons c rest =>
    unfold cutChars
    split
    · simp
    · split <;> simp

def cut (sep : Char) (s : String) : List String := (cutChars sep s.toList).map String.ofList

/-- Cuts at every occurrence of `first :: more`, leftmost first and without overlap. -/
def cutAt (first : Char) (more : List Char) (piece : List Char) : List Char → List (List Char)
  | [] => [piece.reverse]
  | c :: rest =>
    if c = first ∧ more.isPrefixOf rest then
      piece.reverse :: cutAt first more [] (rest.drop more.length)
    else cutAt first more (c :: piece) rest
termination_by s => s.length

def join (sep : String) (pieces : List String) : String := sep.intercalate pieces

def trimmedNames (pieces : List String) : List String :=
  (pieces.map trim).filter (· ≠ "")

def names (raw : String) : List String := trimmedNames (cut ',' raw)

def namesBetween? (sep raw : String) : Option (List String) :=
  match sep.toList with
  | [] => none
  | first :: more => some (trimmedNames ((cutAt first more [] raw.toList).map String.ofList))

def unifyNewlines : List Char → List Char
  | [] => []
  | '\r' :: '\n' :: rest => '\n' :: unifyNewlines rest
  | c :: rest => (if c = '\r' then '\n' else c) :: unifyNewlines rest

def withoutFinalNewline (s : List Char) : List Char :=
  if s.getLast? = some '\n' then s.dropLast else s

def replaceFirst (mark : Char) (insert : List Char) : List Char → List Char
  | [] => []
  | c :: rest => if c = mark then insert ++ rest else c :: replaceFirst mark insert rest

end Rulesheet.Text

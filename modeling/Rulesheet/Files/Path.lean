import Rulesheet.Text.Pieces

/- File paths as written: rooted or not, and the segments that are neither empty nor a single
   point. A path keeps its double points; only resolving takes them away. -/
namespace Rulesheet

/-- `root` is empty for a path relative to the working directory. -/
structure Path where
  root : String
  segments : List String
  deriving DecidableEq, Repr

namespace Path

/-- Exactly two leading slashes are a root of their own. -/
def rootOf : List Char → String
  | '/' :: '/' :: '/' :: _ => "/"
  | '/' :: '/' :: _ => "//"
  | '/' :: _ => "/"
  | _ => ""

def ofString (s : String) : Path where
  root := rootOf s.toList
  segments := (Text.cut '/' s).filter fun part => part ≠ "" ∧ part ≠ "."

def text (p : Path) : String :=
  if p.root = "" ∧ p.segments = [] then "." else p.root ++ Text.join "/" p.segments

/-- A rooted path on the right stands alone. -/
def append (p q : Path) : Path := if q.root = "" then ⟨p.root, p.segments ++ q.segments⟩ else q

instance : HAppend Path Path Path := ⟨append⟩

def name (p : Path) : String := p.segments.getLast?.getD ""

/-- Where a name's suffix begins: its last point, if characters stand on both sides of it. -/
def splitName (name : String) : String × String :=
  let cs := name.toList
  let tail := (cs.reverse.takeWhile (· ≠ '.')).reverse
  let head := cs.take (cs.length - tail.length - 1)
  if tail.isEmpty || head.isEmpty then (name, "")
  else (String.ofList head, String.ofList ('.' :: tail))

def stem (p : Path) : String := (splitName p.name).1

def suffix (p : Path) : String := (splitName p.name).2

end Path

abbrev Location := List String

namespace Location

def step (l : Location) (segment : String) : Location :=
  if segment = ".." then l.dropLast else l ++ [segment]

/-- Where a path leads from a directory when double points are taken at their word. -/
def resolve (directory : Location) (p : Path) : Location :=
  p.segments.foldl step (if p.root = "" then directory else [])

def isBelow (l root : Location) : Bool := root.isPrefixOf l && l ≠ root

end Location
end Rulesheet

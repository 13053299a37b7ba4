import Rulesheet.Files.Tree
import Rulesheet.Log
import Rulesheet.Result

/- Writing documents below the output directory. A name that leads elsewhere is refused; a place
   written twice holds the later document. The first failure of the file system, or a name or a
   content without bytes, ends the writing and leaves what was written before. -/
namespace Rulesheet

structure Writing where
  tree : FileTree
  written : List Path := []
  seen : List (Location × String) := []
  refused : Nat := 0
  entries : List LogEntry := []
  error : Option FileError := none
  deriving DecidableEq, Repr

namespace Writing

def lastWriter? (w : Writing) (l : Location) : Option String :=
  (w.seen.find? (·.1 = l)).map Prod.snd

def refuse (w : Writing) (r : MacroResult) (directory : Path) : Writing :=
  { w with
    refused := w.refused + 1
    entries := w.entries ++ [.error ("macro " ++ r.macroName ++ ": refusing to write " ++
      Text.quoted r.fileName ++ " outside " ++ directory.text)] }

/-- Remembers who writes to a place, with a warning if somebody did before. -/
def claim (w : Writing) (r : MacroResult) (l : Location) : Writing :=
  { w with
    seen := (l, r.macroName) :: w.seen
    entries := w.entries ++ (match w.lastWriter? l with
      | some earlier => [.warning (r.fileName ++ " produced by " ++ earlier ++
          " is overwritten by " ++ r.macroName)]
      | none => []) }

def store (w : Writing) (r : MacroResult) (directory : Path) (l : Location) : Writing :=
  let made := w.tree.makeDirectories ⟨"/", l.dropLast⟩
  match made.error with
  | some e => { w with tree := made.tree, error := some e }
  | none =>
    let attempt := made.tree.writeText ⟨"/", l⟩ r.content
    match attempt.error with
    | some e => { w with tree := attempt.tree, error := some e }
    | none => { w with
        tree := attempt.tree
        written := w.written ++ [directory ++ .ofString r.fileName] }

/-- One document. The root is the place of the output directory. -/
def write (directory : Path) (root : Location) (w : Writing) (r : MacroResult) : Writing :=
  match w.error with
  | some _ => w
  | none => match (directory ++ .ofString r.fileName).unresolvable? with
    | some e => { w with error := some e }
    | none =>
      let l := Location.resolve w.tree.workingDirectory (directory ++ .ofString r.fileName)
      if l.isBelow root then (w.claim r l).store r directory l else w.refuse r directory

def all (t : FileTree) (directory : Path) (results : List MacroResult) : Writing :=
  let made := t.makeDirectories directory
  match made.error with
  | some e => { tree := made.tree, error := some e }
  | none =>
    let root := Location.resolve t.workingDirectory directory
    (results.filter MacroResult.success).foldl (write directory root) { tree := made.tree }

end Writing
end Rulesheet

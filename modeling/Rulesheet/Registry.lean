import Rulesheet.Definition
import Rulesheet.Files.Decoding
import Rulesheet.Log
import Rulesheet.Settings
import Rulesheet.Text.Lower

/- The store of definition documents: the files of one directory that bear the suffix, without the
   reserved names. A missing store lists nothing; a document that cannot be read is not found. -/
namespace Rulesheet

/-- A registry compares reserved names by their lower-case forms. -/
structure Registry where
  directory : Path
  suffix : String
  reserved : List String
  deriving DecidableEq, Repr

namespace Registry

def ofSettings (s : Settings) : Registry :=
  ⟨.ofString s.macrosDirectory, s.definitionSuffix, s.reservedDefinitions⟩

def isReserved (r : Registry) (name : String) : Bool :=
  (r.reserved.map Text.lower).contains (Text.lower name)

def insertName (n : String) : List String → List String
  | [] => [n]
  | m :: rest =>
    if n < m then n :: m :: rest else if n = m then m :: rest else m :: insertName n rest

def ascending (names : List String) : List String := names.foldr insertName []

def nameOf? (r : Registry) (entry : String) : Option String :=
  let (stem, suffix) := Path.splitName entry
  if suffix == r.suffix && !r.isReserved stem then some stem else none

def listing (r : Registry) (t : FileTree) : Except FileError (List String) := do
  let entries ← t.list r.directory
  let files ← t.filesAmong r.directory entries
  .ok (ascending (files.filterMap r.nameOf?))

def names (r : Registry) (t : FileTree) : List String :=
  match r.listing t with
  | .ok names => names
  | .error _ => []

/-- The names. What the system fails is reported and empties them, while a path that it does not
    take at all stops the caller. -/
def names? (r : Registry) (t : FileTree) : Except FileError (List String) :=
  match r.listing t with
  | .error e => if e.isFault then .ok [] else .error e
  | .ok names => .ok names

def listingEntries (r : Registry) (t : FileTree) : List LogEntry :=
  match r.listing t with
  | .ok _ => []
  | .error e => [.warning ("cannot list macro definitions in " ++ r.directory.text ++ ": " ++
      e.message)]

/-- Where the document of a name is; the name may be a path itself. -/
def path (r : Registry) (name : String) : Path := r.directory ++ .ofString (name ++ r.suffix)

def readDefinition (t : FileTree) (p : Path) : Except ReadError Definition :=
  (t.readText p).map fun source => .parse source p.stem

def load (r : Registry) (t : FileTree) (name : String) : Except ReadError Definition :=
  readDefinition t (r.path name)

def load? (r : Registry) (t : FileTree) (name : String) : Option Definition :=
  (r.load t name).toOption

def documents (r : Registry) (t : FileTree) :
    Except FileError (List (String × Option Definition)) :=
  (r.names? t).map fun names => names.map fun n => (n, r.load? t n)

def size (r : Registry) (t : FileTree) : Except FileError Nat := (r.names? t).map List.length

def definitionEntries (d : Definition) : List LogEntry :=
  [.debug ("parsed definition=" ++ d.name ++ " recognised=" ++
    Text.quotedList (Definition.recognised d.source))]

def loadEntries (r : Registry) (t : FileTree) (name : String) : List LogEntry :=
  match r.load t name with
  | .ok d => definitionEntries d
  | .error e => [.warning ("macro definition " ++ name ++ " could not be loaded: " ++ e.message)]

end Registry
end Rulesheet

import Rulesheet.Files.Path
import Rulesheet.Text.Utf8
import Rulesheet.Worksheet

/- A file tree without links as a value: what stands at which place. Operations fail as the
   system calls of a file system do, for one of five causes, and then change nothing. They also fail
   on texts that have no bytes: on a path before the system is called, on the content of a file when
   the file is open already. -/
namespace Rulesheet

inductive FileFault where
  | noEntry
  | alreadyThere
  | notDirectory
  | isDirectory
  | nameTooLong
  deriving DecidableEq, Repr

def FileFault.description : FileFault → String
  | noEntry => "[Errno 2] No such file or directory"
  | alreadyThere => "[Errno 17] File exists"
  | notDirectory => "[Errno 20] Not a directory"
  | isDirectory => "[Errno 21] Is a directory"
  | nameTooLong => "[Errno 36] File name too long"

inductive FileError where
  | fault (cause : FileFault) (path : Path)
  | nulInPath
  | unencodable (e : EncodeError)
  deriving DecidableEq, Repr

namespace FileError

def message : FileError → String
  | fault cause path => cause.description ++ ": " ++ Text.quoted path.text
  | nulInPath => "embedded null byte"
  | unencodable e => e.message

def isFault : FileError → Bool
  | fault _ _ => true
  | nulInPath => false
  | unencodable _ => false

/-- Why no system call takes a text as a path. -/
def ofName? (s : String) : Option FileError :=
  match Utf8.nameFault? s with
  | some e => some (.unencodable e)
  | none => if s.toList.contains '\x00' then some .nulInPath else none

end FileError

namespace Path

/-- From a relative path's beginning on a step up is kept. -/
def climb (root : String) (spelled : List String) : List String :=
  if root = "" ∧ (spelled = [] ∨ spelled.getLast? = some "..") then spelled ++ [".."]
  else spelled.dropLast

def unresolvableFrom? (root : String) (spelled : List String) : List String → Option FileError
  | [] => none
  | segment :: rest =>
    if segment = ".." then unresolvableFrom? root (climb root spelled) rest
    else match FileError.ofName? (text ⟨root, spelled ++ [segment]⟩) with
      | some e => some e
      | none => unresolvableFrom? root (spelled ++ [segment]) rest

/-- Resolving a path asks the system for each place on the way, spelled as far as it has come. -/
def unresolvable? (p : Path) : Option FileError :=
  unresolvableFrom? (if p.root = "" then "" else "/") [] p.segments

end Path

inductive Content where
  | text (value : String)
  | bytes (value : List UInt8)
  | workbook (sheets : List Worksheet)
  deriving DecidableEq, Repr

inductive Node where
  | directory
  | file (content : Content)
  deriving DecidableEq, Repr

/-- Places and what stands there; the root is a directory without being listed. -/
structure FileTree where
  entries : List (Location × Node)
  workingDirectory : Location
  deriving DecidableEq, Repr

namespace FileTree

def node? (t : FileTree) (l : Location) : Option Node :=
  if l = [] then some .directory else (t.entries.find? (·.1 = l)).map Prod.snd

def file? (t : FileTree) (l : Location) : Option Content :=
  match t.node? l with
  | some (.file c) => some c
  | _ => none

def putEntry (l : Location) (n : Node) : List (Location × Node) → List (Location × Node)
  | [] => [(l, n)]
  | e :: rest => if e.1 = l then (l, n) :: rest else e :: putEntry l n rest

def put (t : FileTree) (l : Location) (n : Node) : FileTree :=
  { t with entries := putEntry l n t.entries }

def remove (t : FileTree) (l : Location) : FileTree :=
  { t with entries := t.entries.filter fun e => !l.isPrefixOf e.1 }

def putFile (t : FileTree) (l : Location) (n : Node) : FileTree :=
  let above := (List.range l.length).map fun i => l.take i
  let t := above.foldl (fun t d =>
    if d = [] ∨ (t.node? d).isSome then t else t.put d .directory) t
  t.put l n

def maxName : Nat := 255

def maxPath : Nat := 4095

def walkFrom (t : FileTree) (at_ : Location) : List String → Except FileFault Location
  | [] => .ok at_
  | s :: rest =>
    match t.node? at_ with
    | none => .error .noEntry
    | some (.file _) => .error .notDirectory
    | some .directory =>
      if s = ".." then walkFrom t at_.dropLast rest
      else if maxName < Utf8.nameSize s then .error .nameTooLong
      else walkFrom t (at_ ++ [s]) rest

/-- The place that a path names. Everything before its last segment must be a directory. -/
def walk (t : FileTree) (p : Path) : Except FileError Location :=
  match FileError.ofName? p.text with
  | some e => .error e
  | none =>
    if maxPath < Utf8.nameSize p.text then .error (.fault .nameTooLong p)
    else match walkFrom t (if p.root = "" then t.workingDirectory else []) p.segments with
      | .ok l => .ok l
      | .error cause => .error (.fault cause p)

def lookup (t : FileTree) (p : Path) : Except FileError Node := do
  let l ← t.walk p
  match t.node? l with
  | some n => .ok n
  | none => .error (.fault .noEntry p)

/-- Whether a node of some sort stands at a path. Absence is an answer; a path too long for the
    system is an error. -/
def test (t : FileTree) (sort : Node → Bool) (p : Path) : Except FileError Bool :=
  match t.lookup p with
  | .ok n => .ok (sort n)
  | .error (.fault .nameTooLong q) => .error (.fault .nameTooLong q)
  | .error _ => .ok false

def Node.isDirectory : Node → Bool
  | .directory => true
  | .file _ => false

def Node.isFile : Node → Bool
  | .directory => false
  | .file _ => true

def exists? (t : FileTree) (p : Path) : Except FileError Bool := t.test (fun _ => true) p

def isDirectory? (t : FileTree) (p : Path) : Except FileError Bool := t.test Node.isDirectory p

def isFile? (t : FileTree) (p : Path) : Except FileError Bool := t.test Node.isFile p

def read (t : FileTree) (p : Path) : Except FileError Content :=
  match t.lookup p with
  | .ok (.file c) => .ok c
  | .ok .directory => .error (.fault .isDirectory p)
  | .error e => .error e

def list (t : FileTree) (p : Path) : Except FileError (List String) := do
  let l ← t.walk p
  match t.node? l with
  | none => .error (.fault .noEntry p)
  | some (.file _) => .error (.fault .notDirectory p)
  | some .directory =>
    .ok (t.entries.filterMap fun e => if e.1 ≠ [] ∧ e.1.dropLast = l then e.1.getLast? else none)

/-- Those of some names in a directory that are files'. Each is looked at, and one with a path too
    long for the system fails them all. -/
def filesAmong (t : FileTree) (directory : Path) : List String → Except FileError (List String)
  | [] => .ok []
  | name :: rest => do
    let here ← t.isFile? (directory ++ ⟨"", [name]⟩)
    let files ← filesAmong t directory rest
    .ok (if here then name :: files else files)

def makeDirectory (t : FileTree) (p : Path) : Except FileError FileTree := do
  let l ← t.walk p
  match t.node? l with
  | some _ => .error (.fault .alreadyThere p)
  | none => match t.node? l.dropLast with
    | some .directory => .ok (t.put l .directory)
    | some (.file _) => .error (.fault .notDirectory p)
    | none => .error (.fault .noEntry p)

/-- A tree after an operation that may stop half-way. -/
structure Attempt where
  tree : FileTree
  error : Option FileError
  deriving DecidableEq, Repr

/-- A fault is forgiven when a directory is there already. -/
def forgive (t : FileTree) (p : Path) (e : FileError) : Attempt :=
  match e, t.isDirectory? p with
  | .fault _ _, .ok true => ⟨t, none⟩
  | _, _ => ⟨t, some e⟩

/-- Below its last segment, `before` holds the path's segments from the end. -/
def makeDirectoriesFrom (root : String) : List String → FileTree → Attempt
  | [], t =>
    match t.makeDirectory ⟨root, []⟩ with
    | .ok t => ⟨t, none⟩
    | .error e => t.forgive ⟨root, []⟩ e
  | last :: before, t =>
    let p : Path := ⟨root, (last :: before).reverse⟩
    match t.makeDirectory p with
    | .ok t => ⟨t, none⟩
    | .error (.fault .noEntry _) =>
      let above := makeDirectoriesFrom root before t
      match above.error, above.tree.makeDirectory p with
      | some _, _ => above
      | none, .ok t => ⟨t, none⟩
      | none, .error (.fault .noEntry q) => ⟨above.tree, some (.fault .noEntry q)⟩
      | none, .error e => above.tree.forgive p e
    | .error e => t.forgive p e

/-- Makes a directory and the missing ones above it, from the top down. What it made stays also
    when it stops. -/
def makeDirectories (t : FileTree) (p : Path) : Attempt :=
  makeDirectoriesFrom p.root p.segments.reverse t

def openForWriting (t : FileTree) (p : Path) : Except FileError Location := do
  let l ← t.walk p
  match t.node? l with
  | some .directory => .error (.fault .isDirectory p)
  | some (.file _) => .ok l
  | none => match t.node? l.dropLast with
    | some .directory => .ok l
    | some (.file _) => .error (.fault .notDirectory p)
    | none => .error (.fault .noEntry p)

/-- The file is opened first and is empty then. -/
def writeText (t : FileTree) (p : Path) (s : String) : Attempt :=
  match t.openForWriting p with
  | .error e => ⟨t, some e⟩
  | .ok l => match Utf8.textFault? s with
    | some e => ⟨t.put l (.file (.text "")), some (.unencodable e)⟩
    | none => ⟨t.put l (.file (.text s)), none⟩

def Content.append (c : Content) (s : String) : Content :=
  match c with
  | .text v => .text (v ++ s)
  | .bytes b => .bytes (b ++ s.toUTF8.toList)
  | .workbook sheets => .workbook sheets

def encodable (texts : List String) : List String :=
  texts.takeWhile fun s => (Utf8.textFault? s).isNone

/-- Writes texts behind what a file holds, one after another. The first that has no bytes ends the
    writing. -/
def appendTexts (t : FileTree) (p : Path) (texts : List String) : Attempt :=
  match t.openForWriting p with
  | .error e => ⟨t, some e⟩
  | .ok l =>
    let before := (t.file? l).getD (.text "")
    ⟨t.put l (.file (Content.append before (String.join (encodable texts)))),
      (texts.findSome? Utf8.textFault?).map .unencodable⟩

end FileTree
end Rulesheet

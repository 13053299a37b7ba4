import Rulesheet.Session
import Rulesheet.Worksheet.Grid
import Std.Time.DateTime

/- The command as a program. It reads the working directory, lets the session run on what it read
   and carries out what the session changed. Nothing is decided here. -/
namespace Rulesheet.Main

def contentOf (bytes : List UInt8) : Content :=
  match Utf8.decode bytes with
  | .error _ => .bytes bytes
  | .ok s => match Grid.read? s with
    | some sheets => .workbook sheets
    | none => .text s

def addEntry : Nat → Location → FileTree → IO.FS.DirEntry → IO FileTree
  | 0, _, t, _ => pure t
  | depth + 1, above, t, e => do
    let place := above ++ [e.fileName]
    if ← e.path.isDir then
      (← e.path.readDir).foldlM (addEntry depth place) (t.put place .directory)
    else
      let bytes ← IO.FS.readBinFile e.path
      pure (t.put place (.file (contentOf bytes.toList)))

def maxDepth : Nat := 32

def readTree : IO FileTree := do
  let here ← IO.currentDir
  let place := (Path.ofString here.toString).segments
  (← here.readDir).foldlM (addEntry maxDepth place)
    (FileTree.putFile ⟨[], place⟩ place .directory)

def readEnvironment (t : FileTree) : IO Environment := do
  let mentioned := match t.readText Session.environmentFile with
    | .ok text => Assignments.mentioned text.toList
    | .error _ => []
  let fixed := [Settings.macrosVariable, Settings.outputVariable, Environment.disablingVariable]
  (fixed ++ mentioned).foldlM (fun e name => do
    match ← IO.getEnv name with
    | some value => pure (e.put name value)
    | none => pure e) {}

def readClock : IO Moment := do
  let now := Std.Time.DateTime.ofTimestampWithZone (← Std.Time.Timestamp.now) .UTC
  let digits := fun (width : Nat) (n : Int) => paddedNat width n.toNat
  let fields := [digits 2 now.month.val, digits 2 now.day.val]
  let clock := [digits 2 now.hour.val, digits 2 now.minute.val, digits 2 now.second.val]
  let year := digits 4 now.year
  pure ⟨"-".intercalate (year :: fields) ++ "T" ++ ":".intercalate clock ++ "Z",
    String.join (year :: fields) ++ "-" ++ String.join clock⟩

/-- Makes one changed node; directories stand in the tree before what is in them. -/
def store (l : Location) (n : Node) : IO Unit :=
  let path := (Path.mk "/" l).text
  match n with
  | .directory => IO.FS.createDirAll path
  | .file (.text s) => IO.FS.writeFile path s
  | .file (.bytes b) => IO.FS.writeBinFile path ⟨b.toArray⟩
  | .file (.workbook _) => pure ()

def storeChanges (before after : FileTree) : IO Unit :=
  after.entries.forM fun (l, n) => if before.node? l = some n then pure () else store l n

def run (argv : List String) : IO UInt32 := do
  let before ← readTree
  let report := Session.run argv (← readEnvironment before) before (← readClock)
  storeChanges before report.tree
  report.output.forM IO.println
  IO.eprint (report.errorText.getD "")
  match report.ending with
  | .exit code => pure code.toUInt32
  | .escaped e => throw (IO.userError e.message)

end Rulesheet.Main

def main (argv : List String) : IO UInt32 := Rulesheet.Main.run argv

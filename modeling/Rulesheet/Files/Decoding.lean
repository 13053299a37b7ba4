import Rulesheet.Files.Tree
import Rulesheet.Text.Pieces
import Rulesheet.Text.Utf8

/- Reading files as text, which is UTF-8. Every line ending is read as a line feed. -/
namespace Rulesheet

inductive ReadError where
  | file (e : FileError)
  | decode (e : DecodeError)
  deriving DecidableEq, Repr

def ReadError.message : ReadError → String
  | file e => e.message
  | decode e => e.message

/-- A stored workbook is an archive and does not read as text. -/
def Content.decode : Content → Except DecodeError String
  | .text s => .ok s
  | .bytes b => Utf8.decode b
  | .workbook _ => .error ⟨.invalidStart, 10, 1, 0x87⟩

def FileTree.readText (t : FileTree) (p : Path) : Except ReadError String :=
  match t.read p with
  | .error e => .error (.file e)
  | .ok c => match c.decode with
    | .error e => .error (.decode e)
    | .ok s => .ok (String.ofList (Text.unifyNewlines s.toList))

end Rulesheet

import Rulesheet.Files.Tree
import Rulesheet.Worksheet.Stored

/- Reading workbooks from files. Other files are told apart by their first bytes: archives that hold
   no workbook, workbooks of the time before archives, and files of no known format. -/
namespace Rulesheet

inductive WorkbookFault where
  | file (e : FileError)
  | unknownFormat
  | brokenArchive
  | oldFormat
  | openQuote
  deriving DecidableEq, Repr

namespace WorkbookFault

def message : WorkbookFault → String
  | file e => e.message
  | unknownFormat =>
    "Excel file format cannot be determined, you must specify an engine manually."
  | brokenArchive => "File is not a zip file"
  | oldFormat => "`Import xlrd` failed. Install xlrd >= 2.0.1 for xls Excel support " ++
    "Use pip or conda to install the xlrd package."
  | openQuote => "substring not found"

def archiveMark : List UInt8 := [0x50, 0x4B, 3, 4]

def oldMarks : List (List UInt8) :=
  [[9, 0, 4, 0, 7, 0, 0x10, 0], [9, 2, 6, 0, 0, 0, 0x10, 0], [9, 4, 6, 0, 0, 0, 0x10, 0],
    [0xD0, 0xCF, 0x11, 0xE0, 0xA1, 0xB1, 0x1A, 0xE1]]

def ofBytes (bytes : List UInt8) : WorkbookFault :=
  if oldMarks.any (·.isPrefixOf bytes) then oldFormat
  else if archiveMark.isPrefixOf bytes then brokenArchive
  else unknownFormat

end WorkbookFault

def FileTree.readWorkbook (t : FileTree) (p : Path) (wanted : Option (List String)) :
    Except WorkbookFault Workbook :=
  match t.read p with
  | .ok (.workbook sheets) => match Stored.workbook? sheets wanted with
    | some b => .ok b
    | none => .error .openQuote
  | .ok (.text s) => .error (.ofBytes s.toUTF8.toList)
  | .ok (.bytes bytes) => .error (.ofBytes bytes)
  | .error e => .error (.file e)

end Rulesheet

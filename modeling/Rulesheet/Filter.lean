import Rulesheet.Text.Pieces

/- Filters on one column and the partitions that a declared value set makes of a sheet. -/
namespace Rulesheet

inductive FilterKind where
  | exact
  | exclude
  deriving DecidableEq, Repr

def FilterKind.sign : FilterKind → String
  | exact => "="
  | exclude => "!"

structure Filter where
  kind : FilterKind
  values : List String
  deriving DecidableEq, Repr

namespace Filter

def equalTo (value : String) : Filter := ⟨.exact, [Text.trim value]⟩

def noneOf (values : List String) : Filter := ⟨.exclude, values.map Text.trim⟩

/-- An exact filter looks at its first value only, the empty text without one. -/
def accepts (f : Filter) (cellText : String) : Bool :=
  let text := Text.trim cellText
  match f.kind with
  | .exact => text = f.values.headD ""
  | .exclude => !f.values.contains text

def expression (f : Filter) : String := f.kind.sign ++ Text.join "," f.values

end Filter

/-- One document's share of the sheet. The suffix goes into the name templates. -/
structure Partition where
  value : String
  suffix : String
  filter : Filter
  deriving DecidableEq, Repr

namespace Partition

def everything (wildcard : String) : Partition := ⟨wildcard, "", .noneOf []⟩

def ofValue (wildcard : String) (declared : List String) (value : String) : Partition :=
  if value = wildcard then ⟨value, "", .noneOf (declared.filter (· ≠ wildcard))⟩
  else ⟨value, "-" ++ value, .equalTo value⟩

/-- One partition a declared value, in order. Without any value everything is one partition. -/
def ofValues (values wildcard : String) : List Partition :=
  match Text.names values with
  | [] => [everything wildcard]
  | declared => declared.map (ofValue wildcard declared)

def fill (p : Partition) (template : String) : String :=
  String.ofList (Text.replaceFirst '%' p.suffix.toList template.toList)

end Partition
end Rulesheet

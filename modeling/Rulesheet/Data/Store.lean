import Rulesheet.Data.Scalar

/- Configuration data. Lists, pairs, mappings and sets lie in a store, and a datum is a scalar or the
   place of one of them, so that containers can be shared and can hold themselves. -/
namespace Rulesheet

inductive Datum where
  | scalar (value : Scalar)
  | place (index : Nat)
  deriving DecidableEq, Repr

/-- The keys of a mapping and the members of a set are scalars, in the order in which they came. -/
inductive Container where
  | list (items : List Datum)
  | tuple (items : List Datum)
  | mapping (entries : List (Scalar × Datum))
  | set (members : List Scalar)
  deriving DecidableEq, Repr

structure Store where
  containers : Array Container := #[]
  deriving Repr

namespace Container

/-- A key written again takes the later value in its first place. -/
def putEntry (key : Scalar) (value : Datum) : List (Scalar × Datum) → List (Scalar × Datum)
  | [] => [(key, value)]
  | (k, v) :: rest => if k.same key then (k, value) :: rest else (k, v) :: putEntry key value rest

def ofEntries (entries : List (Scalar × Datum)) : List (Scalar × Datum) :=
  entries.foldl (fun acc (k, d) => putEntry k d acc) []

def kind : Container → String
  | list _ => "list"
  | tuple _ => "tuple"
  | mapping _ => "dict"
  | set _ => "set"

def isEmpty : Container → Bool
  | list items | tuple items => items.isEmpty
  | mapping entries => entries.isEmpty
  | set members => members.isEmpty

def ellipsis : Container → String
  | list _ => "[...]"
  | tuple _ => "(...)"
  | mapping _ => "\x7b...\x7d"
  | set _ => "set(...)"

end Container

namespace Store

def size (st : Store) : Nat := st.containers.size

def container? (st : Store) : Datum → Option Container
  | .place i => st.containers[i]?
  | .scalar _ => none

def insert (st : Store) (c : Container) : Datum × Store :=
  (.place st.size, ⟨st.containers.push c⟩)

def update (st : Store) (i : Nat) (c : Container) : Store := ⟨st.containers.setIfInBounds i c⟩

def kind (st : Store) (d : Datum) : String :=
  match d, st.container? d with
  | .scalar s, _ => s.kind
  | _, some c => c.kind
  | _, none => ""

def isFalsy (st : Store) (d : Datum) : Bool :=
  match d, st.container? d with
  | .scalar s, _ => s.isFalsy
  | _, some c => c.isEmpty
  | _, none => false

def entries? (st : Store) (d : Datum) : Option (List (Scalar × Datum)) :=
  match st.container? d with
  | some (.mapping entries) => some entries
  | _ => none

def commas (parts : List String) : String := ", ".intercalate parts

def shownScalar (s : Scalar) : Except ValueFault String := s.whenWritten s.shown

/-- Shows a datum inside the containers at the places `around`. There are no more places than the
    store has, which bounds the depth. -/
def shownWithin (st : Store) : Nat → List Nat → Datum → Except ValueFault String
  | _, _, .scalar s => shownScalar s
  | 0, _, .place _ => .ok ""
  | fuel + 1, around, .place i =>
    match st.containers[i]? with
    | none => .ok ""
    | some c =>
      if around.contains i then .ok c.ellipsis
      else
        let inside := shownWithin st fuel (i :: around)
        match c with
        | .list items => do pure ("[" ++ commas (← items.mapM inside) ++ "]")
        | .tuple [d] => do pure ("(" ++ (← inside d) ++ ",)")
        | .tuple items => do pure ("(" ++ commas (← items.mapM inside) ++ ")")
        | .mapping entries => do
          let parts ← entries.mapM fun (k, d) => do pure ((← shownScalar k) ++ ": " ++ (← inside d))
          pure ("\x7b" ++ commas parts ++ "\x7d")
        | .set [] => .ok "set()"
        | .set members => do pure ("\x7b" ++ commas (← members.mapM shownScalar) ++ "\x7d")

def shown (st : Store) (d : Datum) : Except ValueFault String :=
  st.shownWithin (st.size + 1) [] d

def plain (st : Store) (d : Datum) : Except ValueFault String :=
  match d with
  | .scalar s => s.whenWritten s.plain
  | d => st.shown d

end Store

structure Data where
  store : Store
  root : Datum
  deriving Repr

end Rulesheet

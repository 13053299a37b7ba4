import Rulesheet.Data.Store
import Rulesheet.Text.Base64
import Rulesheet.Text.Lower
import Rulesheet.Yaml.Node

/- The data that a YAML document stands for. A node is built once, however often it is named. The
   containers of a document are filled level by level, so that of several faults the one of the
   outermost level shows. -/
namespace Rulesheet.Yaml

/-! Scalars. A tag asks for a kind of value whatever the form of the text. -/

def withoutLowLines (s : List Char) : List Char := s.filter (· ≠ '_')

def truthValues : List (String × Bool) :=
  [("yes", true), ("no", false), ("true", true), ("false", false), ("on", true), ("off", false)]

def truthValue (text : String) : Except ValueFault Bool :=
  let lower := Text.lower text
  match truthValues.find? (·.1 = lower) with
  | some (_, b) => .ok b
  | none => .error (.noTruthValue lower)

def natural (s : List Char) : Except ValueFault Int :=
  match s with
  | [] => .error .noDigits
  | ['0'] => .ok 0
  | '0' :: 'b' :: ds => Numeral.integer 2 (String.ofList ds)
  | '0' :: 'x' :: ds => Numeral.integer 16 (String.ofList ds)
  | '0' :: _ => Numeral.integer 8 (String.ofList s)
  | _ => do
    let parts ← (Text.cutChars ':' s).mapM fun part => Numeral.integer 10 (String.ofList part)
    pure (parts.foldl (fun n part => 60 * n + part) 0)

def integer (text : String) : Except ValueFault Int := do
  let (negative, ds) := Binary64.readSign (withoutLowLines text.toList)
  let n ← natural ds
  pure (if negative then -n else n)

/-- Adds up sixtieths from the last one on, rounding after every step. -/
def sumOfSixtieths : Binary64 → Nat → List Binary64 → Except ValueFault Binary64
  | sum, _, [] => .ok sum
  | sum, unit, x :: rest =>
    match Binary64.ofInt unit with
    | .infinite _ => .error .hugeInteger
    | u => sumOfSixtieths (sum.add (x.mul u)) (60 * unit) rest

def magnitude (s : List Char) : Except ValueFault Binary64 := do
  let parts ← (Text.cutChars ':' s).mapM fun part => Numeral.float (String.ofList part)
  match parts with
  | [x] => pure x
  | parts => sumOfSixtieths .zero 1 parts.reverse

/-- The literal of what is no number always gives the same one, with the mark 0. -/
def float (mark : Nat) (text : String) : Except ValueFault Scalar := do
  let s := (Text.lower (String.ofList (withoutLowLines text.toList))).toList
  if s = [] then .error .noDigits
  else
    let (negative, u) := Binary64.readSign s
    if u = ".inf".toList then pure (.float (.infinite negative))
    else if u = ".nan".toList then pure (.notANumber 0)
    else
      let x ← magnitude u
      pure (.ofFloat mark (if negative then x.neg else x))

def binary (text : String) : Scan (List UInt8) :=
  if text.toList.all fun c => c.toNat < 128 then
    match Base64.decode? text with
    | some bytes => .ok bytes
    | none => refused
  else refused

def timestamp (text : String) : Except ValueFault Scalar :=
  match Timestamp.read? text.toList with
  | some t => t.value
  | none => .error .noTimestamp

/-! Nodes. -/

/-- The nodes, what has been built of them, and the containers that are still empty with their
    nodes. -/
structure Builder where
  nodes : Array Node
  built : Array (Option Datum)
  store : Store := {}
  pending : List (Nat × Nat) := []

namespace Builder

def tagAt (nodes : Array Node) (i : Nat) : Tag := (nodes[i]?.map Node.tag).getD .unknown

def entriesAt (nodes : Array Node) (i : Nat) : List (Nat × Nat) :=
  match nodes[i]?.map Node.shape with
  | some (.mapping entries) => entries
  | _ => []

def textAt (nodes : Array Node) : Nat → Nat → Scan String
  | 0, _ => .error (.value .endless)
  | fuel + 1, i =>
    match nodes[i]?.map Node.shape with
    | some (.scalar text) => .ok text
    | some (.mapping entries) =>
      match entries.find? fun (k, _) => tagAt nodes k = .value with
      | some (_, v) => textAt nodes fuel v
      | none => refused
    | _ => refused

def scalarAt (b : Builder) (i : Nat) : Scan Scalar := do
  let text ← textAt b.nodes (b.nodes.size + 1) i
  match tagAt b.nodes i with
  | .null => .ok .null
  | .bool => ((truthValue text).map .boolean).mapError .value
  | .int => ((integer text).map .integer).mapError .value
  | .float => (float (i + 1) text).mapError .value
  | .binary => (binary text).map .bytes
  | .timestamp =>
    match b.nodes[i]?.map Node.shape with
    | some (.mapping _) => .error (.value .mappingForTimestamp)
    | _ => (timestamp text).mapError .value
  | .str => .ok (.text text)
  | _ => refused

def place (b : Builder) (i : Nat) (c : Container) : Datum × Builder :=
  let (d, store) := b.store.insert c
  (d, { b with store := store, pending := b.pending ++ [(i, b.store.size)] })

def build (b : Builder) (i : Nat) : Scan (Datum × Builder) :=
  match b.built[i]?.join with
  | some d => .ok (d, b)
  | none => do
    let (d, b) ← match tagAt b.nodes i with
      | .seq | .omap | .pairs => .ok (b.place i (.list []))
      | .map => .ok (b.place i (.mapping []))
      | .set => .ok (b.place i (.set []))
      | _ => do .ok (.scalar (← b.scalarAt i), b)
    .ok (d, { b with built := b.built.setIfInBounds i (some d) })

def buildAll (b : Builder) : List Nat → Scan (List Datum × Builder)
  | [] => .ok ([], b)
  | i :: rest => do
    let (d, b) ← b.build i
    let (ds, b) ← b.buildAll rest
    .ok (d :: ds, b)

/-! Merging. -/

def setEntries (nodes : Array Node) (i : Nat) (entries : List (Nat × Nat)) : Array Node :=
  match nodes[i]? with
  | some n => nodes.setIfInBounds i { n with shape := .mapping entries }
  | none => nodes

def asText (nodes : Array Node) (i : Nat) : Array Node :=
  match nodes[i]? with
  | some n => if n.tag = .value then nodes.setIfInBounds i { n with tag := .str } else nodes
  | none => nodes

/-- Takes the merge keys out of a mapping from the entry `index` on, and puts what they bring in
    front of its other entries. `keys` bounds the number of merge keys. -/
def mergeFrom (keys i index : Nat) (merged : List (Nat × Nat)) (nodes : Array Node) :
    Scan (Array Node) :=
  let entries := entriesAt nodes i
  let own := (entries.drop index).takeWhile fun (k, _) => tagAt nodes k ≠ .merge
  let nodes := own.foldl (fun nodes (k, _) => asText nodes k) nodes
  let index := index + own.length
  match entries.drop index, keys with
  | [], _ => .ok (setEntries nodes i (merged ++ entries))
  | _ :: _, 0 => refused
  | (_, v) :: rest, keys + 1 => do
    let nodes := setEntries nodes i (entries.take index ++ rest)
    match nodes[v]?.map Node.shape with
    | some (.mapping _) =>
      let nodes ← mergeFrom keys v 0 [] nodes
      mergeFrom keys i index (merged ++ entriesAt nodes v) nodes
    | some (.sequence items) =>
      let (parts, nodes) ← items.foldlM (fun (parts, nodes) n => do
        match nodes[n]?.map Node.shape with
        | some (.mapping _) =>
          let nodes ← mergeFrom keys n 0 [] nodes
          .ok (entriesAt nodes n ++ parts, nodes)
        | _ => refused) (([] : List (Nat × Nat)), nodes)
      mergeFrom keys i index (merged ++ parts) nodes
    | _ => refused

def mergeKeys (nodes : Array Node) : Nat :=
  nodes.foldl (fun count n => match n.shape with
    | .mapping entries => count + (entries.filter fun (k, _) => tagAt nodes k = .merge).length
    | _ => count) 0

/-! Filling. -/

def entriesOf (b : Builder) : List (Nat × Nat) → Scan (List (Scalar × Datum) × Builder)
  | [] => .ok ([], b)
  | (k, v) :: rest => do
    let (key, b) ← b.build k
    match key with
    | .scalar s =>
      let (d, b) ← b.build v
      let (more, b) ← b.entriesOf rest
      .ok ((s, d) :: more, b)
    | .place _ => refused

def mappingAt (b : Builder) (i : Nat) : Scan (List (Scalar × Datum) × Builder) :=
  match b.nodes[i]?.map Node.shape with
  | some (.mapping _) => do
    let nodes ← mergeFrom (mergeKeys b.nodes) i 0 [] b.nodes
    let b := { b with nodes := nodes }
    let (entries, b) ← b.entriesOf (entriesAt nodes i)
    .ok (Container.ofEntries entries, b)
  | _ => refused

def pairsOf (b : Builder) : List Nat → Scan (List Datum × Builder)
  | [] => .ok ([], b)
  | i :: rest =>
    match b.nodes[i]?.map Node.shape with
    | some (.mapping [(k, v)]) => do
      let (key, b) ← b.build k
      let (d, b) ← b.build v
      let (pair, store) := b.store.insert (.tuple [key, d])
      let (more, b) ← { b with store := store }.pairsOf rest
      .ok (pair :: more, b)
    | _ => refused

def containerAt (b : Builder) (i : Nat) : Scan (Container × Builder) :=
  match tagAt b.nodes i, b.nodes[i]?.map Node.shape with
  | .seq, some (.sequence items) => do
    let (items, b) ← b.buildAll items
    .ok (.list items, b)
  | .omap, some (.sequence items) | .pairs, some (.sequence items) => do
    let (items, b) ← b.pairsOf items
    .ok (.list items, b)
  | .map, some (.mapping _) => do
    let (entries, b) ← b.mappingAt i
    .ok (.mapping entries, b)
  | .set, some (.mapping _) => do
    let (entries, b) ← b.mappingAt i
    .ok (.set (entries.map Prod.fst), b)
  | _, _ => refused

def fill (b : Builder) (node place : Nat) : Scan Builder := do
  let (c, b) ← b.containerAt node
  .ok { b with store := b.store.update place c }

/-- Fills level after level. Every node is pending once at most. -/
def fillAll : Nat → Builder → Scan Builder
  | 0, b => .ok b
  | fuel + 1, b =>
    if b.pending = [] then .ok b
    else do
      let b ← b.pending.foldlM (fun b (i, place) => b.fill i place) { b with pending := [] }
      fillAll fuel b

end Builder

def load (text : String) : Scan Data := do
  match ← Node.graph? text with
  | none => .ok ⟨{}, .scalar .null⟩
  | some (root, nodes) =>
    let start : Builder := { nodes := nodes, built := Array.replicate nodes.size none }
    let (d, b) ← start.build root
    let b ← Builder.fillAll (nodes.size + 1) b
    .ok ⟨b.store, d⟩

end Rulesheet.Yaml

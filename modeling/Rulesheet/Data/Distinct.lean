import Rulesheet.Data.Store

/- Whether the items of a list are distinct. Items that have an order are sorted and neighbours are
   compared; otherwise every pair is. Where items are only partly ordered, what is found depends on
   the way of sorting: a leading run is kept and the others are inserted by halving. -/
namespace Rulesheet.Distinct

inductive Trouble where
  | noOrder
  | endless
  deriving DecidableEq, Repr

abbrev Answer := Except Trouble

def allPairs (test : Datum → Datum → Answer Bool) : List Datum → List Datum → Answer Bool
  | a :: as, b :: bs => do if ← test a b then allPairs test as bs else pure false
  | [], [] => pure true
  | _, _ => pure false

def allEntries (test : Datum → Datum → Answer Bool) (other : List (Scalar × Datum)) :
    List (Scalar × Datum) → Answer Bool
  | [] => pure true
  | (k, a) :: rest =>
    match other.find? fun (l, _) => l.same k with
    | some (_, b) => do if ← test a b then allEntries test other rest else pure false
    | none => pure false

def isSubset (a b : List Scalar) : Bool := a.all fun s => b.any s.same

/-- Equality of data. A depth beyond the number of pairs of places shows that there is no end. -/
def same (st : Store) : Nat → Datum → Datum → Answer Bool
  | 0, _, _ => .error .endless
  | fuel + 1, a, b =>
    if a = b then pure true
    else match a, b with
      | .scalar s, .scalar t => pure (s.same t)
      | _, _ => match st.container? a, st.container? b with
        | some (.list as), some (.list bs) =>
          if as.length = bs.length then allPairs (same st fuel) as bs else pure false
        | some (.tuple as), some (.tuple bs) => allPairs (same st fuel) as bs
        | some (.mapping as), some (.mapping bs) =>
          if as.length = bs.length then allEntries (same st fuel) bs as else pure false
        | some (.set as), some (.set bs) => pure (as.length = bs.length && isSubset as bs)
        | _, _ => pure false

def sequence? (st : Store) (d : Datum) : Option (List Datum) :=
  match d, st.container? d with
  | .scalar (.bytes b), _ => some (b.map fun n => .scalar (.integer n.toNat))
  | _, some (.list items) => some items
  | _, some (.tuple items) => some items
  | _, _ => none

/-- Equality that keeps truth values and numbers apart, and sequences of all kinds together. -/
def agrees (st : Store) : Nat → Datum → Datum → Answer Bool
  | 0, _, _ => .error .endless
  | fuel + 1, a, b =>
    if a = b then pure true
    else match sequence? st a, sequence? st b, st.entries? a, st.entries? b with
      | some as, some bs, _, _ =>
        if as.length = bs.length then allPairs (agrees st fuel) as bs else pure false
      | _, _, some as, some bs =>
        if as.length = bs.length then allEntries (agrees st fuel) bs as else pure false
      | _, _, _, _ => match a, b with
        | .scalar s, .scalar t => pure (s.agrees t)
        | _, _ => same st fuel a b

def belowFirst (test below : Datum → Datum → Answer Bool) : List Datum → List Datum → Answer Bool
  | a :: as, b :: bs => do if ← test a b then belowFirst test below as bs else below a b
  | [], _ :: _ => pure true
  | _, _ => pure false

def below (st : Store) : Nat → Datum → Datum → Answer Bool
  | 0, _, _ => .error .endless
  | fuel + 1, a, b =>
    match a, b with
    | .scalar s, .scalar t => match s.below? t with
      | some r => pure r
      | none => .error .noOrder
    | _, _ => match st.container? a, st.container? b with
      | some (.list as), some (.list bs) => belowFirst (same st fuel) (below st fuel) as bs
      | some (.tuple as), some (.tuple bs) => belowFirst (same st fuel) (below st fuel) as bs
      | some (.set as), some (.set bs) => pure (decide (as.length < bs.length) && isSubset as bs)
      | _, _ => .error .noOrder

def isTruthValue : Datum → Bool
  | .scalar (.boolean _) => true
  | _ => false

/-- As items truth values have no order. -/
def belowItem (st : Store) (fuel : Nat) (a b : Datum) : Answer Bool :=
  if isTruthValue a || isTruthValue b then .error .noOrder else below st fuel a b

variable (less : Datum → Datum → Answer Bool)

/-- Takes items from `rest` while each stands to the one before it as `falling` says; the run comes
    out backwards. -/
def runFrom (falling : Bool) (last : Datum) (run : List Datum) :
    List Datum → Answer (List Datum × List Datum)
  | [] => pure (last :: run, [])
  | d :: rest => do
    if (← less d last) = falling then runFrom falling d (last :: run) rest
    else pure (last :: run, d :: rest)

def leadingRun : List Datum → Answer (List Datum × List Datum)
  | a :: b :: rest => do
    let falling ← less b a
    let (run, rest) ← runFrom less falling b [a] rest
    pure (if falling then run else run.reverse, rest)
  | items => pure (items, [])

def placeFor (sorted : List Datum) (d : Datum) : Nat → Nat → Nat → Answer Nat
  | 0, low, _ => pure low
  | fuel + 1, low, high =>
    if low < high then
      let middle := (low + high) / 2
      match sorted[middle]? with
      | none => pure low
      | some e => do
        if ← less d e then placeFor sorted d fuel low middle
        else placeFor sorted d fuel (middle + 1) high
    else pure low

def insertItem (sorted : List Datum) (d : Datum) : Answer (List Datum) := do
  let i ← placeFor less sorted d (sorted.length + 1) 0 sorted.length
  pure (sorted.take i ++ d :: sorted.drop i)

def sort (items : List Datum) : Answer (List Datum) := do
  let (run, rest) ← leadingRun less items
  rest.foldlM (insertItem less) run

def anyNeighbours (test : Datum → Datum → Answer Bool) : List Datum → Answer Bool
  | a :: b :: rest => do if ← test a b then pure true else anyNeighbours test (b :: rest)
  | _ => pure false

def anyAgrees (test : Datum → Datum → Answer Bool) (d : Datum) : List Datum → Answer Bool
  | [] => pure false
  | e :: rest => do if ← test e d then pure true else anyAgrees test d rest

def anyPair (test : Datum → Datum → Answer Bool) (seen : List Datum) :
    List Datum → Answer Bool
  | [] => pure false
  | d :: rest => do
    if ← anyAgrees test d seen then pure true else anyPair test (seen ++ [d]) rest

def repeats (st : Store) (items : List Datum) : Except ValueFault Bool :=
  let fuel := (st.size + 1) * (st.size + 1) + 1
  let sorted := do
    let sorted ← sort (belowItem st fuel) items
    anyNeighbours (agrees st fuel) sorted
  let answer := match sorted with
    | .error .noOrder => anyPair (agrees st fuel) [] items
    | answer => answer
  match answer with
  | .ok r => .ok r
  | .error _ => .error .endless

end Rulesheet.Distinct

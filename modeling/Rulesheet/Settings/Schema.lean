import Rulesheet.Data.Distinct
import Rulesheet.Text.Pieces

/- What a configuration may hold. All faults are found, in the order of the rules; unknown keys are
   reported before everything else, then faults of whole properties, then faults of list items, and
   among several the greatest place is named. -/
namespace Rulesheet.Schema

inductive Rule where
  | nonEmptyText
  | extension
  | digits
  | texts (unique : Bool)
  deriving DecidableEq, Repr

def properties : List (String × Rule) :=
  [("macros_directory", .nonEmptyText),
    ("definition_suffix", .extension),
    ("reserved_definitions", .texts true),
    ("legacy_release_tokens", .texts false),
    ("legacy_release_prefixes", .texts false),
    ("wildcard", .nonEmptyText),
    ("output_extension", .extension),
    ("default_return_code", .digits),
    ("output_directory", .nonEmptyText)]

def isKnown (key : Scalar) : Bool := properties.any fun (name, _) => key = .text name

def find? (entries : List (Scalar × Datum)) (key : String) : Option Datum :=
  (entries.find? fun (k, _) => k = .text key).map Prod.snd

def isExtension (s : String) : Bool :=
  match Text.withoutFinalNewline s.toList with
  | '.' :: rest => !rest.isEmpty && rest.all Char.isAlphanum
  | _ => false

def isDigits (s : String) : Bool :=
  let ds := Text.withoutFinalNewline s.toList
  !ds.isEmpty && ds.all Char.isDigit

def isInteger : Datum → Bool
  | .scalar (.integer _) => true
  | .scalar (.float x) => x.toInt?.isSome
  | _ => false

inductive Cause where
  | type (types : List String)
  | form (pattern : String)
  | empty
  | repeated
  deriving DecidableEq, Repr

def Cause.text : Cause → String
  | type types => " is not of type " ++ ", ".intercalate (types.map Text.quoted)
  | form pattern => " does not match " ++ Text.quoted pattern
  | empty => " should be non-empty"
  | repeated => " has non-unique elements"

structure Fault where
  property : String
  item : Option Nat
  message : String
  deriving DecidableEq, Repr

abbrev Checked := Except ValueFault

def describe (st : Store) (d : Datum) (c : Cause) : Checked String := do
  pure ((← st.shown d) ++ c.text)

def textCause? (d : Datum) : Option Cause :=
  match d with
  | .scalar (.text s) => if s = "" then some .empty else none
  | _ => some (.type ["string"])

def plainCause? (r : Rule) (d : Datum) : Option Cause :=
  match r, d with
  | .nonEmptyText, _ => textCause? d
  | .extension, .scalar (.text s) =>
    if isExtension s then none else some (.form "^\\.[A-Za-z0-9]+$")
  | .extension, _ => some (.type ["string"])
  | .digits, .scalar (.text s) => if isDigits s then none else some (.form "^[0-9]+$")
  | .digits, _ => if isInteger d then none else some (.type ["string", "integer"])
  | .texts _, _ => some (.type ["array"])

def itemFaults (st : Store) (property : String) : Nat → List Datum → Checked (List Fault)
  | _, [] => pure []
  | i, d :: rest => do
    let own ← match textCause? d with
      | some c => do pure [⟨property, some i, ← describe st d c⟩]
      | none => pure []
    pure (own ++ (← itemFaults st property (i + 1) rest))

def repeatFaults (st : Store) (property : String) (d : Datum) (items : List Datum) :
    Checked (List Fault) := do
  if ← Distinct.repeats st items then pure [⟨property, none, ← describe st d .repeated⟩]
  else pure []

def valueFaults (st : Store) (property : String) (r : Rule) (d : Datum) : Checked (List Fault) :=
  match r, st.container? d with
  | .texts unique, some (.list items) => do
    let ofItems ← itemFaults st property 0 items
    let ofAll ← if unique then repeatFaults st property d items else pure []
    pure (ofItems ++ ofAll)
  | _, _ => match plainCause? r d with
    | some c => do pure [⟨property, none, ← describe st d c⟩]
    | none => pure []

def faults (st : Store) (entries : List (Scalar × Datum)) : Checked (List Fault) := do
  let found ← properties.mapM fun (name, r) => match find? entries name with
    | some d => valueFaults st name r d
    | none => pure []
  pure found.flatten

/-- Whether the first fault is named rather than the second: one of a whole property before one of
    an item, then the greater place. -/
def Fault.precedes (a b : Fault) : Bool :=
  match a.item, b.item with
  | none, some _ => true
  | some _, none => false
  | none, none => b.property < a.property
  | some i, some j => b.property < a.property || (b.property = a.property && decide (j < i))

def Fault.first? (found : List Fault) : Option Fault :=
  found.foldl (fun best f => match best with
    | some g => if f.precedes g then some f else some g
    | none => some f) none

def insertByText (text : String) (s : Scalar) : List (String × Scalar) → List (String × Scalar)
  | [] => [(text, s)]
  | (t, u) :: rest =>
    if text < t then (text, s) :: (t, u) :: rest else (t, u) :: insertByText text s rest

def sortedByText (keys : List Scalar) : Checked (List Scalar) := do
  let texts ← keys.mapM fun s => do pure (← s.whenWritten s.plain, s)
  pure ((texts.foldl (fun acc (t, s) => insertByText t s acc) []).map Prod.snd)

def unknownMessage? (entries : List (Scalar × Datum)) : Checked (Option String) := do
  let keys ← sortedByText ((entries.map Prod.fst).filter fun k => !isKnown k)
  let names := ", ".intercalate (keys.map Scalar.shown)
  match keys with
  | [] => pure none
  | [_] => pure (some ("Additional properties are not allowed (" ++ names ++ " was unexpected)"))
  | _ => pure (some ("Additional properties are not allowed (" ++ names ++ " were unexpected)"))

def message? (st : Store) (d : Datum) : Checked (Option String) :=
  match st.entries? d with
  | none => do pure (some (← describe st d (.type ["object"])))
  | some entries => do
    let unknown ← unknownMessage? entries
    let found ← faults st entries
    pure (unknown <|> (Fault.first? found).map Fault.message)

end Rulesheet.Schema

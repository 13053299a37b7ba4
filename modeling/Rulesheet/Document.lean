import Rulesheet.Document.Defaults
import Rulesheet.Document.Markup
import Rulesheet.Scan

/- Ruleset documents: one container with a list block a pass, in a loop element on request. Every
   piece begins on a line of its own; texts and attribute values are escaped. -/
namespace Rulesheet.Document

def element (name content : String) : String :=
  "<" ++ name ++ ">" ++ Markup.escape content ++ "</" ++ name ++ ">"

def opening (name container : String) : String :=
  "<?xml version=\"1.0\" encoding=\"UTF-8\"?>\n" ++
  "<SiebelMessage MessageId=\"\" MessageType=\"Integration Object\" IntObjectName=\"" ++
    Markup.escape name ++ "\">\n" ++
  "  <IntObject>\n" ++
  "    <BusinessComponent Name=\"" ++ Markup.escape container ++ "\">"

def rule (t : Triple) : String :=
  "\n          <Rule>" ++
  "\n            " ++ element "Text" t.text ++
  "\n            " ++ element "InList" t.inputs ++
  "\n            " ++ element "OutList" t.outputs ++
  "\n          </Rule>"

def rules (triples : List Triple) : String :=
  if triples = [] then ""
  else "\n        <Rules>" ++ Text.join "" (triples.map rule) ++ "\n        </Rules>"

def defaultElement (d : DefaultValue) : String := "\n        " ++ element d.field d.literal

def listBlock (returnCode : String) (defaults : List DefaultValue) (pass : Pass) : String :=
  "\n      <List>" ++
  "\n        " ++ element "ReturnCode" returnCode ++
  "\n        <Sequence>" ++ toString pass.sequence ++ "</Sequence>" ++
  Text.join "" ((defaults.filter DefaultValue.emitted).map defaultElement) ++
  rules pass.triples ++
  "\n      </List>"

def loopOpening : String := "\n      <Loop>"

def closing (loop : Bool) : String :=
  (if loop then "\n      </Loop>" else "") ++
  "\n    </BusinessComponent>\n  </IntObject>\n</SiebelMessage>"

def assemble (name container returnCode defaultSpec : String) (passes : List Pass)
    (loop : Bool) : String :=
  opening name container ++ (if loop then loopOpening else "") ++
  Text.join "" (passes.map (listBlock returnCode (DefaultValue.parse defaultSpec))) ++
  closing loop

def consumedFields (inputFields : String) (loop : Bool) : String :=
  if loop then inputFields ++ ",Loop" else inputFields

def entries (defaultSpec inputFields : String) (loop : Bool) : List LogEntry :=
  DefaultValue.warnings defaultSpec ++
    [.debug ("closing document fields=" ++ consumedFields inputFields loop)]

end Rulesheet.Document

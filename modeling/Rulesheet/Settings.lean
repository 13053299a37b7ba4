/- Engine settings: where definitions live, which releases are legacy ones and how documents are
   named by default. -/
namespace Rulesheet

structure Settings where
  macrosDirectory : String := "./macros"
  definitionSuffix : String := ".md"
  reservedDefinitions : List String := ["all"]
  legacyTokens : List String := ["202109"]
  legacyPrefixes : List String := ["R1.0"]
  wildcard : String := "%"
  outputExtension : String := ".xml"
  returnCode : String := "1000"
  outputDirectory : String := "./out"
  deriving DecidableEq, Repr

namespace Settings

def isLegacy (s : Settings) (release : String) : Bool :=
  s.legacyTokens.contains release ||
    s.legacyPrefixes.any fun p => p.toList.isPrefixOf release.toList

end Settings
end Rulesheet

import IssueSync.Rule.Mapping

/-! # Configurations

A configuration binds the mapping rules to the projects, issue types and
domains they apply to.
-/

namespace IssueSync

/-- The mapping rules of a set of projects. -/
structure Configuration where
  projects : TextSet := ∅
  issueTypes : TextSet := ∅
  domains : TextSet := ∅
  /-- The issue field that receives the synchronization status. -/
  errorLogName : Option String := none
  inboundMappings : List Mapping := []
  outboundMappings : List Mapping := []
  deriving DecidableEq, Inhabited

/-- The mappings of one direction, in document order. -/
def Configuration.mappings (configuration : Configuration) : Direction → List Mapping
  | .inbound => configuration.inboundMappings
  | .outbound => configuration.outboundMappings

end IssueSync

/-! The tokens of a YAML text. Blocks that are marked by indentation alone have tokens for their
starts and ends as well. -/
namespace ObservedConfig.Yaml

inductive Token where
  | streamEnd
  | version (major minor : Nat)
  /-- What a handle at the start of a tag stands for. -/
  | tagHandle (handle lead : String)
  | documentStart
  | documentEnd
  | blockSequenceStart
  | blockMappingStart
  | blockEnd
  | flowSequenceStart
  | flowSequenceEnd
  | flowMappingStart
  | flowMappingEnd
  | blockEntry
  | flowEntry
  | key
  | value
  | reference (name : String)
  | anchor (name : String)
  | tag (handle suffix : String)
  /-- A scalar; plain ones may stand for other values than texts. -/
  | scalar (text : String) (isPlain : Bool)
  deriving DecidableEq, Inhabited

end ObservedConfig.Yaml

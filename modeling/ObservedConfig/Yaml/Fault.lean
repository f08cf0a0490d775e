import ObservedConfig.Datum.Mismatch

/-! Why a YAML text does not give the value that is asked for. -/
namespace ObservedConfig.Yaml

inductive Fault where
  /-- The text is malformed, or a value in it does not fit, at some line and column. -/
  | positioned
  /-- A value of a document that was already read does not fit. -/
  | mismatch (cause : Mismatch)
  /-- A text that must hold one document holds more. -/
  | moreDocuments
  /-- References to anchors multiply beyond a hundred times the size of the document. -/
  | repetition
  | other (reason : String)
  deriving Inhabited

namespace Fault

def hasPosition : Fault → Bool
  | .positioned => true
  | _ => false

def message : Fault → String
  | .positioned => "the text cannot be read"
  | .mismatch cause => cause.message .yaml
  | .moreDocuments => "deserializing from YAML containing more than one document is not supported"
  | .repetition => "repetition limit exceeded"
  | .other reason => reason

end Fault

end ObservedConfig.Yaml

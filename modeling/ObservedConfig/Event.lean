/-! Change notifications. One event is recorded for each kind of change in a pass, never one for
each changed field. -/
namespace ObservedConfig

/-- A notification; the reason names whoever sends it. -/
structure Event where
  reason : String
  message : String
  deriving DecidableEq, Inhabited

abbrev EventLog := List Event

namespace EventLog

def record (log : EventLog) (reason message : String) : EventLog := log ++ [⟨reason, message⟩]

def messages (log : EventLog) : List String := log.map Event.message

end EventLog

end ObservedConfig

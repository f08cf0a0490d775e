import ObservedConfig.Json.Printer
import ObservedConfig.Registry
import ObservedConfig.Tree.Document

/-! The report on a pass: the next configuration, the events with the time of the pass, the rules in
force, and the errors. -/
namespace ObservedConfig

inductive ReportFormat where
  | yaml
  | json
  deriving DecidableEq, Inhabited

def ReportFormat.ofName? : String → Option ReportFormat
  | "yaml" => some yaml
  | "json" => some json
  | _ => none

structure Report where
  changed : Bool
  config : Tree
  events : EventLog
  /-- Targets with their sources. -/
  rules : List (Location × Location)
  /-- Each error behind the name of its observer. -/
  errors : List String

def Location.toDatum (l : Location) : Datum :=
  .object [("namespace", .text l.namespaceName), ("name", .text l.name)]

namespace Report

def ofPass (pass : Pass) (session : Session) : Report where
  changed := pass.changed
  config := pass.config
  events := session.events
  rules := session.rules.sources
  errors := pass.errors.map fun (name, e) => name ++ ": " ++ e.message

def toDatum (r : Report) (time : String) : Datum := .object [
  ("changed", .bool r.changed),
  ("config", r.config.toDatum),
  ("events", .seq (r.events.map fun event => .object [
    ("reason", .text event.reason), ("message", .text event.message), ("timestamp", .text time)])),
  ("syncRules", .seq (r.rules.map fun (target, source) => .object [
    ("target", target.toDatum), ("source", source.toDatum)])),
  ("errors", .texts r.errors)]

def render (r : Report) (time : String) : ReportFormat → String
  | .yaml => Yaml.print (r.toDatum time)
  | .json => Json.pretty 0 (r.toDatum time) ++ "\n"

end Report
end ObservedConfig

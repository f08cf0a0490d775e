import ObservedConfig.Authentication.Definition
import ObservedConfig.Cluster.Stream
import ObservedConfig.CommandLine.Arguments
import ObservedConfig.Text.Space

/-! The program: one pass over a snapshot of a cluster, and a report on it. What the program prints
and how it ends is a function of its arguments, of the variables and files it may read, and of the
time. -/
namespace ObservedConfig.CommandLine

structure Options where
  snapshot : String
  existing : Option String
  settings : Option String
  /-- Nothing when no gates have been seen. -/
  gates : Option FeatureGates
  format : ReportFormat
  applyRules : Bool
  deriving DecidableEq, Inhabited

inductive Request where
  | notice (n : Notice)
  | definition
  | pass (options : Options)
  deriving DecidableEq, Inhabited

namespace Request

def ofGiven (given : Given) : Except Rejection Request :=
  if given.has .definition then .ok .definition
  else match given.value? .snapshot with
    | none => .error .noSnapshot
    | some snapshot => .ok (.pass {
        snapshot
        existing := given.value? .existing
        settings := given.value? .settings
        gates := if given.has .gatesUnobserved then none else
          some (.ofLists (given.valuesOf .enabledGate) (given.valuesOf .disabledGate))
        format := ((given.value? .format).bind ReportFormat.ofName?).getD .yaml
        applyRules := given.has .applyRules })

def ofArguments (environment? : String → Option String) (arguments : List String) :
    Except Rejection Request := do
  match ← readAll environment? arguments with
  | .inl n => return .notice n
  | .inr given => ofGiven given

def paths : Request → List String
  | pass options => options.settings.toList ++ [options.snapshot] ++ options.existing.toList
  | _ => []

end Request

structure Outcome where
  code : Nat
  output : String
  failure : Option String
  deriving DecidableEq, Inhabited

namespace Outcome

def success (output : String) : Outcome := ⟨0, output, none⟩

def failed (output failure : String) : Outcome := ⟨1, output, some failure⟩

def crashed : Outcome := ⟨101, "", none⟩

end Outcome

def load (read? : String → Option String) (parse : String → Except ε α) (what path : String) :
    Except String α :=
  match (read? path).map parse with
  | some (.ok content) => .ok content
  | _ => .error ("Failed to load " ++ what ++ " " ++ path)

/-- The committed configuration; a file without any content stands for none. -/
def loadExisting (read? : String → Option String) (path : String) : Except String Tree :=
  match read? path with
  | none => .error ("Failed to read existing config " ++ path)
  | some text =>
    if Text.isBlank text then .ok []
    else (Tree.ofYaml text).mapError fun _ => "Failed to parse existing config " ++ path

namespace Options

def inputs (o : Options) (read? : String → Option String) : Except String (Context × Tree) := do
  let settings ← match o.settings with
    | some path => load read? Settings.ofYaml "observer config" path
    | none => .ok .standard
  let snapshot ← load read? Snapshot.ofYaml "snapshot" o.snapshot
  let existing ← match o.existing with
    | some path => loadExisting read? path
    | none => .ok []
  return (⟨snapshot.lookup, .ofLatest o.gates, settings⟩, existing)

/-- Ends the program after the report is printed. There is no connection to a cluster, so rules can
not be applied. -/
def conclude (o : Options) (report : Report) (output : String) : Outcome :=
  if !report.errors.isEmpty then
    .failed output (toString report.errors.length ++ " observer error(s)")
  else if o.applyRules then .failed output "Failed to create Kubernetes client"
  else .success output

def run (o : Options) (read? : String → Option String) (time : String) : Outcome :=
  match o.inputs read? with
  | .error failure => .failed "" failure
  | .ok (context, existing) =>
    match Registry.standard with
    | .error _ => .failed "" "Failed to register observers"
    | .ok registry =>
      match registry.observe context existing ⟨.empty context.settings.targetNamespace, []⟩ with
      | .error _ => .crashed
      | .ok (pass, session) =>
        let report := Report.ofPass pass session
        o.conclude report (report.render time o.format)

end Options

def programName : String := "kas-config-observer"

def versionText : String := programName ++ " 0.1.0\n"

def helpText : String :=
  let parameters := Parameter.all.map fun p => "--" ++ p.name ++ " <VALUE>  " ++ p.describe
  let switches := Switch.all.map fun s => "--" ++ s.name ++ "  " ++ s.describe
  let notices := ["-h, --help  Print help", "-V, --version  Print version"]
  let lines := (parameters ++ switches ++ notices).map fun line => "  " ++ line ++ "\n"
  "Derive kube-apiserver arguments from cluster authentication state\n\nUsage: " ++ programName ++
    " [OPTIONS]\n\nOptions:\n" ++ String.join lines

def Request.run (read? : String → Option String) (time : String) : Request → Outcome
  | .notice .help => .success helpText
  | .notice .version => .success versionText
  | .definition => .success (Yaml.print Authentication.definition ++ "\n")
  | .pass options => options.run read? time

end ObservedConfig.CommandLine

import ObservedConfig.FeatureGates
import ObservedConfig.Report
import ObservedConfig.Text.Digit

/-! The arguments of the command line. A parameter takes a value, which is the next argument or
stands behind an equals sign; a switch takes none. What is not given as an argument may be given by
an environment variable. The program keeps no log: what is said about one is checked and has no
further effect. -/
namespace ObservedConfig.CommandLine

inductive Parameter where
  | snapshot
  | existing
  | settings
  | enabledGate
  | disabledGate
  | format
  | logLevel
  deriving DecidableEq, Inhabited

inductive Switch where
  | gatesUnobserved
  | applyRules
  | jsonLog
  | definition
  deriving DecidableEq, Inhabited

/-- Log levels go by their names in either case, or by numbers from the fewest messages on. -/
def isLogLevel (text : String) : Bool :=
  let digits := match text.toList with
    | '+' :: digits => digits
    | digits => digits
  ["error", "warn", "info", "debug", "trace"].contains text.toLower ||
    (Text.natural? 10 digits).any fun n => 1 ≤ n && n ≤ 5

namespace Parameter

def all : List Parameter :=
  [snapshot, existing, settings, enabledGate, disabledGate, format, logLevel]

def name : Parameter → String
  | snapshot => "snapshot"
  | existing => "existing"
  | settings => "config"
  | enabledGate => "enable-gate"
  | disabledGate => "disable-gate"
  | format => "output"
  | logLevel => "log-level"

def environmentName? : Parameter → Option String
  | snapshot => some "KAS_SNAPSHOT"
  | existing => some "KAS_EXISTING_CONFIG"
  | settings => some "KAS_OBSERVER_CONFIG"
  | enabledGate | disabledGate => none
  | format => some "KAS_OUTPUT"
  | logLevel => some "LOG_LEVEL"

def isRepeatable (p : Parameter) : Bool := p == enabledGate || p == disabledGate

/-- Paths are not empty, and formats and log levels are known. -/
def accepts (value : String) : Parameter → Bool
  | snapshot | existing | settings => !value.isEmpty
  | enabledGate | disabledGate => true
  | format => (ReportFormat.ofName? value).isSome
  | logLevel => isLogLevel value

def describe : Parameter → String
  | snapshot => "The Authentication resource and the ConfigMaps, as a stream of YAML documents"
  | existing => "The committed configuration in YAML"
  | settings => "Settings of the observers in YAML"
  | enabledGate => "An enabled feature gate; may be repeated"
  | disabledGate => "A disabled feature gate; may be repeated"
  | format => "The format of the report, yaml or json"
  | logLevel => "One of trace, debug, info, warn and error"

end Parameter

namespace Switch

def all : List Switch := [gatesUnobserved, applyRules, jsonLog, definition]

def name : Switch → String
  | gatesUnobserved => "gates-unobserved"
  | applyRules => "apply-sync-rules"
  | jsonLog => "log-json"
  | definition => "print-crd"

def environmentName? : Switch → Option String
  | applyRules => some "KAS_APPLY_SYNC_RULES"
  | jsonLog => some "LOG_JSON"
  | gatesUnobserved | definition => none

def describe : Switch → String
  | gatesUnobserved => "No feature gates have been seen yet"
  | applyRules => "Apply the rules for replicas to the cluster"
  | jsonLog => "Log in JSON"
  | definition => "Print the definition of the Authentication resource"

end Switch

def environmentNames : List String :=
  Parameter.all.filterMap Parameter.environmentName? ++ Switch.all.filterMap Switch.environmentName?

inductive Rejection where
  | unknown (argument : String)
  | noValue (name : String)
  /-- A value for something that takes none. -/
  | unneededValue (name : String)
  | badValue (name value : String)
  | repeated (name : String)
  | noSnapshot
  deriving DecidableEq, Inhabited

def Rejection.message : Rejection → String
  | unknown argument => "unexpected argument '" ++ argument ++ "'"
  | noValue name => "a value is required for '--" ++ name ++ "'"
  | unneededValue name => "no value can be given for '--" ++ name ++ "'"
  | badValue name value => "invalid value '" ++ value ++ "' for '--" ++ name ++ "'"
  | repeated name => "'--" ++ name ++ "' cannot be given twice"
  | noSnapshot => "'--snapshot' is required"

structure Given where
  /-- Values in their order. -/
  values : List (Parameter × String)
  switches : List Switch
  deriving DecidableEq, Inhabited

namespace Given

def nothing : Given := ⟨[], []⟩

def valuesOf (g : Given) (p : Parameter) : List String :=
  (g.values.filter fun entry => entry.1 == p).map (·.2)

def value? (g : Given) (p : Parameter) : Option String := (g.valuesOf p).head?

def has (g : Given) (s : Switch) : Bool := g.switches.contains s

def addValue (g : Given) (p : Parameter) (value : String) : Except Rejection Given :=
  if !p.isRepeatable && (g.value? p).isSome then .error (.repeated p.name)
  else if p.accepts value then .ok { g with values := g.values ++ [(p, value)] }
  else .error (.badValue p.name value)

def addSwitch (g : Given) (s : Switch) : Except Rejection Given :=
  if g.has s then .error (.repeated s.name) else .ok { g with switches := g.switches ++ [s] }

end Given

/-- Arguments that are answered at once, whatever follows them. -/
inductive Notice where
  | help
  | version
  deriving DecidableEq, Inhabited

def Notice.ofName? : String → Option Notice
  | "help" => some help
  | "version" => some version
  | _ => none

inductive Meaning where
  | notice (n : Notice)
  | switch (s : Switch)
  | parameter (p : Parameter)
  deriving DecidableEq, Inhabited

def Meaning.ofName? (name : String) : Option Meaning :=
  ((Notice.ofName? name).map .notice).orElse fun _ =>
    ((Switch.all.find? (·.name == name)).map .switch).orElse fun _ =>
      (Parameter.all.find? (·.name == name)).map .parameter

/-- Parts of an argument. A single hyphen and the empty text are plain. -/
inductive Form where
  /-- The end of everything that has a name. -/
  | ending
  | long (name : String) (value? : Option String)
  | short (letter : Char)
  | plain
  deriving DecidableEq, Inhabited

def Form.ofArgument (argument : String) : Form :=
  match argument.toList with
  | ['-', '-'] => ending
  | '-' :: '-' :: cs =>
    let name := String.ofList (cs.takeWhile (· != '='))
    match cs.dropWhile (· != '=') with
    | _ :: value => long name (some (String.ofList value))
    | [] => long name none
  | '-' :: letter :: _ => short letter
  | _ => plain

def read : Given → List String → Except Rejection (Notice ⊕ Given)
  | given, [] => .ok (.inr given)
  | given, argument :: rest =>
    match Form.ofArgument argument with
    | .ending => if rest.isEmpty then .ok (.inr given) else .error (.unknown (rest.headD ""))
    | .plain => .error (.unknown argument)
    | .short 'h' => .ok (.inl .help)
    | .short 'V' => .ok (.inl .version)
    | .short _ => .error (.unknown argument)
    | .long name value? =>
      match Meaning.ofName? name, value? with
      | none, _ => .error (.unknown argument)
      | some (.notice notice), none => .ok (.inl notice)
      | some (.switch switch), none => do read (← given.addSwitch switch) rest
      | some _, some value =>
        match Parameter.all.find? (·.name == name) with
        | some p => do read (← given.addValue p value) rest
        | none => .error (.unneededValue name)
      | some (.parameter p), none =>
        match rest with
        | value :: rest =>
          if Form.ofArgument value = .plain then do read (← given.addValue p value) rest
          else .error (.noValue name)
        | [] => .error (.noValue name)

/-- Adds the value a variable gives to a parameter that no argument gives. -/
def Given.addVariable (environment? : String → Option String) (g : Given) (p : Parameter) :
    Except Rejection Given :=
  match p.environmentName?.bind environment? with
  | some value => if (g.value? p).isSome then .ok g else g.addValue p value
  | none => .ok g

def Given.addVariableSwitch (environment? : String → Option String) (g : Given) (s : Switch) :
    Except Rejection Given :=
  match s.environmentName?.bind environment? with
  | none => .ok g
  | some value =>
    if g.has s || value == "false" then .ok g
    else if value == "true" then g.addSwitch s
    else .error (.badValue s.name value)

/-- Reads arguments, and variables for what they leave open. -/
def readAll (environment? : String → Option String) (arguments : List String) :
    Except Rejection (Notice ⊕ Given) := do
  match ← read .nothing arguments with
  | .inl n => return .inl n
  | .inr given =>
    let given ← Parameter.all.foldlM (Given.addVariable environment?) given
    return .inr (← Switch.all.foldlM (Given.addVariableSwitch environment?) given)

end ObservedConfig.CommandLine

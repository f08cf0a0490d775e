import ObservedConfig.CommandLine
import Std.Time.Format

/-! The program's outer layer: it reads the variables, the files and the clock, and writes what the
request comes to. -/
namespace ObservedConfig.CommandLine

def readText? (path : String) : IO (Option String) := do
  try return some (← IO.FS.readFile path) catch _ => return none

def collect (value? : String → IO (Option String)) (names : List String) :
    IO (String → Option String) := do
  let found ← names.mapM fun name => return (name, ← value? name)
  return fun name => (found.find? fun entry => entry.1 == name).bind (·.2)

def clockTime : IO String := do
  let now ← Std.Time.Timestamp.now
  let date := Std.Time.DateTime.ofTimestampWithZone now Std.Time.TimeZone.UTC
  return date.format "uuuu-MM-dd'T'HH:mm:ss.SSSSSSSSS'Z'"

end ObservedConfig.CommandLine

open ObservedConfig.CommandLine in
def main (arguments : List String) : IO UInt32 := do
  match Request.ofArguments (← collect (IO.getEnv ·) environmentNames) arguments with
  | .error rejection =>
    IO.eprintln ("error: " ++ rejection.message)
    return 2
  | .ok request =>
    let outcome := request.run (← collect readText? request.paths) (← clockTime)
    IO.print outcome.output
    if let some failure := outcome.failure then IO.eprintln ("Error: " ++ failure)
    return outcome.code.toUInt32

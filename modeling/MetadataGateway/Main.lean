import MetadataGateway.Backend.Server
import MetadataGateway.Cache.Remote
import MetadataGateway.Config.CommandLine
import MetadataGateway.Config.Loading

/-!
# The program

The program reads its command line, its environment and its configuration file, and says with what
the gateway is run, or why it is not.
-/

namespace MetadataGateway.Program

/-- A line of help for a setting. -/
def helpLine (s : Setting) : String :=
  "  --" ++ s.flag ++ " <VALUE>  " ++ s.purpose ++ " [env: " ++ s.environmentVariable ++ "]"

/-- What is printed for a command line that is not carried out, and the exit code. -/
def refusal (e : CommandLine.Error) : List String × UInt32 :=
  match e with
  | .helpWanted => (e.message :: "" :: "Options:" :: Setting.all.map helpLine, 0)
  | .versionWanted => ([e.message], 0)
  | e => ([e.message], 2)

/-- What is printed of a configuration that the gateway is run with. -/
def report (c : Config) : List String :=
  ["log: " ++ logFilter c.observability.logLevel,
    "listener: " ++ c.listener.bindAddress,
    "database: " ++ c.database.summary,
    "cache: " ++ ((Cache.Remote.ofSettings c.cache).map Cache.Remote.summary).getD "disabled"]

/-- What is printed for overrides and the octets of the file that they name, and the exit code. -/
def outcome (o : Overrides) (octets : Option (List UInt8)) : List String × UInt32 :=
  match Config.assemble o octets with
  | .ok c => (report c, 0)
  | .error e => (["Error: " ++ e.message], 1)

/-- The octets of a file, if it can be read. -/
def octetsOf (path : Option String) : IO (Option (List UInt8)) := do
  match path with
  | none => return none
  | some path =>
    try
      let octets ← IO.FS.readBinFile path
      return some octets.toList
    catch _ => return none

/-- The values of the environment variables of all settings. -/
def environment : IO (List (String × String)) :=
  Setting.all.filterMapM fun s => do
    let value ← IO.getEnv s.environmentVariable
    return value.map fun v => (s.environmentVariable, v)

/-- Carry out a command line. -/
def run (arguments : List String) : IO (List String × UInt32) := do
  let known ← environment
  match CommandLine.read arguments fun name => known.lookup name with
  | .error e => return refusal e
  | .ok o => return outcome o (← octetsOf o.configFile)

end MetadataGateway.Program

/-- Print what comes of the command line. -/
def main (arguments : List String) : IO UInt32 := do
  let (lines, code) ← MetadataGateway.Program.run arguments
  lines.forM IO.println
  return code

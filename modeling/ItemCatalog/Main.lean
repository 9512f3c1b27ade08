import ItemCatalog.Settings.Basic
import ItemCatalog.Settings.CommandLine

/-!
# The command line of the server

Reads the settings of the server from the words of the command line and from the environment, and
describes them.
-/

namespace ItemCatalog.CommandLine

/-- The variables of the environment that stand in for options. -/
def environmentNames : List String := Parameter.all.filterMap Parameter.environmentName?

/-- What is said when there are no arguments to go on with. -/
def Interruption.message : Interruption → String
  | .unknownWord => "unexpected argument found"
  | .invalidValue => "a value is required or invalid"
  | .badNumber => "invalid value: not a number in range"
  | .needlessValue => "unexpected value for a flag"
  | .repetition => "an argument cannot be used multiple times"
  | .help =>
    "Usage: itemstore-server [OPTIONS]\n" ++
      String.join (Parameter.all.map fun p => "  --" ++ p.name ++ "\n")
  | .version => "itemstore-server"

/-- What the words of a command line and the environment amount to: a description of the settings,
or the reason why there are none. -/
def describe (environment : String → Option String) (words : List String) :
    Except String String :=
  match read environment words with
  | .error e => .error e.message
  | .ok arguments =>
    match Settings.ofArguments arguments with
    | .error e => .error e.message
    | .ok settings => .ok settings.summary

end ItemCatalog.CommandLine

open ItemCatalog in
/-- Describes the settings that the command line and the environment amount to. -/
def main (words : List String) : IO UInt32 := do
  let known ← CommandLine.environmentNames.filterMapM fun name => do
    return (← IO.getEnv name).map (name, ·)
  match CommandLine.describe (known.lookup ·) words with
  | .ok text =>
    IO.println text
    return 0
  | .error text =>
    IO.eprintln text
    return 1

import FeedOperator.Definition
import FeedOperator.Launch

/-!
# The command line

* `main`: starts the operator. This program carries no connection to a cluster, so a start that
  passes its options ends there.
* `printDefinitions`: prints the definitions of the resources.
-/

namespace FeedOperator

/-- What is shown to someone who asks for help. -/
def helpText : String :=
  "Reconciles news Sources and HotNews queries\n\nOptions:\n" ++
    String.join (OptionName.all.map fun o => "      " ++ o.usage ++ "\n") ++
    "  -h, --help\n"

/-- Looks up the variables of the options. -/
def readEnvironment : IO (List (String × String)) := do
  let found ← OptionName.all.mapM fun o => do
    return (← IO.getEnv o.envName).map fun value => (o.envName, value)
  return found.filterMap id

/-- Prints the definitions of the resources. -/
def printDefinitions : IO Unit := do
  (← IO.getStdout).putStr definitionsText

end FeedOperator

open FeedOperator in
/-- Starts the operator. -/
def main (arguments : List String) : IO UInt32 := do
  let found ← readEnvironment
  let outcome := launch arguments {
    env := fun name => found.lookup name
    clusterFault := some "no connection to a cluster" }
  match outcome with
  | .refused .help => (← IO.getStdout).putStr helpText
  | _ => (← IO.getStderr).putStr outcome.report
  return UInt32.ofNat outcome.exitCode

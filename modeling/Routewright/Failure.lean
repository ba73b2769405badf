/-
What ends a run early. A failure is told in a message of its own, and in a batch it is one
document's failure only. A breakdown is what no part of a run foresees, and it ends a batch as well.
-/
import Routewright.Condition.Query
import Routewright.Config.Error
import Routewright.Document.Yaml
import Routewright.Project.Tree
import Routewright.Script.Printer
import Routewright.Spec.Document

namespace Routewright

open Document

/-- A task that files can be unfit for. -/
inductive FileTask where
  | readSpec (file : FilePath)
  /-- Writing the module with a URL prefix. -/
  | writeModule (url : Text)
  | writeAggregator (file : FilePath)
  /-- Removing what stands in the output root. -/
  | removeEntry (entry : FilePath)

/-- What the failure of a task is told as. -/
def FileTask.complaint : FileTask → Text
  | readSpec file => "Failed to read spec file " ++ file.toText
  | writeModule url => "Cannot write module for " ++ url
  | writeAggregator file => "Cannot write " ++ file.toText
  | removeEntry entry => "Cannot remove " ++ entry.toText

inductive Failure where
  | document (e : Spec.DocumentError)
  | query (e : Condition.QueryMismatch)
  | file (task : FileTask) (e : FileError)
  | noAggregator (name : Text)
  | config (e : ConfigError)
  /-- Of some documents those with these names failed. -/
  | batch (failed : List Text) (total : Nat)

def Failure.message : Failure → Text
  | document e => e.message
  | query e => e.message
  | file task e => task.complaint ++ ": " ++ e.message
  | noAggregator name => "Aggregator file not found: " ++ name
  | config e => e.message
  | batch failed total =>
    Text.ofNat failed.length ++ " of " ++ Text.ofNat total ++ " spec(s) failed: " ++
      Text.join ", " failed

/-- The exit status of a program that ends with a failure. -/
def Failure.exitStatus : Nat := 1

inductive Breakdown where
  /-- Bytes to be read are not UTF-8. -/
  | notUtf8
  /-- A text to be written holds a surrogate. -/
  | surrogate
  /-- A text to be put into a manifest holds a surrogate. -/
  | manifestSurrogate
  /-- An integer has more digits than are read or written. -/
  | longInteger
  /-- A document is nested too deep. -/
  | deepNesting
  /-- A YAML document fails for a reason of its own, which is not that it is malformed. -/
  | yaml (r : Yaml.Refusal)
  | print (r : Script.Refusal)
  | file (e : FileError)

inductive Stop where
  | failure (f : Failure)
  | breakdown (b : Breakdown)

end Routewright

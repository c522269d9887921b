import DiscoveryGraph.Error
import DiscoveryGraph.Text.Blank

/-! Configuration of a monitoring service. -/
namespace DiscoveryGraph

/-- The room of the discovery queue and the name of its worker. -/
structure Config where
  queueCapacity : UInt64 := 1024
  workerName : String := "ddsgraph-discovery"
  deriving DecidableEq, Repr

/-- The first fault of a configuration. -/
def Config.fault? (config : Config) : Option ConfigFault :=
  if config.queueCapacity = 0 then some .noCapacity
  else if Text.isBlank config.workerName then some .blankWorkerName
  else none

def Config.validate (config : Config) : Except ValidationError Unit :=
  match config.fault? with
  | some fault => .error (.invalidConfig fault)
  | none => .ok ()

end DiscoveryGraph

import Concord.Pipeline

/-!
A machine: the pipeline and the disk that the nodes on it reach, and the time it shows.
-/

namespace Concord

/-- The pipeline, others that are kept in databases of their own, by name, and the disk. The time is
a text, as reports show it. -/
structure Host where
  pipeline : Pipeline := {}
  databases : Table Pipeline := .empty
  disk : Disk := {}
  time : String := ""

namespace Host

def onPipeline {α : Type} (step : StateM Pipeline α) : StateM Host α := fun host =>
  let (value, pipeline) := step host.pipeline
  (value, { host with pipeline })

def onDisk {α : Type} (step : StateM Disk α) : StateM Host α := fun host =>
  let (value, disk) := step host.disk
  (value, { host with disk })

/-- The pipeline that is kept under a name. That of the host has the empty name. -/
def database (host : Host) (name : String) : Pipeline :=
  if name = "" then { host.pipeline with fates := .empty }
  else (host.databases.get? name).getD {}

/-- Keeps a pipeline under a name. The fates of the host are those of its own nodes. -/
def keep (host : Host) (name : String) (pipeline : Pipeline) : Host :=
  if name = "" then { host with pipeline := { pipeline with fates := host.pipeline.fates } }
  else { host with databases := host.databases.insert name pipeline }

/-- A name under which nothing is kept. -/
def newName (host : Host) : String :=
  toString (host.databases.entries.length + 1)

end Host

end Concord

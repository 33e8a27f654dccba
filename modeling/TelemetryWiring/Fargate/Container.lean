import TelemetryWiring.ApiKey
import TelemetryWiring.Dict
import TelemetryWiring.Error

/-!
Containers of a task and what hangs on them. Additions that are already there change nothing.
-/
namespace TelemetryWiring

/-- What a container or a task reserves. -/
structure Sizing where
  cpu : Option UInt32 := none
  memoryMiB : Option UInt32 := none
  deriving DecidableEq, Repr

namespace Sizing

def merge (a b : Sizing) : Sizing where
  cpu := b.cpu.or a.cpu
  memoryMiB := b.memoryMiB.or a.memoryMiB

/-- The reservations that are made, CPU first. -/
def requests (s : Sizing) : List (Resource × UInt32) :=
  [(Resource.cpu, s.cpu), (Resource.memory, s.memoryMiB)].filterMap
    fun (resource, amount) => amount.map fun n => (resource, n)

/-- Refuses the first reservation of a container that is below the minimum. -/
def check (s : Sizing) (container : String) : Except WiringError Unit :=
  match s.requests.find? fun (resource, amount) => amount < resource.minimum with
  | some (resource, amount) => .error (.undersized container resource amount)
  | none => .ok ()

end Sizing

/-- How the health of a container is found out; durations are in seconds. -/
structure HealthCheck where
  command : List String := []
  interval : Option UInt32 := none
  retries : Option UInt32 := none
  startPeriod : Option UInt32 := none
  timeout : Option UInt32 := none
  deriving DecidableEq, Repr

inductive Protocol where
  | tcp
  | udp
  deriving DecidableEq, Repr

def Protocol.name : Protocol → String
  | .tcp => "tcp"
  | .udp => "udp"

structure PortMapping where
  containerPort : UInt16
  hostPort : UInt16
  protocol : Protocol
  deriving DecidableEq, Repr

structure MountPoint where
  containerPath : String
  sourceVolume : String
  readOnly : Bool
  deriving DecidableEq, Repr

/-- A mount that the container may write to. -/
def MountPoint.readWrite (sourceVolume containerPath : String) : MountPoint :=
  ⟨containerPath, sourceVolume, false⟩

/-- The state that another container must have reached. -/
inductive DependencyCondition where
  | start
  | complete
  | success
  | healthy
  deriving DecidableEq, Repr

def DependencyCondition.name : DependencyCondition → String
  | .start => "START"
  | .complete => "COMPLETE"
  | .success => "SUCCESS"
  | .healthy => "HEALTHY"

/-- A container of the same task that must come first. -/
structure ContainerDependency where
  containerName : String
  condition : DependencyCondition
  deriving DecidableEq, Repr

/-- Settings of a container that routes the logs of the others. -/
structure FirelensConfig where
  routerType : String
  enableEcsLogMetadata : Bool
  configFileType : Option String := none
  configFileValue : Option String := none
  deriving DecidableEq, Repr

/-- Where a container's log goes. -/
structure LogDriver where
  driver : String
  options : Dict String := .empty
  secretOptions : Dict SecretRef := .empty
  deriving DecidableEq, Repr

/-- A container as a caller asks for it. -/
structure ContainerOptions where
  /-- The id under which the container is added, unless this name is given. -/
  containerName : Option String := none
  image : String := ""
  sizing : Sizing := {}
  essential : Option Bool := none
  environment : Dict String := .empty
  secrets : Dict SecretRef := .empty
  healthCheck : Option HealthCheck := none
  portMappings : List PortMapping := []
  entryPoint : Option (List String) := none
  command : Option (List String) := none
  user : Option String := none
  dockerLabels : Dict String := .empty
  logging : Option LogDriver := none
  linuxCapabilities : Option (List String) := none
  deriving DecidableEq, Repr

/-- A container as it stands in a task. -/
structure Container where
  name : String
  image : String
  sizing : Sizing
  essential : Bool
  environment : Dict String
  secrets : Dict SecretRef
  healthCheck : Option HealthCheck
  portMappings : List PortMapping
  mountPoints : List MountPoint
  dockerLabels : Dict String
  logging : Option LogDriver
  entryPoint : Option (List String)
  command : Option (List String)
  user : Option String
  linuxCapabilities : List String
  firelensConfig : Option FirelensConfig
  dependsOn : List ContainerDependency
  deriving DecidableEq, Repr

namespace Container

/-- The container that a caller asks for, essential unless said otherwise. -/
def ofOptions (name : String) (o : ContainerOptions) : Container where
  name := name
  image := o.image
  sizing := o.sizing
  essential := o.essential.getD true
  environment := o.environment
  secrets := o.secrets
  healthCheck := o.healthCheck
  portMappings := o.portMappings
  mountPoints := []
  dockerLabels := o.dockerLabels
  logging := o.logging
  entryPoint := o.entryPoint
  command := o.command
  user := o.user
  linuxCapabilities := o.linuxCapabilities.getD []
  firelensConfig := none
  dependsOn := []

def setVariable (c : Container) (key value : String) : Container :=
  { c with environment := c.environment.insert key value }

/-- Sets each variable of a list in turn. -/
def setVariables (c : Container) (assignments : List (String × String)) : Container :=
  { c with environment := c.environment.insertMany assignments }

def setLabel (c : Container) (key value : String) : Container :=
  { c with dockerLabels := c.dockerLabels.insert key value }

/-- Sets each label of a list in turn. -/
def setLabels (c : Container) (labels : List (String × String)) : Container :=
  { c with dockerLabels := c.dockerLabels.insertMany labels }

/-- Mounts a volume unless the same mount is there already. -/
def mount (c : Container) (point : MountPoint) : Container :=
  if c.mountPoints.contains point then c
  else { c with mountPoints := c.mountPoints ++ [point] }

/-- Makes the container wait for another, unless it does so already. -/
def waitFor (c : Container) (name : String) (condition : DependencyCondition) : Container :=
  if c.dependsOn.contains ⟨name, condition⟩ then c
  else { c with dependsOn := c.dependsOn ++ [⟨name, condition⟩] }

/-- The first condition under which the container waits for another. -/
def conditionOn? (c : Container) (name : String) : Option DependencyCondition :=
  (c.dependsOn.find? (·.containerName == name)).map (·.condition)

end Container
end TelemetryWiring

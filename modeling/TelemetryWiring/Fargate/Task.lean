import TelemetryWiring.Fargate.Container

/-!
Task definitions while they are put together.
-/
namespace TelemetryWiring

inductive OperatingSystem where
  | linux
  | windowsServer2019Core
  | windowsServer2019Full
  | windowsServer2022Core
  | windowsServer2022Full
  deriving DecidableEq, Repr

namespace OperatingSystem

def all : List OperatingSystem :=
  [.linux, .windowsServer2019Core, .windowsServer2019Full, .windowsServer2022Core,
   .windowsServer2022Full]

def name : OperatingSystem → String
  | .linux => "LINUX"
  | .windowsServer2019Core => "WINDOWS_SERVER2019_CORE"
  | .windowsServer2019Full => "WINDOWS_SERVER2019_FULL"
  | .windowsServer2022Core => "WINDOWS_SERVER2022_CORE"
  | .windowsServer2022Full => "WINDOWS_SERVER2022_FULL"

end OperatingSystem

structure RuntimePlatform where
  operatingSystem : Option OperatingSystem := none
  cpuArchitecture : Option String := none
  deriving DecidableEq, Repr

/-- Settings of a task as a whole. -/
structure TaskSettings where
  family : Option String := none
  sizing : Sizing := {}
  runtimePlatform : Option RuntimePlatform := none
  deriving DecidableEq, Repr

/-- A task runs on Linux unless its platform says otherwise. -/
def TaskSettings.isLinux (s : TaskSettings) : Bool :=
  match s.runtimePlatform.bind (·.operatingSystem) with
  | some system => system == .linux
  | none => true

/-- Actions that a task's role may take on resources. -/
structure PolicyStatement where
  actions : List String
  resources : List String
  deriving DecidableEq, Repr

structure Task where
  id : String
  family : String
  sizing : Sizing
  runtimePlatform : Option RuntimePlatform
  containers : List Container
  volumes : List String
  rolePolicies : List PolicyStatement
  tags : Dict String
  deriving DecidableEq, Repr

namespace Task

/-- A task without containers; its family is its id unless another is given. -/
def ofSettings (id : String) (s : TaskSettings) : Task where
  id := id
  family := s.family.getD id
  sizing := s.sizing
  runtimePlatform := s.runtimePlatform
  containers := []
  volumes := []
  rolePolicies := []
  tags := .empty

/-- The container of a name. -/
def container? (t : Task) (name : String) : Option Container :=
  t.containers.find? (·.name == name)

def hasContainer (t : Task) (name : String) : Bool := (t.container? name).isSome

/-- Appends a container. -/
def addContainer (t : Task) (c : Container) : Task := { t with containers := t.containers ++ [c] }

def hasVolume (t : Task) (name : String) : Bool := t.volumes.contains name

/-- Declares a volume unless it is declared already. -/
def addVolume (t : Task) (name : String) : Task :=
  if t.hasVolume name then t else { t with volumes := t.volumes ++ [name] }

/-- Adds a statement to the role's policy unless it is there already. -/
def addPolicy (t : Task) (statement : PolicyStatement) : Task :=
  if t.rolePolicies.contains statement then t
  else { t with rolePolicies := t.rolePolicies ++ [statement] }

def addTag (t : Task) (key value : String) : Task := { t with tags := t.tags.insert key value }

end Task
end TelemetryWiring

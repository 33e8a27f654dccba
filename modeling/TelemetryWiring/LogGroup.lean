/-!
Log groups and the subscriptions that ship their events elsewhere.
-/
namespace TelemetryWiring

/-- A subscription that ships the events of a log group to a destination function. -/
structure SubscriptionFilter where
  name : String
  destinationArn : String
  /-- The empty pattern matches every event. -/
  filterPattern : String := ""
  /-- Whether permission to invoke the destination is created alongside. -/
  addPermissions : Bool := false
  deriving DecidableEq, Repr

structure LogGroup where
  name : String
  subscriptionFilters : List SubscriptionFilter := []
  deriving DecidableEq, Repr

namespace LogGroup

/-- Whether a filter of the given name is attached. -/
def hasFilter (group : LogGroup) (name : String) : Bool :=
  group.subscriptionFilters.any (·.name == name)

/-- Attaches a filter unless one of its name is there already. -/
def addFilter (group : LogGroup) (filter : SubscriptionFilter) : LogGroup :=
  if group.hasFilter filter.name then group
  else { group with subscriptionFilters := group.subscriptionFilters ++ [filter] }

end LogGroup
end TelemetryWiring

import TelemetryWiring.Forwarder

/-!
Log groups that are subscribed to a forwarder. A subscription only appends to the filters of its
group, and once it is there it is found again by its name.
-/
namespace TelemetryWiring.LogGroup

theorem hasFilter_subscribe (group : LogGroup) (source forwarder : String) (permissions : Bool) :
    (group.subscribe source forwarder permissions).hasFilter (filterName source forwarder) =
      true := by
  unfold subscribe addFilter
  split
  · assumption
  · simp [hasFilter]

theorem subscribe_of_hasFilter {group : LogGroup} {source forwarder : String}
    (h : group.hasFilter (filterName source forwarder) = true) (permissions : Bool) :
    group.subscribe source forwarder permissions = group := by
  unfold subscribe addFilter
  rw [if_pos h]

/-- A subscription that is not there yet adds its filter at the end. -/
theorem filters_subscribe_of_new {group : LogGroup} {source forwarder : String}
    (h : group.hasFilter (filterName source forwarder) = false) (permissions : Bool) :
    (group.subscribe source forwarder permissions).subscriptionFilters =
      group.subscriptionFilters ++
        [{ name := filterName source forwarder
           destinationArn := forwarder
           addPermissions := permissions }] := by
  unfold subscribe addFilter
  dsimp only
  rw [h]
  rfl

theorem subscribe_name (group : LogGroup) (source forwarder : String) (permissions : Bool) :
    (group.subscribe source forwarder permissions).name = group.name := by
  unfold subscribe addFilter
  split <;> rfl

theorem subscriptionFilters_prefix_subscribe (group : LogGroup) (source forwarder : String)
    (permissions : Bool) :
    group.subscriptionFilters <+: (group.subscribe source forwarder permissions).subscriptionFilters
    := by
  unfold subscribe addFilter
  split
  · exact List.prefix_rfl
  · exact List.prefix_append _ _

end TelemetryWiring.LogGroup

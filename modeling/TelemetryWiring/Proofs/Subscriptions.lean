import Mathlib.Data.List.Forall2
import TelemetryWiring.Lambda.Instrumenter
import TelemetryWiring.Proofs.AddOnce
import TelemetryWiring.Proofs.Forwarder

/-!
Calls that subscribe one log group on behalf of many sources. The group tells filters apart by their
names, which are digests. Where the digests tell the pairs of source and forwarder apart, the group
has one filter for each pair, and a call that comes again changes nothing.
-/
namespace TelemetryWiring

/-- A call that asks for the events of a group to be shipped to a forwarder. -/
structure Subscription where
  source : String
  forwarder : String
  permissions : Bool := false
  deriving DecidableEq, Repr

namespace Subscription

/-- What makes two calls ask for the same. -/
def pair (call : Subscription) : String × String := (call.source, call.forwarder)

/-- The name of the filter that is asked for. -/
def name (call : Subscription) : String := filterName call.source call.forwarder

/-- Filters of different pairs have different names. -/
def NamedApart (calls : List Subscription) : Prop :=
  ∀ a ∈ calls, ∀ b ∈ calls, a.name = b.name → a.pair = b.pair

instance (calls : List Subscription) : Decidable (NamedApart calls) :=
  inferInstanceAs (Decidable (∀ a ∈ calls, ∀ b ∈ calls, a.name = b.name → a.pair = b.pair))

theorem NamedApart.of_append {calls more : List Subscription} (h : NamedApart (calls ++ more)) :
    NamedApart calls :=
  fun a ha b hb => h a (List.mem_append_left _ ha) b (List.mem_append_left _ hb)

/-- A filter that is there for a pair, as the first call for the pair asked for it. -/
structure StandsFor (calls : List Subscription) (pair : String × String)
    (filter : SubscriptionFilter) : Prop where
  name : filter.name = filterName pair.1 pair.2
  destination : filter.destinationArn = pair.2
  pattern : filter.filterPattern = ""
  permissions : ∃ first, calls.find? (·.pair == pair) = some first ∧
    filter.addPermissions = first.permissions

variable {calls : List Subscription} {call : Subscription} {pair : String × String}
  {filter : SubscriptionFilter}

/-- Later calls are not the first ones. -/
theorem StandsFor.append (h : StandsFor calls pair filter) (more : List Subscription) :
    StandsFor (calls ++ more) pair filter := by
  obtain ⟨first, hfirst, hflag⟩ := h.permissions
  refine { h with permissions := ⟨first, ?_, hflag⟩ }
  rw [List.find?_append, hfirst]
  rfl

theorem standsFor_of_first (h : call.pair ∉ calls.map (·.pair)) :
    StandsFor (calls ++ [call]) call.pair
      { name := call.name
        destinationArn := call.forwarder
        addPermissions := call.permissions } := by
  have hnone : calls.find? (·.pair == call.pair) = none := by
    rw [List.find?_eq_none]
    intro other hother hpair
    exact h (List.mem_map.mpr ⟨other, hother, beq_iff_eq.mp hpair⟩)
  constructor
  case name => rfl
  case destination => rfl
  case pattern => rfl
  case permissions =>
    refine ⟨call, ?_, rfl⟩
    rw [List.find?_append, hnone]
    simp

end Subscription

namespace LogGroup

open Subscription

/-- The group after calls one after the other. -/
def subscribeEach (group : LogGroup) (calls : List Subscription) : LogGroup :=
  calls.foldl (fun group call => group.subscribe call.source call.forwarder call.permissions) group

/-- The filters of a group are one for each pair that was called for, in the order of the first
calls. -/
def Represents (group : LogGroup) (calls : List Subscription) : Prop :=
  List.Forall₂ (StandsFor calls) (calls.map (·.pair)).eraseDups group.subscriptionFilters

variable {group : LogGroup} {calls : List Subscription} {call : Subscription}

/-- The names of the filters are those of the pairs, position by position. -/
theorem Represents.names (h : group.Represents calls) :
    group.subscriptionFilters.map (·.name) =
      (calls.map (·.pair)).eraseDups.map fun pair => filterName pair.1 pair.2 := by
  have hnames : List.Forall₂ (· = ·)
      ((calls.map (·.pair)).eraseDups.map fun pair => filterName pair.1 pair.2)
      (group.subscriptionFilters.map (·.name)) := by
    rw [List.forall₂_map_left_iff, List.forall₂_map_right_iff]
    exact h.imp fun _ _ hstands => hstands.name.symm
  rw [List.forall₂_eq_eq_eq] at hnames
  exact hnames.symm

/-- A call finds a filter of its name exactly if an earlier call was for the same pair. -/
theorem Represents.hasFilter_iff (h : group.Represents calls)
    (hnames : NamedApart (calls ++ [call])) :
    group.hasFilter call.name = true ↔ call.pair ∈ calls.map (·.pair) := by
  have hfilter : group.hasFilter call.name = true ↔
      call.name ∈ group.subscriptionFilters.map (·.name) := by
    simp [hasFilter]
  rw [hfilter, h.names]
  constructor
  · intro hname
    obtain ⟨pair, hpair, hname⟩ := List.mem_map.mp hname
    rw [List.mem_eraseDups] at hpair
    obtain ⟨other, hother, rfl⟩ := List.mem_map.mp hpair
    have hsame : other.pair = call.pair := hnames other (by simp [hother]) call (by simp) hname
    exact hsame ▸ hpair
  · intro hpair
    exact List.mem_map.mpr ⟨call.pair, List.mem_eraseDups.mpr hpair, rfl⟩

/-- One more call adds a filter if it is the first for its pair, and else nothing. -/
theorem Represents.subscribe (h : group.Represents calls)
    (hnames : NamedApart (calls ++ [call])) :
    (group.subscribe call.source call.forwarder call.permissions).Represents (calls ++ [call]) := by
  have hlater : List.Forall₂ (StandsFor (calls ++ [call])) (calls.map (·.pair)).eraseDups
      group.subscriptionFilters := h.imp fun _ _ hstands => hstands.append [call]
  unfold Represents
  rw [List.map_append, List.map_singleton, eraseDups_concat]
  by_cases hpair : call.pair ∈ calls.map (·.pair)
  · have hthere : group.hasFilter call.name = true := (h.hasFilter_iff hnames).mpr hpair
    rw [subscribe_of_hasFilter hthere, addOnce_of_mem (List.mem_eraseDups.mpr hpair)]
    exact hlater
  · have hnew : group.hasFilter call.name = false :=
      Bool.eq_false_iff.mpr (mt (h.hasFilter_iff hnames).mp hpair)
    have hfresh : call.pair ∉ (calls.map (·.pair)).eraseDups := mt List.mem_eraseDups.mp hpair
    rw [filters_subscribe_of_new hnew, addOnce_of_not_mem hfresh]
    exact List.rel_append hlater (.cons (standsFor_of_first hpair) .nil)

/-- A group without filters has one for each pair in the end. -/
theorem represents_subscribeEach (hfresh : group.subscriptionFilters = [])
    (hnames : NamedApart calls) : (group.subscribeEach calls).Represents calls := by
  induction calls using List.reverseRecOn with
  | nil =>
    change List.Forall₂ _ [] group.subscriptionFilters
    rw [hfresh]
    exact .nil
  | append_singleton calls call ih =>
    unfold subscribeEach
    rw [List.foldl_concat]
    exact (ih hnames.of_append).subscribe hnames

theorem name_subscribeEach (group : LogGroup) (calls : List Subscription) :
    (group.subscribeEach calls).name = group.name := by
  induction calls generalizing group with
  | nil => rfl
  | cons call calls ih => exact (ih _).trans (group.subscribe_name ..)

end LogGroup

theorem subscribeAll_subscribeAll (groups : List LogGroup) (forwarder : String)
    (permissions again : Bool) :
    subscribeAll (subscribeAll groups forwarder permissions) forwarder again =
      subscribeAll groups forwarder permissions := by
  unfold subscribeAll
  rw [List.map_map]
  refine List.map_congr_left fun group _ => ?_
  rw [Function.comp_apply, LogGroup.subscribe_name]
  exact LogGroup.subscribe_of_hasFilter (group.hasFilter_subscribe ..) again

namespace Lambda.Instrumenter

/-- The log groups that a caller is left with. -/
def forwarded (i : Instrumenter) (groups : List LogGroup) : List LogGroup :=
  (i.forwardLogGroups groups).state

variable {i : Instrumenter} {groups : List LogGroup}

theorem forwardLogGroups_of_forwarder {forwarder : String}
    (h : i.config.forwarderArn = some forwarder) (groups : List LogGroup) :
    i.forwardLogGroups groups =
      .ok () (subscribeAll groups forwarder i.config.createForwarderPermissions) := by
  unfold forwardLogGroups
  rw [h]
  cases groups <;> rfl

theorem forwardLogGroups_of_no_forwarder (h : i.config.forwarderArn = none)
    (groups : List LogGroup) :
    i.forwardLogGroups groups =
      if groups = [] then .ok () groups
      else .error (.forwarder (.logGroupsWithoutForwarder groups.length)) groups := by
  unfold forwardLogGroups
  rw [h]
  cases groups <;> rfl

/-- What a call to forward log groups does: all of them, or none where there is no forwarder. -/
structure ForwardsOnce (i : Instrumenter) (groups : List LogGroup) : Prop where
  refused_iff : (∃ e after, i.forwardLogGroups groups = .error e after) ↔
    groups ≠ [] ∧ i.config.forwarderArn = none
  unchanged : ∀ e after, i.forwardLogGroups groups = .error e after → after = groups
  subscribed : ∀ forwarder, i.config.forwarderArn = some forwarder →
    i.forwardLogGroups groups =
      .ok () (subscribeAll groups forwarder i.config.createForwarderPermissions)
  /-- The call made again, on what the first one left, changes nothing. -/
  again : i.forwarded (i.forwarded groups) = i.forwarded groups

theorem forwarded_of_forwarder {forwarder : String} (h : i.config.forwarderArn = some forwarder)
    (groups : List LogGroup) :
    i.forwarded groups =
      subscribeAll groups forwarder i.config.createForwarderPermissions := by
  rw [forwarded, forwardLogGroups_of_forwarder h]
  rfl

theorem forwarded_of_no_forwarder (h : i.config.forwarderArn = none) (groups : List LogGroup) :
    i.forwarded groups = groups := by
  rw [forwarded, forwardLogGroups_of_no_forwarder h]
  split <;> rfl

theorem forwardsOnce (i : Instrumenter) (groups : List LogGroup) : i.ForwardsOnce groups := by
  cases hforwarder : i.config.forwarderArn with
  | none =>
    have hunchanged := forwarded_of_no_forwarder hforwarder
    have hcall := forwardLogGroups_of_no_forwarder hforwarder groups
    constructor
    case refused_iff =>
      rw [hcall]
      by_cases hempty : groups = [] <;> simp [hempty, hforwarder]
    case unchanged =>
      intro e after hrefused
      rw [hcall] at hrefused
      split at hrefused <;> cases hrefused
      rfl
    case subscribed =>
      intro forwarder h
      rw [hforwarder] at h
      cases h
    case again => rw [hunchanged, hunchanged]
  | some forwarder =>
    have hsubscribed := forwarded_of_forwarder hforwarder
    have hcall := forwardLogGroups_of_forwarder hforwarder groups
    constructor
    case refused_iff => simp [hcall, hforwarder]
    case unchanged => simp [hcall]
    case subscribed =>
      intro other h
      cases hforwarder.symm.trans h
      exact hcall
    case again => rw [hsubscribed, hsubscribed, subscribeAll_subscribeAll]

end Lambda.Instrumenter

/-- A new log group has one filter for each pair of a source and a forwarder that it was subscribed
for, and log groups that are subscribed for themselves are left alone the second time. -/
theorem one_filter_per_subscription :
    (∀ (group : LogGroup) (calls : List Subscription), group.subscriptionFilters = [] →
      Subscription.NamedApart calls →
        (group.subscribeEach calls).Represents calls ∧
          (group.subscribeEach calls).name = group.name) ∧
    (∀ (groups : List LogGroup) (forwarder : String) (permissions : Bool),
      (∀ group ∈ groups, group.subscriptionFilters = []) →
        List.Forall₂ (fun group after => after.name = group.name ∧
            LogGroup.Represents after [⟨group.name, forwarder, permissions⟩])
          groups (subscribeAll groups forwarder permissions) ∧
        subscribeAll (subscribeAll groups forwarder permissions) forwarder permissions =
          subscribeAll groups forwarder permissions) ∧
    ∀ (i : Lambda.Instrumenter) (groups : List LogGroup), i.ForwardsOnce groups := by
  refine ⟨?_, ?_, fun i groups => i.forwardsOnce groups⟩
  · intro group calls hfresh hnames
    exact ⟨LogGroup.represents_subscribeEach hfresh hnames, group.name_subscribeEach calls⟩
  · intro groups forwarder permissions hfresh
    refine ⟨?_, subscribeAll_subscribeAll ..⟩
    unfold subscribeAll
    rw [List.forall₂_map_right_iff, List.forall₂_same]
    intro group hgroup
    have halone : Subscription.NamedApart [⟨group.name, forwarder, permissions⟩] := by
      simp [Subscription.NamedApart]
    exact ⟨group.subscribe_name .., LogGroup.represents_subscribeEach (hfresh group hgroup) halone⟩

/-- Three pairs in four calls: two sources that share a forwarder, and one of them with another. -/
theorem one_filter_per_subscription_of_three_pairs :
    let near := "arn:aws:lambda:us-east-1:123456789012:function:forwarder"
    let far := "arn:aws:lambda:eu-west-1:123456789012:function:forwarder"
    let group : LogGroup := { name := "/aws/lambda/orders" }
    let calls : List Subscription :=
      [⟨"orders", near, true⟩, ⟨"bills", near, false⟩, ⟨"orders", near, false⟩,
        ⟨"orders", far, false⟩]
    Subscription.NamedApart calls ∧
      (calls.map (·.pair)).eraseDups = [("orders", near), ("bills", near), ("orders", far)] ∧
      (group.subscribeEach calls).Represents calls ∧
      subscribeAll (subscribeAll [group] near true) near true = subscribeAll [group] near true := by
  intro near far group calls
  have hnames : Subscription.NamedApart calls := by decide +kernel
  refine ⟨hnames, by decide, (one_filter_per_subscription.1 group calls rfl hnames).1, ?_⟩
  exact (one_filter_per_subscription.2.1 [group] near true (by simp [group])).2

end TelemetryWiring

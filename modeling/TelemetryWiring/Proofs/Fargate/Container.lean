import TelemetryWiring.Fargate.Wiring
import TelemetryWiring.Proofs.AddOnce
import TelemetryWiring.Proofs.Writes

/-!
What the container of an application is made of, and when the reservations of a container pass
their check.
-/
namespace TelemetryWiring

/-- An identity writes nothing under other keys than its own. -/
theorem ServiceIdentity.lastValue_under_eq_none (identity : ServiceIdentity)
    {env service version key : String} (h : key ∉ [env, service, version]) :
    lastValue key (identity.under env service version) = none :=
  lastValue_eq_none_iff.mpr fun hmem => h ((identity.keys_under ..).subset hmem)

/-- Under keys that differ, every value of an identity stands under its own. -/
theorem ServiceIdentity.lastValue_under (identity : ServiceIdentity)
    (env service version : String) (h : [env, service, version].Nodup) :
    lastValue env (identity.under env service version) = identity.env ∧
      lastValue service (identity.under env service version) = identity.service ∧
      lastValue version (identity.under env service version) = identity.version := by
  simp only [List.nodup_cons, List.mem_cons, List.not_mem_nil, or_false, not_or] at h
  obtain ⟨⟨henvService, henvVersion⟩, hserviceVersion, -⟩ := h
  simp [under, lastValue_filterMap_cons, lastValue, henvService, henvVersion, hserviceVersion,
    Ne.symm henvService, Ne.symm henvVersion, Ne.symm hserviceVersion]

namespace Sizing

/-- Reservations that are made reach the minimum: one CPU unit, six MiB of memory. -/
def IsSufficient (s : Sizing) : Prop :=
  (∀ n, s.cpu = some n → 1 ≤ n) ∧ (∀ n, s.memoryMiB = some n → 6 ≤ n)

theorem isSufficient_iff_requests {s : Sizing} :
    s.IsSufficient ↔ ∀ request ∈ s.requests, ¬request.2 < request.1.minimum := by
  obtain ⟨cpu, memory⟩ := s
  unfold IsSufficient requests
  rcases cpu with _ | n <;> rcases memory with _ | m <;> simp [Resource.minimum]

/-- Reservations that do not suffice are refused, and one that is too small is named. -/
theorem check_cases (s : Sizing) (name : String) :
    (s.IsSufficient ∧ s.check name = .ok ()) ∨
      ¬s.IsSufficient ∧ ∃ resource n, (resource, n) ∈ s.requests ∧ n < resource.minimum ∧
        s.check name = .error (.undersized name resource n) := by
  rw [isSufficient_iff_requests]
  unfold check
  split
  · rename_i resource amount hshort
    right
    have hmem := List.mem_of_find?_eq_some hshort
    have hlt : amount < resource.minimum := by simpa using List.find?_some hshort
    exact ⟨fun h => h _ hmem hlt, resource, amount, hmem, hlt, rfl⟩
  · rename_i hshort
    left
    exact ⟨by simpa [List.find?_eq_none] using hshort, rfl⟩

theorem check_eq_ok_iff {s : Sizing} {name : String} : s.check name = .ok () ↔ s.IsSufficient := by
  rcases s.check_cases name with ⟨hsufficient, hcheck⟩ | ⟨hshort, _, _, -, -, hcheck⟩
  · exact iff_of_true hcheck hsufficient
  · exact iff_of_false (by rw [hcheck]; nofun) hshort

end Sizing

namespace Container

theorem mount_eq (c : Container) (point : MountPoint) :
    c.mount point = { c with mountPoints := addOnce c.mountPoints point } := by
  unfold mount addOnce
  split <;> rfl

theorem foldl_mount (points : List MountPoint) (c : Container) :
    points.foldl (fun c point => c.mount point) c =
      { c with mountPoints := points.foldl addOnce c.mountPoints } := by
  induction points generalizing c with
  | nil => rfl
  | cons point points ih => rw [List.foldl_cons, ih, mount_eq, List.foldl_cons]

theorem waitFor_eq (c : Container) (name : String) (condition : DependencyCondition) :
    c.waitFor name condition =
      { c with dependsOn := addOnce c.dependsOn ⟨name, condition⟩ } := by
  unfold waitFor addOnce
  split <;> rfl

theorem foldl_waitFor (names : List String) (condition : DependencyCondition) (c : Container) :
    names.foldl (fun c name => c.waitFor name condition) c =
      { c with
        dependsOn := (names.map (ContainerDependency.mk · condition)).foldl addOnce c.dependsOn } := by
  induction names generalizing c with
  | nil => rfl
  | cons name names ih => rw [List.foldl_cons, ih, waitFor_eq, List.map_cons, List.foldl_cons]

end Container

namespace Fargate.WiredTask

theorem nodup_awaited (w : WiredTask) : w.awaited.Nodup := by
  dsimp only [awaited]
  split <;> split <;> split <;> decide

theorem nodup_applicationMounts (w : WiredTask) : w.applicationMounts.Nodup := by
  unfold applicationMounts
  split <;> split <;> decide

theorem mem_awaited_iff {w : WiredTask} {name : String} :
    name ∈ w.awaited ↔
      (name = agentName ∧ w.config.agentDependency = true ∧
        w.config.agentHealthCheck.isSome = true) ∨
      (name = logRouterName ∧ w.config.logCollection.usesRouter = true ∧
        w.config.logCollection.router.dependencyEnabled = true) ∨
      (name = workloadSecurityName ∧ w.config.workloadSecurity.enabled = true) := by
  simp [awaited, List.mem_ite_nil_right, and_comm]

theorem mem_applicationMounts_iff {w : WiredTask} {m : MountPoint} :
    m ∈ w.applicationMounts ↔
      (m = socketMount ∧ w.config.mountsSockets w.linux = true) ∨
      (m = workloadSecurityMount ∧ w.config.workloadSecurity.enabled = true) := by
  simp [applicationMounts, List.mem_ite_nil_right, and_comm]

/-- The container of an application is what its caller asks for, with the dependencies, mounts,
variables and labels of the wiring. -/
theorem applicationContainer_eq (w : WiredTask) (name : String) (o : ContainerOptions) :
    w.applicationContainer name o =
      { Container.ofOptions name (w.prepareOptions o) with
        dependsOn := w.awaited.map (ContainerDependency.mk · .healthy)
        mountPoints := w.applicationMounts
        environment := (w.prepareOptions o).environment.insertMany w.applicationVariables
        dockerLabels := (w.prepareOptions o).dockerLabels.insertMany w.applicationLabels } := by
  have hdeps : (w.awaited.map (ContainerDependency.mk · .healthy)).Nodup :=
    w.nodup_awaited.map fun a b h => (ContainerDependency.mk.inj h).1
  have hdepsNil := foldl_addOnce_of_disjoint (l := []) hdeps (by simp)
  have hmountsNil := foldl_addOnce_of_disjoint (l := []) w.nodup_applicationMounts (by simp)
  simp only [applicationContainer, Container.foldl_waitFor, Container.foldl_mount,
    Container.ofOptions, hdepsNil, hmountsNil, List.nil_append]
  rfl

/-- What becomes of a request before its container is made. -/
theorem prepareOptions_eq (w : WiredTask) (o : ContainerOptions) :
    w.prepareOptions o =
      { o with
        linuxCapabilities :=
          if w.config.workloadSecurity.enabled then
            some (addOnce (o.linuxCapabilities.getD []) tracingCapability)
          else o.linuxCapabilities
        entryPoint :=
          if w.config.workloadSecurity.enabled then o.entryPoint.map (tracedCommand ++ ·)
          else o.entryPoint
        logging :=
          if w.config.logCollection.usesRouter then some w.config.logDriver else o.logging } := by
  unfold prepareOptions
  split <;> split <;> rfl

theorem prepareOptions_sizing (w : WiredTask) (o : ContainerOptions) :
    (w.prepareOptions o).sizing = o.sizing := by rw [prepareOptions_eq]

theorem prepareOptions_logging (w : WiredTask) (o : ContainerOptions) :
    (w.prepareOptions o).logging =
      if w.config.logCollection.usesRouter then some w.config.logDriver else o.logging := by
  rw [prepareOptions_eq]

end Fargate.WiredTask
end TelemetryWiring

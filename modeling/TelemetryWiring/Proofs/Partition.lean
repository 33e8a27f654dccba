import TelemetryWiring.Proofs.Lambda.Layer
import TelemetryWiring.StepFunctions.StateMachine

/-!
The partitions that ARNs name. The ARN of a layer names the partition of its region, while those
derived for functions and state machines name the usual one in every region, so that they agree
exactly outside of GovCloud.
-/
namespace TelemetryWiring

/-- The partition that an ARN names, its second field. -/
def partition? (arn : String) : Option String :=
  (arn.toList.splitOn ':')[1]?.map String.ofList

/-- Whether each of some ARNs names a partition, and all of them the same. -/
def NameOnePartition (arns : List String) : Prop :=
  ∃ partition, ∀ arn ∈ arns, partition? arn = some partition

/-- The regions that have a partition of their own. -/
def govCloud : List String := ["us-gov-east-1", "us-gov-west-1"]

/-- The partition that a region belongs to. -/
def regionPartition (region : String) : String :=
  if region ∈ govCloud then "aws-us-gov" else "aws"

theorem regionPartition_eq_aws_iff {region : String} :
    regionPartition region = "aws" ↔ region ∉ govCloud := by
  unfold regionPartition
  split <;> simp_all

theorem colon_not_mem_regionPartition (region : String) :
    ':' ∉ (regionPartition region).toList := by
  unfold regionPartition
  split <;> decide

/-- What stands behind the first word of an ARN is its partition, whatever comes after it. -/
theorem partition?_of_prefix {arn partition : String} (hfree : ':' ∉ partition.toList)
    (hstart : ("arn:" ++ partition ++ ":").toList <+: arn.toList) :
    partition? arn = some partition := by
  obtain ⟨rest, hrest⟩ := hstart
  have hchars : arn.toList = "arn".toList ++ ':' :: (partition.toList ++ ':' :: rest) := by
    rw [← hrest]
    simp
  have hfields : arn.toList.splitOn ':' = "arn".toList :: partition.toList :: rest.splitOn ':' := by
    rw [hchars, List.splitOn_append_cons_self_of_not_mem (by decide),
      List.splitOn_append_cons_self_of_not_mem hfree]
  rw [partition?, hfields]
  simp

theorem partition?_layerArn (region layerName : String) (version : UInt32)
    (account : Option String) :
    partition? (layerArn region layerName version account) = some (regionPartition region) := by
  apply partition?_of_prefix (colon_not_mem_regionPartition region)
  have hgov : isGovRegion region = true ↔ region ∈ govCloud := List.contains_iff_mem
  unfold layerArn regionPartition
  simp only [hgov]
  split <;> simp

theorem partition?_of_libraryLayerArn {region runtime arn : String} {version : UInt32} {arm : Bool}
    {account : Option String} (h : libraryLayerArn? region version runtime arm account = some arn) :
    partition? arn = some (regionPartition region) := by
  obtain ⟨name, -, rfl⟩ := Option.map_eq_some_iff.mp h
  exact partition?_layerArn ..

theorem partition?_extensionLayerArn (region : String) (version : UInt32) (arm : Bool)
    (account : Option String) :
    partition? (extensionLayerArn region version arm account) = some (regionPartition region) :=
  partition?_layerArn ..

theorem LambdaFunction.partition?_ofAccount (name account region runtime handler : String) :
    partition? (ofAccount name account region runtime handler).arn = some "aws" := by
  apply partition?_of_prefix (by decide)
  simp [ofAccount]

theorem StateMachine.partition?_ofAccount (name account region : String) :
    partition? (ofAccount name account region).arn = some "aws" := by
  apply partition?_of_prefix (by decide)
  simp [ofAccount]

/-- ARNs of two kinds, of which each names one partition, do so together exactly if the two
partitions are the same. -/
theorem nameOnePartition_append_iff {as bs : List String} {p q : String} (has : as ≠ [])
    (hbs : bs ≠ []) (hp : ∀ arn ∈ as, partition? arn = some p)
    (hq : ∀ arn ∈ bs, partition? arn = some q) : NameOnePartition (as ++ bs) ↔ p = q := by
  constructor
  · rintro ⟨shared, hshared⟩
    obtain ⟨a, ha⟩ := List.exists_mem_of_ne_nil as has
    obtain ⟨b, hb⟩ := List.exists_mem_of_ne_nil bs hbs
    have hpshared : some p = some shared := (hp a ha).symm.trans (hshared a (by simp [ha]))
    have hqshared : some q = some shared := (hq b hb).symm.trans (hshared b (by simp [hb]))
    exact Option.some.inj (hpshared.trans hqshared.symm)
  · rintro rfl
    exact ⟨p, List.forall_mem_append.mpr ⟨hp, hq⟩⟩

/-- A function and a state machine of an account, and the layers of the function's runtime: the
first two name the usual partition and the layers that of the region, so that all of them name one
exactly outside of GovCloud. -/
theorem nameOnePartition_of_region_iff {runtime : String}
    (hruntime : RuntimeFamily.ofRuntime runtime ∉ [.custom, .unsupported])
    (name machineName account region handler : String) (architecture : Architecture)
    (version extensionVersion : UInt32) (layerAccount : Option String) :
    let f := { LambdaFunction.ofAccount name account region runtime handler with architecture }
    let m := StateMachine.ofAccount machineName account region
    let extension := extensionLayerArn f.region extensionVersion f.isArm layerAccount
    ∃ library, libraryLayerArn? f.region version f.runtime f.isArm layerAccount = some library ∧
      (∀ arn ∈ [f.arn, m.arn], partition? arn = some "aws") ∧
      (∀ arn ∈ [library, extension], partition? arn = some (regionPartition region)) ∧
      (NameOnePartition [f.arn, m.arn, library, extension] ↔ region ∉ govCloud) := by
  intro f m extension
  obtain ⟨pin, hpin⟩ := LayerPins.exists_library? {} hruntime
  obtain ⟨library, hlibrary⟩ := exists_libraryLayerArn hpin region f.isArm layerAccount version
  have hderived : ∀ arn ∈ [f.arn, m.arn], partition? arn = some "aws" :=
    List.forall_mem_cons.mpr
      ⟨LambdaFunction.partition?_ofAccount name account region runtime handler,
        List.forall_mem_singleton.mpr (StateMachine.partition?_ofAccount ..)⟩
  have hlayers : ∀ arn ∈ [library, extension], partition? arn = some (regionPartition region) :=
    List.forall_mem_cons.mpr ⟨partition?_of_libraryLayerArn hlibrary,
      List.forall_mem_singleton.mpr (partition?_extensionLayerArn ..)⟩
  refine ⟨library, hlibrary, hderived, hlayers, ?_⟩
  rw [← regionPartition_eq_aws_iff, eq_comm]
  exact nameOnePartition_append_iff (by simp) (by simp) hderived hlayers

/-- A region that is not in GovCloud though it is called alike, and a function with a colon in its
name. -/
theorem nameOnePartition_of_region_beside_govCloud :
    RuntimeFamily.ofRuntime "ruby3.3" ∉ [.custom, .unsupported] ∧
      ∃ library, libraryLayerArn? "us-gov-central-1" 20 "ruby3.3" true (some "1") = some library ∧
        NameOnePartition
          ["arn:aws:lambda:us-gov-central-1:2:function:a:b",
            "arn:aws:states:us-gov-central-1:2:stateMachine:orders", library,
            "arn:aws:lambda:us-gov-central-1:1:layer:Datadog-Extension-ARM:65"] := by
  refine ⟨by decide, ?_⟩
  obtain ⟨library, hlibrary, -, -, hagree⟩ :=
    nameOnePartition_of_region_iff (by decide : RuntimeFamily.ofRuntime "ruby3.3" ∉ _) "a:b"
      "orders" "2" "us-gov-central-1" "app.run" .arm 20 65 (some "1")
  exact ⟨library, hlibrary, hagree.mpr (by decide)⟩

/-- In GovCloud a function does not name the partition of its own layers. -/
theorem function_in_govCloud_names_other_partition :
    let f := LambdaFunction.ofAccount "fn" "123456789012" "us-gov-west-1" "python3.12" "app.run"
    let m := StateMachine.ofAccount "orders" "123456789012" "us-gov-west-1"
    let extension := extensionLayerArn f.region 65 f.isArm none
    ∃ library, libraryLayerArn? f.region 100 f.runtime f.isArm none = some library ∧
      ¬NameOnePartition [f.arn, m.arn, library, extension] := by
  intro f m extension
  refine ⟨_, rfl, ?_⟩
  rintro ⟨partition, hshared⟩
  have hf : partition? f.arn = some partition := hshared _ (by simp)
  have hextension : partition? extension = some partition := hshared _ (by simp)
  exact absurd (hf.trans hextension.symm) (by decide)

end TelemetryWiring

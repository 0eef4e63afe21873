import Mathlib.Data.Finmap
import Mathlib.Data.Rat.Floor

/-!
# Objects of the cluster package

The Kubernetes objects, `spec` types and `resource.Quantity` values that
`pkg/cluster/cluster.go` reads or writes, with the fields that file touches. Pointers the
API server always fills are plain values; those that may be nil are `Option`s, and the
model panics where the code dereferences one that is `none`.

A map compared with `reflect.DeepEqual` is a `Finmap` and a slice a `List`. Their
equality merges what `DeepEqual` tells apart: a nil map or slice and an empty one, and two
spellings of one quantity (`1Gi`, `1024Mi`). A map the code ranges over with an early exit
is an `AList`, whose entry list is the iteration order of one run.
-/

namespace PostgresOperator

/-- `resource.Quantity`, by the exact number it denotes. -/
structure Quantity where
  value : ℚ
  deriving DecidableEq

/-- `Quantity{}`, the zero quantity. -/
instance : Zero Quantity := ⟨⟨0⟩⟩

@[simp] theorem Quantity.zero_value : (0 : Quantity).value = 0 := rfl

/-- `Quantity.Cmp` compares the denoted numbers. -/
def Quantity.cmp (a b : Quantity) : Ordering := compare a.value b.value

theorem Quantity.cmp_eq_eq_iff (a b : Quantity) : a.cmp b = .eq ↔ a = b := by
  cases a; cases b
  simp [Quantity.cmp, compare_eq_iff_eq]

/-- The value rounded to an integer away from zero, as `ScaledValue` rounds it. -/
def Quantity.roundAway (q : Quantity) : Int :=
  if 0 ≤ q.value then ⌈q.value⌉ else ⌊q.value⌋

/-- The rounded value fits in Go's `int64`. -/
def Quantity.FitsInt64 (q : Quantity) : Prop :=
  -2 ^ 63 ≤ q.roundAway ∧ q.roundAway < 2 ^ 63

instance (q : Quantity) : Decidable q.FitsInt64 := inferInstanceAs (Decidable (_ ∧ _))

/-- `Quantity.ScaledValue(0)`, an `int64`. On overflow it is 0, as for the `int64Amount`
form that sizes such as `10E` or `1e19` parse to. -/
def Quantity.scaledValue (q : Quantity) : Int :=
  if q.FitsInt64 then q.roundAway else 0

/-- A `v1.ResourceList`. -/
abbrev ResourceList := Finmap fun _ : String => Quantity

/-- `m[k]` on a `ResourceList`: a missing key reads as the zero quantity. -/
def quantityAt (m : ResourceList) (k : String) : Quantity := (m.lookup k).getD 0

/-- `v1.ResourceStorage`. -/
def resourceStorage : String := "storage"

/-- `v1.ResourceRequirements`. -/
structure ResourceRequirements where
  limits : ResourceList
  requests : ResourceList
  deriving DecidableEq

/-- A `map[string]string` of labels or annotations. -/
abbrev StringMap := Finmap fun _ : String => String

/-- `v1.ContainerPort`. -/
structure ContainerPort where
  name : String
  hostPort : Int
  containerPort : Int
  protocol : String
  hostIP : String
  deriving DecidableEq

/-- `v1.EnvVarSource`: the object field or secret key a variable is read from. -/
inductive EnvVarSource where
  | fieldRef (fieldPath : String)
  | secretKeyRef (name key : String)
  deriving DecidableEq

/-- `v1.EnvVar`. -/
structure EnvVar where
  name : String
  value : String
  valueFrom : Option EnvVarSource
  deriving DecidableEq

/-- `v1.Container`. -/
structure Container where
  image : String
  ports : List ContainerPort
  resources : ResourceRequirements
  env : List EnvVar
  deriving DecidableEq

/-- `v1.PodTemplateSpec`: its metadata's labels and annotations and its pod spec. -/
structure PodTemplate where
  labels : StringMap
  annotations : StringMap
  serviceAccountName : String
  terminationGracePeriodSeconds : Int
  containers : List Container
  deriving DecidableEq

/-- `v1.PersistentVolumeClaimSpec`. -/
structure ClaimSpec where
  accessModes : List String
  resources : ResourceRequirements
  volumeName : String
  storageClassName : Option String
  deriving DecidableEq

/-- `v1.PersistentVolumeClaim`, as a volume claim template of a statefulset. -/
structure ClaimTemplate where
  name : String
  annotations : StringMap
  spec : ClaimSpec
  deriving DecidableEq

/-- `v1beta1.StatefulSet`. -/
structure StatefulSet where
  replicas : Int
  template : PodTemplate
  volumeClaimTemplates : List ClaimTemplate
  deriving DecidableEq

/-- `v1.Endpoints`: the package reads none of its fields, only whether the cluster holds
one. -/
structure Endpoint where
  deriving DecidableEq

/-- `v1.Service`. -/
structure Service where
  loadBalancerSourceRanges : List String
  deriving DecidableEq

/-- `spec.NamespacedName`. -/
structure NamespacedName where
  «namespace» : String
  name : String
  deriving DecidableEq

/-- `v1.ObjectReference` of the claim a persistent volume is bound to. -/
structure ClaimRef where
  «namespace» : String
  name : String
  deriving DecidableEq

/-- `v1.PersistentVolume`; `awsElasticBlockStore` is the `VolumeID` of its EBS source. -/
structure PersistentVolume where
  name : String
  capacity : ResourceList
  awsElasticBlockStore : Option String
  claimRef : Option ClaimRef
  deriving DecidableEq

/-- `spec.Volume`. -/
structure Volume where
  size : String
  storageClass : String
  deriving DecidableEq

/-- Role flags as the manifest lists them, `spec.UserFlags`. -/
abbrev UserFlags := List String

/-- The parts of `spec.PostgresSpec` the cluster package reads. -/
structure PostgresSpec where
  pgVersion : String
  volume : Volume
  allowedSourceRanges : List String
  users : AList fun _ : String => UserFlags

/-- `spec.PostgresStatus`; `unknown` is the empty status of a fresh manifest. -/
inductive PostgresStatus where
  | unknown | creating | running | updating | addFailed | updateFailed
  deriving DecidableEq, Repr

/-- `spec.PgUser`. -/
structure PgUser where
  name : String
  password : String
  flags : List String
  memberOf : List String
  deriving DecidableEq

/-- A `map[string]spec.PgUser`. -/
abbrev UserMap := AList fun _ : String => PgUser

end PostgresOperator

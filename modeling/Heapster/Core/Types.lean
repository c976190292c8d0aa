import Heapster.Cadvisor

set_option autoImplicit false

/-! # Metric descriptors, values and metrics

The records of `metrics.go`: a `MetricDescriptor` (name and kinds), the `MetricValue` and
`LabeledMetric` an extractor emits, and a `Metric`, a descriptor with up to two pairs of
functions. A Go `func` field may be `nil`; here it is an `Option`, `none` by default, as a Go
composite literal leaves an omitted field `nil`.

The extractors read package-level state besides their two arguments: the clock
(`time.Since`), the node test `metrics.IsNode`, and the label descriptors of `labels.go`. None
of these is in `metrics.go`, so they are the fields of `Globals`, an explicit argument of every
`GetValue` and `GetLabeledMetric`; a theorem over all `Globals` holds whatever they are. -/

namespace Heapster.Core

open Go Cadvisor

/-! ## Kinds -/

/-- `MetricType`: whether a value is a running total or an instantaneous reading. -/
inductive MetricType
  | MetricCumulative
  | MetricGauge
deriving DecidableEq, Repr

/-- `ValueType`: which of a value's numbers is meaningful. -/
inductive ValueType
  | ValueInt64
  | ValueFloat
deriving DecidableEq, Repr

/-! ## Values -/

/-- `MetricValue`. Its `FloatValue` is never set in `metrics.go` (every extractor emits an
    `int64`), so it is left out. -/
structure MetricValue where
  IntValue : Int64 := 0
  ValueType : ValueType
  MetricType : MetricType
deriving DecidableEq, Repr

/-- `LabelDescriptor`: only its `Key` is read. -/
structure LabelDescriptor where
  Key : String
deriving DecidableEq, Repr

/-- `LabeledMetric`: one value of a metric for one sub-resource, told apart by its labels. -/
structure LabeledMetric where
  Name : String
  Labels : StringMap String
  MetricValue : MetricValue
deriving DecidableEq

/-! ## Metrics -/

/-- `MetricDescriptor`: the name (the join key of every lookup) and the two kinds. Its
    `Description`, `Labels` and `Units` are read by no function of `metrics.go`. -/
structure MetricDescriptor where
  Name : String
  «Type» : MetricType
  ValueType : ValueType
deriving DecidableEq, Repr

/-- What the extractors read besides their arguments. -/
structure Globals where
  /-- The clock reading `time.Since` takes. -/
  Now : Time
  /-- `metrics.IsNode`: whether an entity is a node rather than a container. -/
  IsNode : ContainerInfo → Bool
  LabelResourceID : LabelDescriptor
  LabelAcceleratorMake : LabelDescriptor
  LabelAcceleratorModel : LabelDescriptor
  LabelAcceleratorID : LabelDescriptor

/-- A `Globals` for running the extractors on sample snapshots: the clock at Go's zero time, no
    entity a node, and sample label keys. -/
def Globals.sample : Globals where
  Now := {}
  IsNode := fun _ => false
  LabelResourceID := ⟨"resource_id"⟩
  LabelAcceleratorMake := ⟨"make"⟩
  LabelAcceleratorModel := ⟨"model"⟩
  LabelAcceleratorID := ⟨"id"⟩

/-- `Metric`: a descriptor, a scalar pair (`HasValue`, `GetValue`) and a labeled pair
    (`HasLabeledMetric`, `GetLabeledMetric`), each function possibly `nil`. -/
structure Metric extends MetricDescriptor where
  HasValue : Option (ContainerSpec → Bool) := none
  GetValue : Option (Globals → ContainerInfo → ContainerStats → MetricValue) := none
  HasLabeledMetric : Option (ContainerSpec → ContainerStats → Bool) := none
  GetLabeledMetric :
    Option (Globals → ContainerInfo → ContainerStats → List LabeledMetric) := none

end Heapster.Core

import Heapster.Core.Metrics.Scalar
import Heapster.Core.Metrics.Derived
import Heapster.Core.Metrics.Labeled

set_option autoImplicit false

/-! # The registry: metric lists, families and lookups

The package-level lists of `metrics.go`, in the order their literals give, and the three
lookups on them: `MetricFamilyForName`, `IsNodeAutoscalingMetric` and the `RateMetricsMapping`
map. `StandardMetrics` lists `memory/rss` and `memory/cache` twice, so `AllMetrics` does too.

`MetricFamilyForName` ranges over the map `MetricFamilies`, and Go leaves the order in which a
`range` visits a map's entries unspecified (it changes from run to run). The model therefore
takes the visiting order as an argument: any permutation of the literal's entries. -/

namespace Heapster.Core

open Go

/-! ## Lists -/

/-- Provided by Kubelet/cadvisor. -/
def StandardMetrics : List Metric :=
  [MetricUptime, MetricCpuUsage, MetricMemoryCache, MetricMemoryRSS, MetricMemoryUsage,
    MetricMemoryRSS, MetricMemoryCache, MetricMemoryWorkingSet, MetricMemoryPageFaults,
    MetricMemoryMajorPageFaults, MetricNetworkRx, MetricNetworkRxErrors, MetricNetworkTx,
    MetricNetworkTxErrors]

/-- Computed from cluster state using the Kubernetes API. -/
def AdditionalMetrics : List Metric :=
  [MetricCpuRequest, MetricCpuLimit, MetricMemoryRequest, MetricMemoryLimit]

/-- Computed from the corresponding standard metrics. -/
def RateMetrics : List Metric :=
  [MetricCpuUsageRate, MetricNetworkRxRate, MetricNetworkTxRate, MetricDiskIOReadRate,
    MetricDiskIOWriteRate]

/-- Each cumulative metric with a rate, keyed by name, to its rate metric. -/
def RateMetricsMapping : StringMap Metric :=
  mapLit [(MetricCpuUsage.Name, MetricCpuUsageRate), (MetricNetworkRx.Name, MetricNetworkRxRate),
    (MetricNetworkTx.Name, MetricNetworkTxRate), (MetricDiskIORead.Name, MetricDiskIOReadRate),
    (MetricDiskIOWrite.Name, MetricDiskIOWriteRate)]

def LabeledMetrics : List Metric :=
  [MetricDiskIORead, MetricDiskIOReadRate, MetricDiskIOWrite, MetricDiskIOWriteRate,
    MetricFilesystemUsage, MetricFilesystemLimit, MetricFilesystemAvailable,
    MetricFilesystemInodes, MetricFilesystemInodesFree, MetricAcceleratorMemoryTotal,
    MetricAcceleratorMemoryUsed, MetricAcceleratorDutyCycle]

def NodeAutoscalingMetrics : List Metric :=
  [MetricNodeCpuCapacity, MetricNodeMemoryCapacity, MetricNodeCpuAllocatable,
    MetricNodeMemoryAllocatable, MetricNodeCpuUtilization, MetricNodeMemoryUtilization,
    MetricNodeCpuReservation, MetricNodeMemoryReservation]

def CpuMetrics : List Metric :=
  [MetricCpuLimit, MetricCpuRequest, MetricCpuUsage, MetricCpuUsageRate, MetricNodeCpuAllocatable,
    MetricNodeCpuCapacity, MetricNodeCpuReservation, MetricNodeCpuUtilization]

def FilesystemMetrics : List Metric :=
  [MetricFilesystemAvailable, MetricFilesystemLimit, MetricFilesystemUsage,
    MetricFilesystemInodes, MetricFilesystemInodesFree]

def MemoryMetrics : List Metric :=
  [MetricMemoryLimit, MetricMemoryMajorPageFaults, MetricMemoryPageFaults, MetricMemoryRequest,
    MetricMemoryUsage, MetricMemoryRSS, MetricMemoryCache, MetricMemoryWorkingSet,
    MetricNodeMemoryAllocatable, MetricNodeMemoryCapacity, MetricNodeMemoryUtilization,
    MetricNodeMemoryReservation]

def NetworkMetrics : List Metric :=
  [MetricNetworkRx, MetricNetworkRxErrors, MetricNetworkRxRate, MetricNetworkTx,
    MetricNetworkTxErrors, MetricNetworkTxRate]

/-- `append(StandardMetrics, AdditionalMetrics..., RateMetrics..., LabeledMetrics...,
    NodeAutoscalingMetrics...)`. -/
def AllMetrics : List Metric :=
  StandardMetrics ++ AdditionalMetrics ++ RateMetrics ++ LabeledMetrics ++ NodeAutoscalingMetrics

/-! ## Families -/

/-- `type MetricFamily string`. -/
structure MetricFamily where
  value : String
deriving DecidableEq, Repr

def MetricFamilyCpu : MetricFamily := ⟨"cpu"⟩

def MetricFamilyFilesystem : MetricFamily := ⟨"filesystem"⟩

def MetricFamilyMemory : MetricFamily := ⟨"memory"⟩

def MetricFamilyNetwork : MetricFamily := ⟨"network"⟩

def MetricFamilyGeneral : MetricFamily := ⟨"general"⟩

/-- The entries of the map `MetricFamilies`, in the order of its literal. -/
def MetricFamilies : List (MetricFamily × List Metric) :=
  [(MetricFamilyCpu, CpuMetrics), (MetricFamilyFilesystem, FilesystemMetrics),
    (MetricFamilyMemory, MemoryMetrics), (MetricFamilyNetwork, NetworkMetrics)]

/-- `MetricFamilyForName`, when `range MetricFamilies` visits the entries in the order
    `families` lists them: the first family whose list has a metric named `metricName`, else
    `MetricFamilyGeneral`. -/
def MetricFamilyForName (families : List (MetricFamily × List Metric)) (metricName : String) :
    MetricFamily :=
  match families with
  | [] => MetricFamilyGeneral
  | (family, metrics) :: rest =>
    if metrics.any (fun metric => metricName == metric.Name) then family
    else MetricFamilyForName rest metricName

/-! ## Autoscaling metrics -/

def IsNodeAutoscalingMetric (name : String) : Bool :=
  NodeAutoscalingMetrics.any (fun autoscalingMetric => autoscalingMetric.Name == name)

end Heapster.Core

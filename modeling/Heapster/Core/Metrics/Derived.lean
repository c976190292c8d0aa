import Heapster.Core.Types

set_option autoImplicit false

/-! # The metrics without an extractor

The additional metrics (computed from cluster state), the rate metrics (computed downstream from
two samples of a cumulative metric) and the node autoscaling metrics are descriptors only: all
four functions of each are `nil`. The rate metrics `metrics.go` declares but lists nowhere
(`memory/page_faults_rate`, `memory/major_page_faults_rate`, `network/rx_errors_rate`,
`network/tx_errors_rate`) are read by no function and left out. -/

namespace Heapster.Core

/-! ## Additional metrics -/

def MetricCpuRequest : Metric where
  Name := "cpu/request"
  «Type» := .MetricGauge
  ValueType := .ValueInt64

def MetricCpuLimit : Metric where
  Name := "cpu/limit"
  «Type» := .MetricGauge
  ValueType := .ValueInt64

def MetricMemoryRequest : Metric where
  Name := "memory/request"
  «Type» := .MetricGauge
  ValueType := .ValueInt64

def MetricMemoryLimit : Metric where
  Name := "memory/limit"
  «Type» := .MetricGauge
  ValueType := .ValueInt64

/-! ## Rate metrics -/

def MetricCpuUsageRate : Metric where
  Name := "cpu/usage_rate"
  «Type» := .MetricGauge
  ValueType := .ValueInt64

def MetricNetworkRxRate : Metric where
  Name := "network/rx_rate"
  «Type» := .MetricGauge
  ValueType := .ValueFloat

def MetricNetworkTxRate : Metric where
  Name := "network/tx_rate"
  «Type» := .MetricGauge
  ValueType := .ValueFloat

/-! ## Node autoscaling metrics -/

def MetricNodeCpuCapacity : Metric where
  Name := "cpu/node_capacity"
  «Type» := .MetricGauge
  ValueType := .ValueFloat

def MetricNodeMemoryCapacity : Metric where
  Name := "memory/node_capacity"
  «Type» := .MetricGauge
  ValueType := .ValueFloat

def MetricNodeCpuAllocatable : Metric where
  Name := "cpu/node_allocatable"
  «Type» := .MetricGauge
  ValueType := .ValueFloat

def MetricNodeMemoryAllocatable : Metric where
  Name := "memory/node_allocatable"
  «Type» := .MetricGauge
  ValueType := .ValueFloat

def MetricNodeCpuUtilization : Metric where
  Name := "cpu/node_utilization"
  «Type» := .MetricGauge
  ValueType := .ValueFloat

def MetricNodeMemoryUtilization : Metric where
  Name := "memory/node_utilization"
  «Type» := .MetricGauge
  ValueType := .ValueFloat

def MetricNodeCpuReservation : Metric where
  Name := "cpu/node_reservation"
  «Type» := .MetricGauge
  ValueType := .ValueFloat

def MetricNodeMemoryReservation : Metric where
  Name := "memory/node_reservation"
  «Type» := .MetricGauge
  ValueType := .ValueFloat

end Heapster.Core

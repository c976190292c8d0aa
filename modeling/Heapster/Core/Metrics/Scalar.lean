import Heapster.Core.Types

set_option autoImplicit false

/-! # The standard metrics: scalar extraction

`uptime`, `cpu/usage`, the six memory metrics and the four network metrics, each with a
`HasValue` on the spec's capability flags and a `GetValue` on a snapshot.

Eleven of the twelve share one body, `nodeGatedValue`: build an `int64` value of the metric's
kind with `IntValue` zero, and overwrite it with the reading only when `metrics.IsNode(c)` is
false. For a node the value stays zero whatever the snapshot holds. The CPU and memory metrics
read one `uint64` field; the network metrics first add a field over every interface in an
`int64` accumulator (`sumInterfaces`), which wraps modulo `2⁶⁴`. `uptime` is the one metric that
reads the clock. -/

namespace Heapster.Core

open Go Cadvisor

/-! ## The shared bodies -/

/-- The body of the node-gated extractors: an `int64` value of kind `metricType` that is
    `value` for a container and `0` for a node. -/
def nodeGatedValue (metricType : MetricType) (value : Int64) (g : Globals) (c : ContainerInfo) :
    MetricValue :=
  let metricValue : MetricValue :=
    { ValueType := .ValueInt64, MetricType := metricType, IntValue := 0 }
  if !g.IsNode c then { metricValue with IntValue := value } else metricValue

section NodeGated

variable (t : MetricType) (v : Int64) (g : Globals) (c : ContainerInfo)

@[simp] theorem nodeGatedValue_ValueType : (nodeGatedValue t v g c).ValueType = .ValueInt64 := by
  unfold nodeGatedValue; split <;> rfl

@[simp] theorem nodeGatedValue_MetricType : (nodeGatedValue t v g c).MetricType = t := by
  unfold nodeGatedValue; split <;> rfl

theorem nodeGatedValue_IntValue :
    (nodeGatedValue t v g c).IntValue = if g.IsNode c then 0 else v := by
  unfold nodeGatedValue; cases g.IsNode c <;> rfl

/-- The spec's scenario: `1048576` bytes of memory, for a container and for a node. -/
example : (nodeGatedValue .MetricGauge (int64 1048576) Globals.sample {}).IntValue = 1048576 ∧
    (nodeGatedValue .MetricGauge (int64 1048576)
      { Globals.sample with IsNode := fun _ => true } {}).IntValue = 0 := by
  decide

end NodeGated

/-- The network extractors' loop: `acc += int64(field(interfaceStat))` over every interface. -/
def sumInterfaces (field : InterfaceStats → UInt64) (interfaces : List InterfaceStats) : Int64 :=
  interfaces.foldl (fun acc interfaceStat => acc + int64 (field interfaceStat)) 0

/-- The loop computes the exact sum of the counters, reduced modulo `2⁶⁴`. -/
theorem sumInterfaces_eq (field : InterfaceStats → UInt64) (interfaces : List InterfaceStats) :
    sumInterfaces field interfaces
      = BitVec.ofNat 64 (interfaces.map fun i => (field i).toNat).sum := by
  simpa using foldl_add_int64 field interfaces 0

/-! ## The metrics -/

def MetricUptime : Metric where
  Name := "uptime"
  «Type» := .MetricCumulative
  ValueType := .ValueInt64
  HasValue := some fun spec => !spec.CreationTime.IsZero
  GetValue := some fun g c _ =>
    { ValueType := .ValueInt64, MetricType := .MetricCumulative,
      IntValue := (Since g.Now c.Spec.CreationTime).sdiv Millisecond }

def MetricCpuUsage : Metric where
  Name := "cpu/usage"
  «Type» := .MetricCumulative
  ValueType := .ValueInt64
  HasValue := some fun spec => spec.HasCpu
  GetValue := some fun g c stat => nodeGatedValue .MetricCumulative (int64 stat.Cpu.Usage.Total) g c

def MetricMemoryUsage : Metric where
  Name := "memory/usage"
  «Type» := .MetricGauge
  ValueType := .ValueInt64
  HasValue := some fun spec => spec.HasMemory
  GetValue := some fun g c stat => nodeGatedValue .MetricGauge (int64 stat.Memory.Usage) g c

def MetricMemoryCache : Metric where
  Name := "memory/cache"
  «Type» := .MetricGauge
  ValueType := .ValueInt64
  HasValue := some fun spec => spec.HasMemory
  GetValue := some fun g c stat => nodeGatedValue .MetricGauge (int64 stat.Memory.Cache) g c

def MetricMemoryRSS : Metric where
  Name := "memory/rss"
  «Type» := .MetricGauge
  ValueType := .ValueInt64
  HasValue := some fun spec => spec.HasMemory
  GetValue := some fun g c stat => nodeGatedValue .MetricGauge (int64 stat.Memory.RSS) g c

def MetricMemoryWorkingSet : Metric where
  Name := "memory/working_set"
  «Type» := .MetricGauge
  ValueType := .ValueInt64
  HasValue := some fun spec => spec.HasMemory
  GetValue := some fun g c stat => nodeGatedValue .MetricGauge (int64 stat.Memory.WorkingSet) g c

def MetricMemoryPageFaults : Metric where
  Name := "memory/page_faults"
  «Type» := .MetricCumulative
  ValueType := .ValueInt64
  HasValue := some fun spec => spec.HasMemory
  GetValue := some fun g c stat =>
    nodeGatedValue .MetricCumulative (int64 stat.Memory.ContainerData.Pgfault) g c

def MetricMemoryMajorPageFaults : Metric where
  Name := "memory/major_page_faults"
  «Type» := .MetricCumulative
  ValueType := .ValueInt64
  HasValue := some fun spec => spec.HasMemory
  GetValue := some fun g c stat =>
    nodeGatedValue .MetricCumulative (int64 stat.Memory.ContainerData.Pgmajfault) g c

def MetricNetworkRx : Metric where
  Name := "network/rx"
  «Type» := .MetricCumulative
  ValueType := .ValueInt64
  HasValue := some fun spec => spec.HasNetwork
  GetValue := some fun g c stat =>
    nodeGatedValue .MetricCumulative (sumInterfaces (·.RxBytes) stat.Network.Interfaces) g c

def MetricNetworkRxErrors : Metric where
  Name := "network/rx_errors"
  «Type» := .MetricCumulative
  ValueType := .ValueInt64
  HasValue := some fun spec => spec.HasNetwork
  GetValue := some fun g c stat =>
    nodeGatedValue .MetricCumulative (sumInterfaces (·.RxErrors) stat.Network.Interfaces) g c

def MetricNetworkTx : Metric where
  Name := "network/tx"
  «Type» := .MetricCumulative
  ValueType := .ValueInt64
  HasValue := some fun spec => spec.HasNetwork
  GetValue := some fun g c stat =>
    nodeGatedValue .MetricCumulative (sumInterfaces (·.TxBytes) stat.Network.Interfaces) g c

def MetricNetworkTxErrors : Metric where
  Name := "network/tx_errors"
  «Type» := .MetricCumulative
  ValueType := .ValueInt64
  HasValue := some fun spec => spec.HasNetwork
  GetValue := some fun g c stat =>
    nodeGatedValue .MetricCumulative (sumInterfaces (·.TxErrors) stat.Network.Interfaces) g c

end Heapster.Core

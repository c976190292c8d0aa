import Heapster.Core.Metrics.Scalar

set_option autoImplicit false

/-! # Node suppression and the values of the scalar extractors

The eleven node-gated extractors return `0` for a node. For a container each returns the sum of
the raw counters it reads (`nodeGatedReads`: its one field, or that field of every network
interface) as an `int64`, that is reduced modulo `2⁶⁴` and read in two's complement. The value
is therefore the exact sum exactly when the sum is below `2⁶³`. A single field below `2⁶³` is
always read exactly, but the network accumulator can pass `2⁶³` although every interface's
counter is below it (`networkRx_sum_wraps`).

Wrapping `int64` addition is still commutative, so the network values do not depend on the
order of the interfaces (`network_getValue_perm`).

`uptime` is not gated: it is the time since the container's creation, saturated to the
`Duration` range, in whole milliseconds truncated toward zero (`uptime_getValue`). Saturation
and truncation are monotone, so along scrapes whose clock never goes back uptime never
decreases, as its `MetricCumulative` descriptor promises (`uptime_monotone`). -/

namespace Heapster.Core

open Go Cadvisor

/-- The node-gated extractors, each with the raw counters its `GetValue` reads from a snapshot:
    one field for the CPU and memory metrics, that field of every interface for the network
    ones. -/
def nodeGatedReads : List (Metric × (ContainerStats → List UInt64)) :=
  [(MetricCpuUsage, fun stat => [stat.Cpu.Usage.Total]),
    (MetricMemoryUsage, fun stat => [stat.Memory.Usage]),
    (MetricMemoryCache, fun stat => [stat.Memory.Cache]),
    (MetricMemoryRSS, fun stat => [stat.Memory.RSS]),
    (MetricMemoryWorkingSet, fun stat => [stat.Memory.WorkingSet]),
    (MetricMemoryPageFaults, fun stat => [stat.Memory.ContainerData.Pgfault]),
    (MetricMemoryMajorPageFaults, fun stat => [stat.Memory.ContainerData.Pgmajfault]),
    (MetricNetworkRx, fun stat => stat.Network.Interfaces.map (·.RxBytes)),
    (MetricNetworkRxErrors, fun stat => stat.Network.Interfaces.map (·.RxErrors)),
    (MetricNetworkTx, fun stat => stat.Network.Interfaces.map (·.TxBytes)),
    (MetricNetworkTxErrors, fun stat => stat.Network.Interfaces.map (·.TxErrors))]

/-- Each node-gated `GetValue` returns `0` for a node and the sum of its counters modulo `2⁶⁴`
    otherwise. -/
theorem nodeGatedReads_getValue :
    ∀ e ∈ nodeGatedReads, ∃ f, e.1.GetValue = some f ∧ ∀ g c stat,
      (f g c stat).IntValue
        = if g.IsNode c then 0 else BitVec.ofNat 64 ((e.2 stat).map UInt64.toNat).sum := by
  simp only [nodeGatedReads, List.forall_mem_cons, List.not_mem_nil, IsEmpty.forall_iff,
    implies_true, and_true]
  refine ⟨?_, ?_, ?_, ?_, ?_, ?_, ?_, ?_, ?_, ?_, ?_⟩ <;>
    exact ⟨_, rfl, fun g c stat => by
      simp [nodeGatedValue_IntValue, int64_eq_ofNat, sumInterfaces_eq, Function.comp_def]⟩

/-- Node suppression and the exact range of the node-gated extractors: `0` for a node; for a
    container the sum of the counters read modulo `2⁶⁴`, read in two's complement (`Int.bmod`),
    which is the exact sum iff that sum is below `2⁶³`. -/
theorem nodeGated_getValue (m : Metric) (read : ContainerStats → List UInt64)
    (h : (m, read) ∈ nodeGatedReads) (g : Globals) (c : ContainerInfo) (stat : ContainerStats) :
    ∃ f, m.GetValue = some f ∧
      (g.IsNode c = true → (f g c stat).IntValue = 0) ∧
      (g.IsNode c = false →
        (f g c stat).IntValue = BitVec.ofNat 64 ((read stat).map UInt64.toNat).sum ∧
        (f g c stat).IntValue.toInt = (((read stat).map UInt64.toNat).sum : Int).bmod (2 ^ 64) ∧
        ((f g c stat).IntValue.toInt = ((read stat).map UInt64.toNat).sum
          ↔ ((read stat).map UInt64.toNat).sum < 2 ^ 63)) := by
  obtain ⟨f, hf, hval⟩ := nodeGatedReads_getValue _ h
  refine ⟨f, hf, fun hn => by simp [hval, hn], fun hn => ?_⟩
  rw [hval, if_neg (by simp [hn])]
  exact ⟨rfl, BitVec.toInt_ofNat _, toInt_ofNat_eq_iff _⟩

/-- `cpu/usage` of a container that used `5` ns reads `5`. -/
theorem nodeGated_getValue_cpuUsage :
    ∃ f, MetricCpuUsage.GetValue = some f ∧
      (f Globals.sample {} { Cpu := { Usage := { Total := 5 } } }).IntValue.toInt = 5 := by
  obtain ⟨f, hf, -, hcontainer⟩ := nodeGated_getValue MetricCpuUsage
    (fun stat => [stat.Cpu.Usage.Total]) (by simp [nodeGatedReads]) Globals.sample {}
    { Cpu := { Usage := { Total := 5 } } }
  exact ⟨f, hf, (hcontainer rfl).2.2.2 (by decide)⟩

/-- Two interfaces of `2⁶²` received bytes each, both below `2⁶³`: `network/rx` of a container
    is `-2⁶³`, not the sum `2⁶³`. -/
theorem networkRx_sum_wraps :
    (∀ i ∈ [({ RxBytes := 4611686018427387904 } : InterfaceStats),
        { RxBytes := 4611686018427387904 }], i.RxBytes.toNat ≤ 2 ^ 63 - 1) ∧
    Globals.sample.IsNode {} = false ∧
    ∃ f, MetricNetworkRx.GetValue = some f ∧
      (f Globals.sample {} { Network := { Interfaces := [{ RxBytes := 4611686018427387904 },
        { RxBytes := 4611686018427387904 }] } }).IntValue.toInt = -2 ^ 63 ∧
      (f Globals.sample {} { Network := { Interfaces := [{ RxBytes := 4611686018427387904 },
        { RxBytes := 4611686018427387904 }] } }).IntValue.toInt ≠ 2 ^ 62 + 2 ^ 62 := by
  refine ⟨by decide, rfl, _, rfl, ?_, ?_⟩ <;> decide

/-! ## Interface order -/

/-- The accumulator's result does not depend on the order of the interfaces. -/
theorem sumInterfaces_perm (field : InterfaceStats → UInt64) {l l' : List InterfaceStats}
    (h : l.Perm l') : sumInterfaces field l = sumInterfaces field l' := by
  rw [sumInterfaces_eq, sumInterfaces_eq, (h.map _).sum_eq]

/-- The network metrics do not depend on the order in which a snapshot lists its interfaces:
    `int64` addition wraps, but it is commutative and associative. -/
theorem network_getValue_perm (g : Globals) (c : ContainerInfo) (stat stat' : ContainerStats)
    (h : stat.Network.Interfaces.Perm stat'.Network.Interfaces) :
    ∀ m ∈ [MetricNetworkRx, MetricNetworkRxErrors, MetricNetworkTx, MetricNetworkTxErrors],
      ∃ f, m.GetValue = some f ∧ f g c stat = f g c stat' := by
  simp only [List.mem_cons, List.mem_singleton, List.not_mem_nil, or_false]
  rintro m (rfl | rfl | rfl | rfl) <;>
    exact ⟨_, rfl, congrArg (nodeGatedValue .MetricCumulative · g c) (sumInterfaces_perm _ h)⟩

/-- `network/tx` reads the same whichever of two interfaces comes first. -/
theorem network_getValue_perm_swap :
    ∃ f, MetricNetworkTx.GetValue = some f ∧
      f Globals.sample {} { Network := { Interfaces := [{ TxBytes := 7 }, { TxBytes := 9 }] } }
        = f Globals.sample {}
            { Network := { Interfaces := [{ TxBytes := 9 }, { TxBytes := 7 }] } } :=
  network_getValue_perm Globals.sample {}
    { Network := { Interfaces := [{ TxBytes := 7 }, { TxBytes := 9 }] } }
    { Network := { Interfaces := [{ TxBytes := 9 }, { TxBytes := 7 }] } } (List.Perm.swap _ _ [])
    MetricNetworkTx (by simp)

/-! ## Uptime -/

/-- `uptime` is the elapsed time in whole milliseconds, truncated toward zero; it is never
    negative for a creation time that is not in the future. -/
theorem uptime_getValue (g : Globals) (c : ContainerInfo) (stat : ContainerStats) :
    ∃ f, MetricUptime.GetValue = some f ∧
      (f g c stat).IntValue.toInt
        = (max minDuration (min maxDuration (g.Now.nanos - c.Spec.CreationTime.nanos))).tdiv
            1000000 ∧
      (c.Spec.CreationTime.nanos ≤ g.Now.nanos → 0 ≤ (f g c stat).IntValue.toInt) := by
  refine ⟨_, rfl, toInt_Since_sdiv_Millisecond _ _, fun h => ?_⟩
  rw [toInt_Since_sdiv_Millisecond]
  exact Int.tdiv_nonneg (le_max_of_le_right (le_min (by unfold maxDuration; norm_num) (by omega)))
    (by norm_num)

/-- `uptime` is cumulative along every run of scrapes of one container: when the clock readings
    never go back, neither do the reported uptimes, saturation and truncation included. -/
theorem uptime_monotone (c : ContainerInfo) (scrapes : List (Globals × ContainerStats))
    (h : scrapes.Pairwise fun s s' => s.1.Now.nanos ≤ s'.1.Now.nanos) :
    ∃ f, MetricUptime.GetValue = some f ∧
      (scrapes.map fun s => (f s.1 c s.2).IntValue.toInt).Pairwise (· ≤ ·) :=
  ⟨_, rfl, List.pairwise_map.2 (h.imp fun hle => toInt_Since_sdiv_Millisecond_le _ hle)⟩

/-- Scrapes at clock readings `1`, `2` and `3` ms after creation report `1`, `2`, `3`. -/
theorem uptime_monotone_three_scrapes :
    ∃ f, MetricUptime.GetValue = some f ∧
      ([1000000, 2000000, 3000000].map fun now : Int =>
        (f { Globals.sample with Now := { nanos := now } } {} {}).IntValue.toInt).Pairwise
        (· ≤ ·) := by
  obtain ⟨f, hf, hrun⟩ := uptime_monotone {}
    ([1000000, 2000000, 3000000].map fun now : Int =>
      ({ Globals.sample with Now := { nanos := now } }, {})) (by decide)
  exact ⟨f, hf, by simpa [List.map_map, Function.comp_def] using hrun⟩

end Heapster.Core

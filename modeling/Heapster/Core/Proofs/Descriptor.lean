import Heapster.Core.Metrics.Registry
import Heapster.Core.Proofs.Labeled

set_option autoImplicit false

/-! # Extracted values against their descriptors

An extractor writes the kinds (and, for a labeled entry, the name) of what it emits into its own
body, apart from the descriptor literal they should repeat. `Metric.EmitsDescriptor` states that
they agree. It holds of every metric of `AllMetrics` except the two disk I/O metrics, whose
descriptors say `MetricCumulative` while their loop emits `MetricGauge`. -/

namespace Heapster.Core

open Go Cadvisor

/-- The values `m`'s extractors emit carry `m`'s descriptor: a scalar value its two kinds, every
    labeled entry its name and two kinds. -/
def Metric.EmitsDescriptor (m : Metric) : Prop :=
  (∀ f, m.GetValue = some f → ∀ g c stat,
    (f g c stat).ValueType = m.ValueType ∧ (f g c stat).MetricType = m.«Type») ∧
  (∀ f, m.GetLabeledMetric = some f → ∀ g c stat, ∀ lm ∈ f g c stat,
    lm.Name = m.Name ∧ lm.MetricValue.ValueType = m.ValueType ∧
      lm.MetricValue.MetricType = m.«Type»)

/-! ## The shapes of metric -/

theorem emitsDescriptor_of_none (m : Metric) (hv : m.GetValue.isNone)
    (hl : m.GetLabeledMetric.isNone) : m.EmitsDescriptor :=
  ⟨fun _ h => by simp [h] at hv, fun _ h => by simp [h] at hl⟩

/-- A scalar metric whose value carries the descriptor's kinds. -/
theorem emitsDescriptor_of_getValue (m : Metric)
    (f : Globals → ContainerInfo → ContainerStats → MetricValue) (hv : m.GetValue = some f)
    (hl : m.GetLabeledMetric = none)
    (hf : ∀ g c stat,
      (f g c stat).ValueType = m.ValueType ∧ (f g c stat).MetricType = m.«Type») :
    m.EmitsDescriptor :=
  ⟨fun f' h => by rw [hv, Option.some_inj] at h; exact h ▸ hf, fun _ h => by simp [hl] at h⟩

/-- A labeled metric whose every entry carries the descriptor's name and kinds. -/
theorem emitsDescriptor_of_getLabeledMetric (m : Metric)
    (f : Globals → ContainerInfo → ContainerStats → List LabeledMetric)
    (hv : m.GetValue = none) (hl : m.GetLabeledMetric = some f)
    (hf : ∀ g c stat, ∀ lm ∈ f g c stat, lm.Name = m.Name ∧
      lm.MetricValue.ValueType = m.ValueType ∧ lm.MetricValue.MetricType = m.«Type») :
    m.EmitsDescriptor :=
  ⟨fun _ h => by simp [hv] at h, fun f' h => by rw [hl, Option.some_inj] at h; exact h ▸ hf⟩

/-- Every entry of a `map` of `gaugeEntry`s is an `int64` gauge named `name`. -/
theorem gaugeEntry_of_mem_map {α : Type} {name : String} {labels : α → StringMap String}
    {value : α → UInt64} {xs : List α} {lm : LabeledMetric}
    (h : lm ∈ xs.map fun x => gaugeEntry name (labels x) (value x)) :
    lm.Name = name ∧ lm.MetricValue.ValueType = .ValueInt64 ∧
      lm.MetricValue.MetricType = .MetricGauge := by
  obtain ⟨x, -, rfl⟩ := List.mem_map.1 h
  exact ⟨rfl, rfl, rfl⟩

/-! ## The lists -/

theorem standardMetrics_emitDescriptor : ∀ m ∈ StandardMetrics, m.EmitsDescriptor := by
  simp only [StandardMetrics, List.forall_mem_cons, List.not_mem_nil, IsEmpty.forall_iff,
    implies_true, and_true]
  refine ⟨emitsDescriptor_of_getValue _ _ rfl rfl fun _ _ _ => ⟨rfl, rfl⟩,
    ?_, ?_, ?_, ?_, ?_, ?_, ?_, ?_, ?_, ?_, ?_, ?_, ?_⟩ <;>
    exact emitsDescriptor_of_getValue _ _ rfl rfl fun _ _ _ =>
      ⟨nodeGatedValue_ValueType .., nodeGatedValue_MetricType ..⟩

/-- The additional, rate and node autoscaling metrics have no extractor. -/
theorem derivedMetrics_no_extractor :
    ∀ m ∈ AdditionalMetrics ++ RateMetrics ++ NodeAutoscalingMetrics,
      m.GetValue.isNone ∧ m.GetLabeledMetric.isNone := by
  decide

theorem derivedMetrics_emitDescriptor :
    ∀ m ∈ AdditionalMetrics ++ RateMetrics ++ NodeAutoscalingMetrics, m.EmitsDescriptor :=
  fun m hm => emitsDescriptor_of_none m (derivedMetrics_no_extractor m hm).1
    (derivedMetrics_no_extractor m hm).2

/-- Every entry the disk I/O loop emits is a gauge, whatever its descriptor says. -/
theorem diskIOLabeled_metricType (name op : String) (g : Globals) (stat : ContainerStats) :
    ∀ lm ∈ diskIOLabeled name op g stat, lm.MetricValue.MetricType = .MetricGauge := by
  intro lm h
  rw [diskIOLabeled_eq] at h
  exact (gaugeEntry_of_mem_map h).2.2

/-- The kinds the disk I/O loop emits: one `MetricGauge` per partition. -/
theorem diskIOLabeled_metricTypes (name op : String) (g : Globals) (stat : ContainerStats) :
    (diskIOLabeled name op g stat).map (·.MetricValue.MetricType)
      = List.replicate stat.DiskIo.IoServiceBytes.length .MetricGauge :=
  List.eq_replicate_iff.2 ⟨by simp [diskIOLabeled_eq], by
    simpa using diskIOLabeled_metricType name op g stat⟩

theorem labeledMetrics_emitDescriptor_of_not_diskIO :
    ∀ m ∈ LabeledMetrics, m.Name ≠ MetricDiskIORead.Name →
      m.Name ≠ MetricDiskIOWrite.Name → m.EmitsDescriptor := by
  simp only [LabeledMetrics, List.forall_mem_cons, List.not_mem_nil, IsEmpty.forall_iff,
    implies_true, and_true]
  refine ⟨fun h => absurd rfl h, fun _ _ => emitsDescriptor_of_none _ rfl rfl,
    fun _ h => absurd rfl h, fun _ _ => emitsDescriptor_of_none _ rfl rfl,
    fun _ _ => emitsDescriptor_of_getLabeledMetric _ _ rfl rfl fun g _ stat _ h =>
      gaugeEntry_of_mem_map ((filesystemLabeled_eq _ g stat _).symm ▸ h),
    fun _ _ => emitsDescriptor_of_getLabeledMetric _ _ rfl rfl fun g _ stat _ h =>
      gaugeEntry_of_mem_map ((filesystemLabeled_eq _ g stat _).symm ▸ h),
    fun _ _ => emitsDescriptor_of_none _ rfl rfl,
    fun _ _ => emitsDescriptor_of_getLabeledMetric _ _ rfl rfl fun g _ stat _ h =>
      gaugeEntry_of_mem_map ((inodesLabeled_eq _ g stat _).symm ▸ h),
    fun _ _ => emitsDescriptor_of_getLabeledMetric _ _ rfl rfl fun g _ stat _ h =>
      gaugeEntry_of_mem_map ((inodesLabeled_eq _ g stat _).symm ▸ h),
    ?_, ?_, ?_⟩ <;>
  exact fun _ _ => emitsDescriptor_of_getLabeledMetric _ _ rfl rfl fun g _ stat _ h =>
    gaugeEntry_of_mem_map ((acceleratorLabeled_eq _ g stat _).symm ▸ h)

/-- Every metric of `AllMetrics` but the two disk I/O metrics emits its descriptor's name and
    kinds. -/
theorem allMetrics_emitDescriptor_of_not_diskIO :
    ∀ m ∈ AllMetrics, m.Name ≠ MetricDiskIORead.Name → m.Name ≠ MetricDiskIOWrite.Name →
      m.EmitsDescriptor := by
  intro m hm hr hw
  simp only [AllMetrics, List.mem_append] at hm
  rcases hm with (((hs | ha) | hr') | hl) | hn
  · exact standardMetrics_emitDescriptor m hs
  · exact derivedMetrics_emitDescriptor m (by simp [ha])
  · exact derivedMetrics_emitDescriptor m (by simp [hr'])
  · exact labeledMetrics_emitDescriptor_of_not_diskIO m hl hr hw
  · exact derivedMetrics_emitDescriptor m (by simp [hn])

/-- `cpu/usage` emits its descriptor's kinds. -/
theorem allMetrics_emitDescriptor_cpuUsage : MetricCpuUsage.EmitsDescriptor :=
  allMetrics_emitDescriptor_of_not_diskIO MetricCpuUsage (by simp [AllMetrics, StandardMetrics])
    (by decide) (by decide)

/-- One partition that read and wrote `512` bytes: both disk I/O metrics emit a gauge, though
    their descriptors say cumulative. -/
theorem diskIO_emits_gauge :
    MetricDiskIORead.«Type» = .MetricCumulative ∧ MetricDiskIOWrite.«Type» = .MetricCumulative ∧
    MetricDiskIORead.GetLabeledMetric.map (fun f => (f Globals.sample {}
        { DiskIo := { IoServiceBytes :=
          [{ Device := "sda", Stats := mapLit [("Read", 512), ("Write", 512)] }] } }).map
        (·.MetricValue.MetricType))
      = some [.MetricGauge] ∧
    MetricDiskIOWrite.GetLabeledMetric.map (fun f => (f Globals.sample {}
        { DiskIo := { IoServiceBytes :=
          [{ Device := "sda", Stats := mapLit [("Read", 512), ("Write", 512)] }] } }).map
        (·.MetricValue.MetricType))
      = some [.MetricGauge] :=
  ⟨rfl, rfl, congrArg some (diskIOLabeled_metricTypes ..),
    congrArg some (diskIOLabeled_metricTypes ..)⟩

end Heapster.Core

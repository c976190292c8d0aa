import Heapster.Core.Types
import Heapster.Go.Fmt

set_option autoImplicit false

/-! # The labeled metrics

Metrics with one value per sub-resource: per filesystem, per disk partition, per accelerator.
Every `GetLabeledMetric` is the same loop, `result = append(result, entry)` over the snapshot's
records, and emits an `int64` gauge per record; they differ in the records, the labels and the
field read. The loop is `appendEach`; the inode metrics add a guard on `HasInodes`.

Disk partitions are labelled by `resourceIDKey`: the device name, or `"major:minor"` when it is
empty; their value is the partition's counter for `"Read"` or `"Write"`, zero when the map has
no such key. The disk metrics emit `MetricGauge`, although their descriptors say
`MetricCumulative`. -/

namespace Heapster.Core

open Go Cadvisor

/-! ## The loop -/

/-- `for _, x := range xs { result = append(result, emit(x)) }`, from an empty `result`. -/
def appendEach {α β : Type} (emit : α → β) (xs : List α) : List β :=
  xs.foldl (fun result x => result ++ [emit x]) []

theorem foldl_append_emit {α β : Type} (emit : α → β) (xs : List α) (acc : List β) :
    xs.foldl (fun result x => result ++ [emit x]) acc = acc ++ xs.map emit := by
  induction xs generalizing acc with
  | nil => simp
  | cons x xs ih => simp [ih]

theorem appendEach_eq_map {α β : Type} (emit : α → β) (xs : List α) :
    appendEach emit xs = xs.map emit := by
  simp [appendEach, foldl_append_emit]

/-- The same loop when the append is guarded by `keep`. -/
theorem foldl_append_emit_if {α β : Type} (keep : α → Bool) (emit : α → β) (xs : List α)
    (acc : List β) :
    xs.foldl (fun result x => if keep x then result ++ [emit x] else result) acc
      = acc ++ (xs.filter keep).map emit := by
  induction xs generalizing acc with
  | nil => simp
  | cons x xs ih => cases h : keep x <;> simp [h, ih, List.filter_cons]

/-! ## The bodies shared by each group -/

/-- `filesystem/usage` and `filesystem/limit`: one gauge per filesystem, labelled by device. -/
def filesystemLabeled (name : String) (field : FsStats → UInt64) (g : Globals)
    (stat : ContainerStats) : List LabeledMetric :=
  appendEach (fun fs =>
    { Name := name
      Labels := mapLit [(g.LabelResourceID.Key, fs.Device)]
      MetricValue := { ValueType := .ValueInt64, MetricType := .MetricGauge,
                       IntValue := int64 (field fs) } })
    stat.Filesystem

/-- `filesystem/inodes` and `filesystem/inodes_free`: the same, for the filesystems that report
    inodes only. -/
def inodesLabeled (name : String) (field : FsStats → UInt64) (g : Globals)
    (stat : ContainerStats) : List LabeledMetric :=
  stat.Filesystem.foldl (fun result fs =>
    if fs.HasInodes then
      result ++ [{ Name := name
                   Labels := mapLit [(g.LabelResourceID.Key, fs.Device)]
                   MetricValue := { ValueType := .ValueInt64, MetricType := .MetricGauge,
                                    IntValue := int64 (field fs) } }]
    else result) []

/-- `resourceIDKey`: the partition's device name, or `fmt.Sprintf("%d:%d", Major, Minor)` when
    the name is empty. -/
def resourceIDKey (p : PerDiskStats) : String :=
  if p.Device == "" then sprintfDColonD p.Major p.Minor else p.Device

/-- `value`: the partition's counter for operation `op`, or `0` when `Stats` has no such key. -/
def opValue (op : String) (p : PerDiskStats) : UInt64 :=
  match p.Stats.lookup op with
  | some v => v
  | none => 0

/-- `disk/io_read_bytes` and `disk/io_write_bytes`: one value per partition, labelled by
    `resourceIDKey`. -/
def diskIOLabeled (name op : String) (g : Globals) (stat : ContainerStats) : List LabeledMetric :=
  appendEach (fun p =>
    { Name := name
      Labels := mapLit [(g.LabelResourceID.Key, resourceIDKey p)]
      MetricValue := { ValueType := .ValueInt64, MetricType := .MetricGauge,
                       IntValue := int64 (opValue op p) } })
    stat.DiskIo.IoServiceBytes

/-- The accelerator metrics: one gauge per device, labelled by make, model and ID. -/
def acceleratorLabeled (name : String) (field : AcceleratorStats → UInt64) (g : Globals)
    (stat : ContainerStats) : List LabeledMetric :=
  appendEach (fun ac =>
    { Name := name
      Labels := mapLit [(g.LabelAcceleratorMake.Key, ac.Make),
                        (g.LabelAcceleratorModel.Key, ac.Model),
                        (g.LabelAcceleratorID.Key, ac.ID)]
      MetricValue := { ValueType := .ValueInt64, MetricType := .MetricGauge,
                       IntValue := int64 (field ac) } })
    stat.Accelerators

/-- The accelerator metrics' `HasLabeledMetric`: false when the snapshot lists no device. -/
def hasAccelerators (stat : ContainerStats) : Bool :=
  if stat.Accelerators.length == 0 then false else true

/-! ## The metrics -/

def MetricFilesystemUsage : Metric where
  Name := "filesystem/usage"
  «Type» := .MetricGauge
  ValueType := .ValueInt64
  HasLabeledMetric := some fun spec _ => spec.HasFilesystem
  GetLabeledMetric := some fun g _ stat => filesystemLabeled "filesystem/usage" (·.Usage) g stat

def MetricFilesystemLimit : Metric where
  Name := "filesystem/limit"
  «Type» := .MetricGauge
  ValueType := .ValueInt64
  HasLabeledMetric := some fun spec _ => spec.HasFilesystem
  GetLabeledMetric := some fun g _ stat => filesystemLabeled "filesystem/limit" (·.Limit) g stat

def MetricFilesystemAvailable : Metric where
  Name := "filesystem/available"
  «Type» := .MetricGauge
  ValueType := .ValueInt64

def MetricFilesystemInodes : Metric where
  Name := "filesystem/inodes"
  «Type» := .MetricGauge
  ValueType := .ValueInt64
  HasLabeledMetric := some fun spec _ => spec.HasFilesystem
  GetLabeledMetric := some fun g _ stat => inodesLabeled "filesystem/inodes" (·.Inodes) g stat

def MetricFilesystemInodesFree : Metric where
  Name := "filesystem/inodes_free"
  «Type» := .MetricGauge
  ValueType := .ValueInt64
  HasLabeledMetric := some fun spec _ => spec.HasFilesystem
  GetLabeledMetric := some fun g _ stat =>
    inodesLabeled "filesystem/inodes_free" (·.InodesFree) g stat

def MetricDiskIORead : Metric where
  Name := "disk/io_read_bytes"
  «Type» := .MetricCumulative
  ValueType := .ValueInt64
  HasLabeledMetric := some fun spec _ => spec.HasDiskIo
  GetLabeledMetric := some fun g _ stat => diskIOLabeled "disk/io_read_bytes" "Read" g stat

def MetricDiskIOWrite : Metric where
  Name := "disk/io_write_bytes"
  «Type» := .MetricCumulative
  ValueType := .ValueInt64
  HasLabeledMetric := some fun spec _ => spec.HasDiskIo
  GetLabeledMetric := some fun g _ stat => diskIOLabeled "disk/io_write_bytes" "Write" g stat

def MetricDiskIOReadRate : Metric where
  Name := "disk/io_read_bytes_rate"
  «Type» := .MetricGauge
  ValueType := .ValueFloat

def MetricDiskIOWriteRate : Metric where
  Name := "disk/io_write_bytes_rate"
  «Type» := .MetricGauge
  ValueType := .ValueFloat

def MetricAcceleratorMemoryTotal : Metric where
  Name := "accelerator/memory_total"
  «Type» := .MetricGauge
  ValueType := .ValueInt64
  HasLabeledMetric := some fun _ stat => hasAccelerators stat
  GetLabeledMetric := some fun g _ stat =>
    acceleratorLabeled "accelerator/memory_total" (·.MemoryTotal) g stat

def MetricAcceleratorMemoryUsed : Metric where
  Name := "accelerator/memory_used"
  «Type» := .MetricGauge
  ValueType := .ValueInt64
  HasLabeledMetric := some fun _ stat => hasAccelerators stat
  GetLabeledMetric := some fun g _ stat =>
    acceleratorLabeled "accelerator/memory_used" (·.MemoryUsed) g stat

def MetricAcceleratorDutyCycle : Metric where
  Name := "accelerator/duty_cycle"
  «Type» := .MetricGauge
  ValueType := .ValueInt64
  HasLabeledMetric := some fun _ stat => hasAccelerators stat
  GetLabeledMetric := some fun g _ stat =>
    acceleratorLabeled "accelerator/duty_cycle" (·.DutyCycle) g stat

end Heapster.Core

import Heapster.Core.Metrics.Labeled

set_option autoImplicit false

/-! # The labeled extractors emit one entry per record

Each `GetLabeledMetric` loop appends one entry per record it keeps, so its result is the `map`
of the records (`appendEach_eq_map`), or of the filtered records for the inode metrics
(`foldl_append_emit_if`): as many entries as qualifying records, in their order, the `i`-th
built from the `i`-th. `gaugeEntry` is the entry the spec describes for one record.

For disk partitions without a device name the label is the `"%d:%d"` key, which is injective
(`Go.sprintfDColonD_inj`), so two unnamed partitions share a label set exactly when they share
major and minor numbers; over a whole snapshot, the emitted label sets are pairwise distinct
exactly when the partitions' keys are (`diskIOLabeled_labels_nodup`). `Labels` carries this to
named partitions, filesystems and accelerators. -/

namespace Heapster.Core

open Go Cadvisor

/-- The entry the spec describes for one record: the metric's name, the record's labels, and
    its counter as an `int64` gauge. -/
def gaugeEntry (name : String) (labels : StringMap String) (value : UInt64) : LabeledMetric :=
  { Name := name, Labels := labels,
    MetricValue := { ValueType := .ValueInt64, MetricType := .MetricGauge,
                     IntValue := int64 value } }

/-- The entries of a `map` of `gaugeEntry`s carry pairwise distinct label sets exactly when the
    records' keys are pairwise distinct, for an injective label function. -/
theorem gaugeEntries_labels_nodup {α κ : Type} {name : String} {labels : κ → StringMap String}
    (hinj : Function.Injective labels) (key : α → κ) (value : α → UInt64) (xs : List α) :
    ((xs.map fun x => gaugeEntry name (labels (key x)) (value x)).map (·.Labels)).Nodup
      ↔ (xs.map key).Nodup := by
  rw [List.map_map, ← List.nodup_map_iff hinj, List.map_map]
  rfl

/-! ## The loops as maps -/

section Images

variable (name : String) (g : Globals) (stat : ContainerStats)

theorem filesystemLabeled_eq (field : FsStats → UInt64) :
    filesystemLabeled name field g stat
      = stat.Filesystem.map fun fs =>
          gaugeEntry name (mapLit [(g.LabelResourceID.Key, fs.Device)]) (field fs) :=
  appendEach_eq_map _ _

theorem inodesLabeled_eq (field : FsStats → UInt64) :
    inodesLabeled name field g stat
      = (stat.Filesystem.filter (·.HasInodes)).map fun fs =>
          gaugeEntry name (mapLit [(g.LabelResourceID.Key, fs.Device)]) (field fs) := by
  exact (foldl_append_emit_if _ _ _ []).trans (List.nil_append _)

theorem opValue_eq_getD (op : String) (p : PerDiskStats) :
    opValue op p = (p.Stats.lookup op).getD 0 := by
  unfold opValue; split <;> simp_all

/-- The spec's demultiplexing example: a partition that only wrote `500` bytes. -/
example : opValue "Read" { Stats := mapLit [("Write", 500)] } = 0 ∧
    opValue "Write" { Stats := mapLit [("Write", 500)] } = 500 := by
  decide

theorem diskIOLabeled_eq (op : String) :
    diskIOLabeled name op g stat
      = stat.DiskIo.IoServiceBytes.map fun p =>
          gaugeEntry name (mapLit [(g.LabelResourceID.Key, resourceIDKey p)])
            ((p.Stats.lookup op).getD 0) := by
  simp only [diskIOLabeled, appendEach_eq_map, opValue_eq_getD]
  rfl

theorem acceleratorLabeled_eq (field : AcceleratorStats → UInt64) :
    acceleratorLabeled name field g stat
      = stat.Accelerators.map fun ac =>
          gaugeEntry name (mapLit [(g.LabelAcceleratorMake.Key, ac.Make),
            (g.LabelAcceleratorModel.Key, ac.Model), (g.LabelAcceleratorID.Key, ac.ID)])
            (field ac) :=
  appendEach_eq_map _ _

theorem diskIOLabeled_labels (op : String) (i : Nat) :
    (diskIOLabeled name op g stat)[i]?.map (·.Labels)
      = stat.DiskIo.IoServiceBytes[i]?.map fun p =>
          mapLit [(g.LabelResourceID.Key, resourceIDKey p)] := by
  rw [diskIOLabeled_eq, List.getElem?_map, Option.map_map]
  rfl

theorem resourceIDKey_of_device_eq_empty (p : PerDiskStats) (h : p.Device = "") :
    resourceIDKey p = sprintfDColonD p.Major p.Minor := by
  simp [resourceIDKey, h]

/-- Two unnamed partitions get the same label set exactly when their major and minor numbers
    agree. -/
theorem diskIOLabeled_unnamed_labels_iff (op : String) {i j : Nat} {p q : PerDiskStats}
    (hp : stat.DiskIo.IoServiceBytes[i]? = some p) (hq : stat.DiskIo.IoServiceBytes[j]? = some q)
    (hpd : p.Device = "") (hqd : q.Device = "") :
    (diskIOLabeled name op g stat)[i]?.map (·.Labels)
        = (diskIOLabeled name op g stat)[j]?.map (·.Labels)
      ↔ (p.Major, p.Minor) = (q.Major, q.Minor) := by
  rw [diskIOLabeled_labels, diskIOLabeled_labels, hp, hq, Option.map_some', Option.map_some',
    Option.some_inj, mapLit_singleton_inj, resourceIDKey_of_device_eq_empty p hpd,
    resourceIDKey_of_device_eq_empty q hqd, sprintfDColonD_inj]

/-- The one-label set `{LabelResourceID.Key: key}` determines `key`. -/
theorem resourceLabels_injective :
    Function.Injective fun key : String => mapLit [(g.LabelResourceID.Key, key)] :=
  fun _ _ h => (mapLit_singleton_inj _ _ _).1 h

/-- The disk loop emits pairwise distinct label sets exactly when the partitions' keys are
    pairwise distinct. -/
theorem diskIOLabeled_labels_nodup (op : String) :
    ((diskIOLabeled name op g stat).map (·.Labels)).Nodup
      ↔ (stat.DiskIo.IoServiceBytes.map resourceIDKey).Nodup := by
  rw [diskIOLabeled_eq]
  exact gaugeEntries_labels_nodup (resourceLabels_injective g) resourceIDKey _ _

theorem hasAccelerators_iff (field : AcceleratorStats → UInt64) :
    hasAccelerators stat = true ↔ acceleratorLabeled name field g stat ≠ [] := by
  simp [hasAccelerators, acceleratorLabeled_eq]

end Images

/-- Every labeled extractor returns the record-by-record image of its input list, and an
    accelerator metric is present exactly when it emits something. -/
theorem labeled_extractors_record_images (g : Globals) (c : ContainerInfo)
    (stat : ContainerStats) :
    MetricFilesystemUsage.GetLabeledMetric.map (fun f => f g c stat)
      = some (stat.Filesystem.map fun fs =>
          gaugeEntry "filesystem/usage" (mapLit [(g.LabelResourceID.Key, fs.Device)]) fs.Usage) ∧
    MetricFilesystemLimit.GetLabeledMetric.map (fun f => f g c stat)
      = some (stat.Filesystem.map fun fs =>
          gaugeEntry "filesystem/limit" (mapLit [(g.LabelResourceID.Key, fs.Device)]) fs.Limit) ∧
    MetricFilesystemInodes.GetLabeledMetric.map (fun f => f g c stat)
      = some ((stat.Filesystem.filter (·.HasInodes)).map fun fs =>
          gaugeEntry "filesystem/inodes" (mapLit [(g.LabelResourceID.Key, fs.Device)])
            fs.Inodes) ∧
    MetricFilesystemInodesFree.GetLabeledMetric.map (fun f => f g c stat)
      = some ((stat.Filesystem.filter (·.HasInodes)).map fun fs =>
          gaugeEntry "filesystem/inodes_free" (mapLit [(g.LabelResourceID.Key, fs.Device)])
            fs.InodesFree) ∧
    MetricDiskIORead.GetLabeledMetric.map (fun f => f g c stat)
      = some (stat.DiskIo.IoServiceBytes.map fun p =>
          gaugeEntry "disk/io_read_bytes" (mapLit [(g.LabelResourceID.Key, resourceIDKey p)])
            ((p.Stats.lookup "Read").getD 0)) ∧
    MetricDiskIOWrite.GetLabeledMetric.map (fun f => f g c stat)
      = some (stat.DiskIo.IoServiceBytes.map fun p =>
          gaugeEntry "disk/io_write_bytes" (mapLit [(g.LabelResourceID.Key, resourceIDKey p)])
            ((p.Stats.lookup "Write").getD 0)) ∧
    MetricAcceleratorMemoryTotal.GetLabeledMetric.map (fun f => f g c stat)
      = some (stat.Accelerators.map fun ac =>
          gaugeEntry "accelerator/memory_total" (mapLit [(g.LabelAcceleratorMake.Key, ac.Make),
            (g.LabelAcceleratorModel.Key, ac.Model), (g.LabelAcceleratorID.Key, ac.ID)])
            ac.MemoryTotal) ∧
    MetricAcceleratorMemoryUsed.GetLabeledMetric.map (fun f => f g c stat)
      = some (stat.Accelerators.map fun ac =>
          gaugeEntry "accelerator/memory_used" (mapLit [(g.LabelAcceleratorMake.Key, ac.Make),
            (g.LabelAcceleratorModel.Key, ac.Model), (g.LabelAcceleratorID.Key, ac.ID)])
            ac.MemoryUsed) ∧
    MetricAcceleratorDutyCycle.GetLabeledMetric.map (fun f => f g c stat)
      = some (stat.Accelerators.map fun ac =>
          gaugeEntry "accelerator/duty_cycle" (mapLit [(g.LabelAcceleratorMake.Key, ac.Make),
            (g.LabelAcceleratorModel.Key, ac.Model), (g.LabelAcceleratorID.Key, ac.ID)])
            ac.DutyCycle) ∧
    (∀ m ∈ [MetricAcceleratorMemoryTotal, MetricAcceleratorMemoryUsed,
        MetricAcceleratorDutyCycle],
      ∀ spec : ContainerSpec, ∃ has get, m.HasLabeledMetric = some has ∧
        m.GetLabeledMetric = some get ∧ (has spec stat = true ↔ get g c stat ≠ [])) := by
  refine ⟨congrArg some (filesystemLabeled_eq ..), congrArg some (filesystemLabeled_eq ..),
    congrArg some (inodesLabeled_eq ..), congrArg some (inodesLabeled_eq ..),
    congrArg some (diskIOLabeled_eq ..), congrArg some (diskIOLabeled_eq ..),
    congrArg some (acceleratorLabeled_eq ..), congrArg some (acceleratorLabeled_eq ..),
    congrArg some (acceleratorLabeled_eq ..), ?_⟩
  simp only [List.mem_cons, List.mem_singleton, List.not_mem_nil, or_false]
  rintro m (rfl | rfl | rfl) spec <;>
    exact ⟨_, _, rfl, rfl, hasAccelerators_iff _ g stat _⟩

/-! ## The fallback key of unnamed partitions -/

theorem diskIO_unnamed_labels_iff (g : Globals) (c : ContainerInfo) (stat : ContainerStats)
    (i j : Nat) (p q : PerDiskStats)
    (hp : stat.DiskIo.IoServiceBytes[i]? = some p) (hq : stat.DiskIo.IoServiceBytes[j]? = some q)
    (hpd : p.Device = "") (hqd : q.Device = "") :
    (∃ get, MetricDiskIORead.GetLabeledMetric = some get ∧
      ((get g c stat)[i]?.map (·.Labels) = (get g c stat)[j]?.map (·.Labels)
        ↔ (p.Major, p.Minor) = (q.Major, q.Minor))) ∧
    (∃ get, MetricDiskIOWrite.GetLabeledMetric = some get ∧
      ((get g c stat)[i]?.map (·.Labels) = (get g c stat)[j]?.map (·.Labels)
        ↔ (p.Major, p.Minor) = (q.Major, q.Minor))) :=
  ⟨⟨_, rfl, diskIOLabeled_unnamed_labels_iff _ g stat _ hp hq hpd hqd⟩,
    ⟨_, rfl, diskIOLabeled_unnamed_labels_iff _ g stat _ hp hq hpd hqd⟩⟩

/-- Unnamed partitions `8:1` and `8:2` get different labels from `disk/io_read_bytes`. -/
theorem diskIO_unnamed_labels_8_1_8_2 :
    ∃ get, MetricDiskIORead.GetLabeledMetric = some get ∧
      (get Globals.sample {} { DiskIo := { IoServiceBytes := [{ Major := 8, Minor := 1 },
          { Major := 8, Minor := 2 }] } })[0]?.map (·.Labels)
        ≠ (get Globals.sample {} { DiskIo := { IoServiceBytes := [{ Major := 8, Minor := 1 },
          { Major := 8, Minor := 2 }] } })[1]?.map (·.Labels) := by
  obtain ⟨⟨get, hget, hiff⟩, -⟩ := diskIO_unnamed_labels_iff Globals.sample {}
    { DiskIo := { IoServiceBytes := [{ Major := 8, Minor := 1 }, { Major := 8, Minor := 2 }] } }
    0 1 { Major := 8, Minor := 1 } { Major := 8, Minor := 2 } rfl rfl rfl rfl
  exact ⟨get, hget, fun h => absurd (hiff.1 h) (by decide)⟩

end Heapster.Core

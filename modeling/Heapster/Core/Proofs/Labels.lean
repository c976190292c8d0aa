import Heapster.Core.Proofs.Labeled

set_option autoImplicit false

/-! # Which sub-resources the labeled metrics tell apart

Downstream, a labeled value is keyed by its metric name and its label set, so two records of one
snapshot that get the same label set are merged into one series. This file says, for every
labeled extractor, exactly when that happens: the emitted label sets are pairwise distinct iff
the records' identities are. Each case instantiates `gaugeEntries_labels_nodup` with the
injectivity of its label literal.

* A filesystem is identified by its device (`filesystemLabeled_labels_nodup`); the inode metrics
  see only the filesystems that report inodes.
* An accelerator is identified by its make, model and ID, provided the three label keys differ:
  its label set then reads them back (`acceleratorOfLabels_mapLit`), and injectivity follows.
* A disk partition is identified by `partitionID`: its device name, or its major and minor
  numbers when the name is empty. The label is the name or the `"%d:%d"` key, and these never
  meet as long as no device name contains a colon (`resourceIDKey_eq_iff`); a partition named
  `"8:1"` would share its label with the unnamed partition `8:1`. -/

namespace Heapster.Core

open Go Cadvisor

/-! ## Filesystems -/

section Filesystems

variable (name : String) (field : FsStats → UInt64) (g : Globals) (stat : ContainerStats)

theorem filesystemLabeled_labels_nodup :
    ((filesystemLabeled name field g stat).map (·.Labels)).Nodup
      ↔ (stat.Filesystem.map (·.Device)).Nodup := by
  rw [filesystemLabeled_eq]
  exact gaugeEntries_labels_nodup (resourceLabels_injective g) (fun fs : FsStats => fs.Device) _ _

theorem inodesLabeled_labels_nodup :
    ((inodesLabeled name field g stat).map (·.Labels)).Nodup
      ↔ ((stat.Filesystem.filter (·.HasInodes)).map (·.Device)).Nodup := by
  rw [inodesLabeled_eq]
  exact gaugeEntries_labels_nodup (resourceLabels_injective g) (fun fs : FsStats => fs.Device) _ _

end Filesystems

/-- The filesystem metrics never merge two filesystems: their label sets are pairwise distinct
    exactly when the devices are, over all filesystems for usage and limit, over those reporting
    inodes for the inode metrics. -/
theorem filesystem_labels_nodup (g : Globals) (c : ContainerInfo) (stat : ContainerStats) :
    (∀ m ∈ [MetricFilesystemUsage, MetricFilesystemLimit], ∃ get,
      m.GetLabeledMetric = some get ∧
      (((get g c stat).map (·.Labels)).Nodup ↔ (stat.Filesystem.map (·.Device)).Nodup)) ∧
    (∀ m ∈ [MetricFilesystemInodes, MetricFilesystemInodesFree], ∃ get,
      m.GetLabeledMetric = some get ∧
      (((get g c stat).map (·.Labels)).Nodup
        ↔ ((stat.Filesystem.filter (·.HasInodes)).map (·.Device)).Nodup)) := by
  simp only [List.mem_cons, List.mem_singleton, List.not_mem_nil, or_false]
  exact ⟨by rintro m (rfl | rfl) <;> exact ⟨_, rfl, filesystemLabeled_labels_nodup ..⟩,
    by rintro m (rfl | rfl) <;> exact ⟨_, rfl, inodesLabeled_labels_nodup ..⟩⟩

/-! ## Accelerators -/

/-- Read an accelerator's make, model and ID back from a label set. -/
def acceleratorOfLabels (g : Globals) (labels : StringMap String) : String × String × String :=
  ((labels.lookup g.LabelAcceleratorMake.Key).getD "",
    (labels.lookup g.LabelAcceleratorModel.Key).getD "",
    (labels.lookup g.LabelAcceleratorID.Key).getD "")

section Accelerators

variable (g : Globals)
  (hkeys :
    [g.LabelAcceleratorMake.Key, g.LabelAcceleratorModel.Key, g.LabelAcceleratorID.Key].Nodup)
include hkeys

/-- With three distinct keys, the accelerator label literal keeps all three values. -/
theorem acceleratorOfLabels_mapLit (make model id : String) :
    acceleratorOfLabels g (mapLit [(g.LabelAcceleratorMake.Key, make),
      (g.LabelAcceleratorModel.Key, model), (g.LabelAcceleratorID.Key, id)])
      = (make, model, id) := by
  have hk : ([(g.LabelAcceleratorMake.Key, make), (g.LabelAcceleratorModel.Key, model),
      (g.LabelAcceleratorID.Key, id)].map Prod.fst).Nodup := hkeys
  simp only [acceleratorOfLabels, lookup_mapLit_of_mem hk (.head _),
    lookup_mapLit_of_mem hk (.tail _ (.head _)),
    lookup_mapLit_of_mem hk (.tail _ (.tail _ (.head _))), Option.getD_some]

theorem acceleratorLabels_injective :
    Function.Injective fun t : String × String × String =>
      mapLit [(g.LabelAcceleratorMake.Key, t.1), (g.LabelAcceleratorModel.Key, t.2.1),
        (g.LabelAcceleratorID.Key, t.2.2)] :=
  Function.LeftInverse.injective fun t => acceleratorOfLabels_mapLit g hkeys t.1 t.2.1 t.2.2

variable (name : String) (field : AcceleratorStats → UInt64) (stat : ContainerStats)

/-- Every entry's label set reads back its own device's make, model and ID. -/
theorem acceleratorLabeled_readBack :
    (acceleratorLabeled name field g stat).map (fun lm => acceleratorOfLabels g lm.Labels)
      = stat.Accelerators.map fun ac => (ac.Make, ac.Model, ac.ID) := by
  rw [acceleratorLabeled_eq, List.map_map]
  exact List.map_congr_left fun ac _ => acceleratorOfLabels_mapLit g hkeys ac.Make ac.Model ac.ID

theorem acceleratorLabeled_labels_nodup :
    ((acceleratorLabeled name field g stat).map (·.Labels)).Nodup
      ↔ (stat.Accelerators.map fun ac => (ac.Make, ac.Model, ac.ID)).Nodup := by
  rw [acceleratorLabeled_eq]
  exact gaugeEntries_labels_nodup (acceleratorLabels_injective g hkeys)
    (fun ac : AcceleratorStats => (ac.Make, ac.Model, ac.ID)) _ _

end Accelerators

/-- When the make, model and ID label keys are distinct, each accelerator metric's entries read
    back, in order, the make, model and ID of the devices they come from, and their label sets are
    pairwise distinct exactly when the devices' (make, model, ID) triples are: two devices are
    never merged. -/
theorem accelerator_labels_readBack (g : Globals) (c : ContainerInfo) (stat : ContainerStats)
    (hkeys :
      [g.LabelAcceleratorMake.Key, g.LabelAcceleratorModel.Key, g.LabelAcceleratorID.Key].Nodup) :
    ∀ m ∈ [MetricAcceleratorMemoryTotal, MetricAcceleratorMemoryUsed,
      MetricAcceleratorDutyCycle],
      ∃ get, m.GetLabeledMetric = some get ∧
        (get g c stat).map (fun lm => acceleratorOfLabels g lm.Labels)
          = stat.Accelerators.map (fun ac => (ac.Make, ac.Model, ac.ID)) ∧
        (((get g c stat).map (·.Labels)).Nodup
          ↔ (stat.Accelerators.map fun ac => (ac.Make, ac.Model, ac.ID)).Nodup) := by
  simp only [List.mem_cons, List.mem_singleton, List.not_mem_nil, or_false]
  rintro m (rfl | rfl | rfl) <;>
    exact ⟨_, rfl, acceleratorLabeled_readBack g hkeys ..,
      acceleratorLabeled_labels_nodup g hkeys ..⟩

/-- Two GPUs of one make and model with IDs `0` and `1`: each label set reads back its own
    device, and the two label sets differ. -/
theorem accelerator_labels_readBack_two_gpus :
    ∃ get, MetricAcceleratorDutyCycle.GetLabeledMetric = some get ∧
      (get Globals.sample {} { Accelerators := [{ Make := "nvidia", Model := "t4", ID := "0" },
          { Make := "nvidia", Model := "t4", ID := "1" }] }).map
        (fun lm => acceleratorOfLabels Globals.sample lm.Labels)
        = [("nvidia", "t4", "0"), ("nvidia", "t4", "1")] ∧
      ((get Globals.sample {} { Accelerators := [{ Make := "nvidia", Model := "t4", ID := "0" },
          { Make := "nvidia", Model := "t4", ID := "1" }] }).map (·.Labels)).Nodup := by
  obtain ⟨get, hget, hread, hiff⟩ := accelerator_labels_readBack Globals.sample {}
    { Accelerators := [{ Make := "nvidia", Model := "t4", ID := "0" },
      { Make := "nvidia", Model := "t4", ID := "1" }] } (by decide) MetricAcceleratorDutyCycle
    (by simp)
  exact ⟨get, hget, hread, hiff.2 (by decide)⟩

/-! ## Disk partitions -/

/-- What identifies a disk partition: its device name, or its major and minor numbers when the
    name is empty. -/
def partitionID (p : PerDiskStats) : String ⊕ (UInt64 × UInt64) :=
  if p.Device = "" then .inr (p.Major, p.Minor) else .inl p.Device

/-- For device names without a colon, two partitions get the same key exactly when they have
    the same identity: a name is never a `"%d:%d"` key. -/
theorem resourceIDKey_eq_iff {p q : PerDiskStats} (hp : ':' ∉ p.Device.toList)
    (hq : ':' ∉ q.Device.toList) :
    resourceIDKey p = resourceIDKey q ↔ partitionID p = partitionID q := by
  unfold resourceIDKey partitionID
  by_cases hpd : p.Device = "" <;> by_cases hqd : q.Device = "" <;>
    simp [hpd, hqd, sprintfDColonD_inj]
  · exact sprintfDColonD_ne_of_colon_not_mem hq _ _
  · exact fun h => sprintfDColonD_ne_of_colon_not_mem hp _ _ h.symm

/-- For device names without a colon, the disk loop gives the partitions at `i` and `j` the same
    label set exactly when they have the same identity. -/
theorem diskIOLabeled_labels_iff (name op : String) (g : Globals) (stat : ContainerStats)
    {i j : Nat} {p q : PerDiskStats}
    (hp : stat.DiskIo.IoServiceBytes[i]? = some p) (hq : stat.DiskIo.IoServiceBytes[j]? = some q)
    (hpc : ':' ∉ p.Device.toList) (hqc : ':' ∉ q.Device.toList) :
    (diskIOLabeled name op g stat)[i]?.map (·.Labels)
        = (diskIOLabeled name op g stat)[j]?.map (·.Labels)
      ↔ partitionID p = partitionID q := by
  rw [diskIOLabeled_labels, diskIOLabeled_labels, hp, hq, Option.map_some', Option.map_some',
    Option.some_inj, mapLit_singleton_inj, resourceIDKey_eq_iff hpc hqc]

theorem resourceIDKeys_nodup_iff (ps : List PerDiskStats)
    (h : ∀ p ∈ ps, ':' ∉ p.Device.toList) :
    (ps.map resourceIDKey).Nodup ↔ (ps.map partitionID).Nodup := by
  rw [List.Nodup, List.Nodup, List.pairwise_map, List.pairwise_map]
  exact List.Pairwise.iff_of_mem fun hp hq => not_congr (resourceIDKey_eq_iff (h _ hp) (h _ hq))

/-- When no device name contains a colon, the disk I/O metrics give two partitions the same label
    set exactly when the partitions have the same identity (both named alike, or both unnamed
    with the same major and minor numbers), and so emit pairwise distinct label sets exactly when
    the partitions' identities are pairwise distinct. -/
theorem diskIO_labels_partitionID (g : Globals) (c : ContainerInfo) (stat : ContainerStats)
    (h : ∀ p ∈ stat.DiskIo.IoServiceBytes, ':' ∉ p.Device.toList) :
    ∀ m ∈ [MetricDiskIORead, MetricDiskIOWrite], ∃ get, m.GetLabeledMetric = some get ∧
      (∀ (i j : Nat) (p q : PerDiskStats), stat.DiskIo.IoServiceBytes[i]? = some p →
        stat.DiskIo.IoServiceBytes[j]? = some q →
        ((get g c stat)[i]?.map (·.Labels) = (get g c stat)[j]?.map (·.Labels)
          ↔ partitionID p = partitionID q)) ∧
      (((get g c stat).map (·.Labels)).Nodup
        ↔ (stat.DiskIo.IoServiceBytes.map partitionID).Nodup) := by
  simp only [List.mem_cons, List.mem_singleton, List.not_mem_nil, or_false]
  rintro m (rfl | rfl) <;> exact ⟨_, rfl, fun _ _ p q hp hq => diskIOLabeled_labels_iff _ _ g stat
    hp hq (h p (List.getElem?_mem hp)) (h q (List.getElem?_mem hq)),
    (diskIOLabeled_labels_nodup _ g stat _).trans (resourceIDKeys_nodup_iff _ h)⟩

/-- A partition named `sda1` and the unnamed partitions `8:1` and `8:2` get three label sets. -/
theorem diskIO_labels_partitionID_mixed :
    ∃ get, MetricDiskIORead.GetLabeledMetric = some get ∧
      ((get Globals.sample {} { DiskIo := { IoServiceBytes :=
          [{ Device := "sda1", Major := 8, Minor := 1 }, { Major := 8, Minor := 1 },
            { Major := 8, Minor := 2 }] } }).map (·.Labels)).Nodup := by
  obtain ⟨get, hget, -, hiff⟩ := diskIO_labels_partitionID Globals.sample {}
    { DiskIo := { IoServiceBytes := [{ Device := "sda1", Major := 8, Minor := 1 },
      { Major := 8, Minor := 1 }, { Major := 8, Minor := 2 }] } } (by decide) MetricDiskIORead
    (by simp)
  exact ⟨get, hget, hiff.2 (by decide)⟩

end Heapster.Core

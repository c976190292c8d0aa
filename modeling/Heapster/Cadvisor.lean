import Heapster.Go.Basic

set_option autoImplicit false

/-! # The cadvisor records the extractors read

`metrics.go` reads a container's `cadvisor.ContainerSpec`, its `ContainerInfo` and one
`ContainerStats` snapshot (package `github.com/google/cadvisor/info/v1`). Only the fields the
extractors read are modelled, under cadvisor's names and nesting, so that a field path such as
`stat.Memory.ContainerData.Pgfault` reads the same here. Every field has Go's zero value as its
default, so a snapshot is written with only the fields that matter. -/

namespace Cadvisor

open Go

/-- The capability flags and creation time of a container. -/
structure ContainerSpec where
  CreationTime : Time := {}
  HasCpu : Bool := false
  HasMemory : Bool := false
  HasNetwork : Bool := false
  HasFilesystem : Bool := false
  HasDiskIo : Bool := false
deriving DecidableEq, Repr

/-- A monitored entity. `metrics.IsNode` inspects it (see `Heapster.Core.Globals`). -/
structure ContainerInfo where
  Spec : ContainerSpec := {}
deriving DecidableEq, Repr

structure CpuUsage where
  Total : UInt64 := 0
deriving DecidableEq, Repr

structure CpuStats where
  Usage : CpuUsage := {}
deriving DecidableEq, Repr

structure MemoryStatsMemoryData where
  Pgfault : UInt64 := 0
  Pgmajfault : UInt64 := 0
deriving DecidableEq, Repr

structure MemoryStats where
  Usage : UInt64 := 0
  Cache : UInt64 := 0
  RSS : UInt64 := 0
  WorkingSet : UInt64 := 0
  ContainerData : MemoryStatsMemoryData := {}
deriving DecidableEq, Repr

/-- The counters of one network interface. -/
structure InterfaceStats where
  RxBytes : UInt64 := 0
  RxErrors : UInt64 := 0
  TxBytes : UInt64 := 0
  TxErrors : UInt64 := 0
deriving DecidableEq, Repr

structure NetworkStats where
  Interfaces : List InterfaceStats := []
deriving DecidableEq, Repr

/-- One filesystem: its device, sizes, and inode counts when it reports them. -/
structure FsStats where
  Device : String := ""
  Limit : UInt64 := 0
  Usage : UInt64 := 0
  HasInodes : Bool := false
  Inodes : UInt64 := 0
  InodesFree : UInt64 := 0
deriving DecidableEq, Repr

/-- One disk partition: its device name (possibly empty), its major and minor numbers, and a
    byte counter per operation name (`"Read"`, `"Write"`, …). -/
structure PerDiskStats where
  Device : String := ""
  Major : UInt64 := 0
  Minor : UInt64 := 0
  Stats : StringMap UInt64 := ∅
deriving DecidableEq

structure DiskIoStats where
  IoServiceBytes : List PerDiskStats := []
deriving DecidableEq

/-- One accelerator device. -/
structure AcceleratorStats where
  Make : String := ""
  Model : String := ""
  ID : String := ""
  MemoryTotal : UInt64 := 0
  MemoryUsed : UInt64 := 0
  DutyCycle : UInt64 := 0
deriving DecidableEq, Repr

/-- One usage snapshot of a container. -/
structure ContainerStats where
  Cpu : CpuStats := {}
  DiskIo : DiskIoStats := {}
  Memory : MemoryStats := {}
  Network : NetworkStats := {}
  Filesystem : List FsStats := []
  Accelerators : List AcceleratorStats := []
deriving DecidableEq

end Cadvisor

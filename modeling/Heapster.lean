import Heapster.Go.Basic
import Heapster.Go.Fmt
import Heapster.Cadvisor
import Heapster.Core.Types
import Heapster.Core.Metrics.Scalar
import Heapster.Core.Metrics.Derived
import Heapster.Core.Metrics.Labeled
import Heapster.Core.Metrics.Registry
import Heapster.Core.Proofs.Scalar
import Heapster.Core.Proofs.Labeled
import Heapster.Core.Proofs.Labels
import Heapster.Core.Proofs.Family
import Heapster.Core.Proofs.Descriptor

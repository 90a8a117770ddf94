import SwapPrefetch.AsyncSwapin
import SwapPrefetch.Conservation
import SwapPrefetch.Contents
import SwapPrefetch.FifoRuns
import SwapPrefetch.FirstTouch
import SwapPrefetch.FreeRuns
import SwapPrefetch.IoUring
import SwapPrefetch.Mappings
import SwapPrefetch.PageClaims
import SwapPrefetch.PointerCodec
import SwapPrefetch.PointerInverse
import SwapPrefetch.PrefetchBuffers
import SwapPrefetch.PrefetchHit
import SwapPrefetch.RdmaBlocks
import SwapPrefetch.RdmaIntegrity
import SwapPrefetch.RdmaOutcome
import SwapPrefetch.RdmaRestore
import SwapPrefetch.RegionKeys
import SwapPrefetch.Starvation
import SwapPrefetch.RegionMirror
import SwapPrefetch.StorageRuns
import SwapPrefetch.TwoAllocators
import SwapPrefetch.VectorEviction
import SwapPrefetch.Queues
import SwapPrefetch.ColdScans
import SwapPrefetch.PageRank
import SwapPrefetch.FrameSearch
import SwapPrefetch.Release
import SwapPrefetch.PrefetchCopies
import SwapPrefetch.FaultyWrites
import SwapPrefetch.RejectedWrites
import SwapPrefetch.PrefetchedContents
import SwapPrefetch.Coherence
import SwapPrefetch.WrappedSizes
import SwapPrefetch.BoundedCopies
import SwapPrefetch.MachineRuns
import SwapPrefetch.ThreadLists

import Metaobject.Class.Inspect
import Metaobject.Log.Setup
import Metaobject.Proofs.Access
import Metaobject.Proofs.Building
import Metaobject.Proofs.Cache.Agreement
import Metaobject.Proofs.Cache.Fallback
import Metaobject.Proofs.Cache.Ledger
import Metaobject.Proofs.Cache.Making
import Metaobject.Proofs.Cache.Sharing
import Metaobject.Proofs.Cache.Transparency
import Metaobject.Proofs.Dispatch
import Metaobject.Proofs.Heap.Construction
import Metaobject.Proofs.Heap.Handlers
import Metaobject.Proofs.Heap.Invariants
import Metaobject.Proofs.Heap.Moments
import Metaobject.Proofs.Heap.Operations
import Metaobject.Proofs.Heap.Soundness
import Metaobject.Proofs.Heap.Trace
import Metaobject.Proofs.Hierarchy
import Metaobject.Proofs.Interfaces
import Metaobject.Proofs.Marshaling
import Metaobject.Proofs.Outcome
import Metaobject.Proofs.Overloads
import Metaobject.Proofs.Precedence
import Metaobject.Proofs.Proxy.Allocation
import Metaobject.Proofs.Proxy.Atomicity
import Metaobject.Proofs.Proxy.Binding
import Metaobject.Proofs.Proxy.Compilation
import Metaobject.Proofs.Proxy.Descriptions
import Metaobject.Proofs.Proxy.Exclusion
import Metaobject.Proofs.Proxy.Factory
import Metaobject.Proofs.Proxy.Faults
import Metaobject.Proofs.Proxy.Forwarding
import Metaobject.Proofs.Proxy.Freshness
import Metaobject.Proofs.Proxy.Generation
import Metaobject.Proofs.Proxy.Growth
import Metaobject.Proofs.Proxy.Namesakes
import Metaobject.Proofs.Proxy.Naming
import Metaobject.Proofs.Proxy.Selection
import Metaobject.Proofs.Proxy.Verdicts
import Metaobject.Proofs.Resolution
import Metaobject.Proofs.Session.Proxies
import Metaobject.Proofs.Session.Soundness
import Metaobject.Proofs.Shadowing
import Metaobject.Proofs.Storage
import Metaobject.Proofs.Subtyping
import Metaobject.Proofs.Tiers
import Metaobject.Proofs.TypeNames
import Metaobject.Session

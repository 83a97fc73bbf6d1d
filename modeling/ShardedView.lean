import ShardedView.Cluster
import ShardedView.Gossip.Wire
import ShardedView.Main
import ShardedView.Proofs.Client.Coverage
import ShardedView.Proofs.Client.Effort
import ShardedView.Proofs.Client.Fallback
import ShardedView.Proofs.Client.Recovery
import ShardedView.Proofs.Client.Scan
import ShardedView.Proofs.Contents.Coherence
import ShardedView.Proofs.Contents.Course
import ShardedView.Proofs.Contents.Locality
import ShardedView.Proofs.Contents.PointRead
import ShardedView.Proofs.Gossip.Convergence
import ShardedView.Proofs.Gossip.Incarnation
import ShardedView.Proofs.Gossip.Refutation
import ShardedView.Proofs.Gossip.Return
import ShardedView.Proofs.Gossip.Revival
import ShardedView.Proofs.Gossip.Silence
import ShardedView.Proofs.Gossip.Standing
import ShardedView.Proofs.Gossip.Wire
import ShardedView.Proofs.Log.Loading
import ShardedView.Proofs.Partition.Balance
import ShardedView.Proofs.Partition.Listing
import ShardedView.Proofs.Partition.Murmur
import ShardedView.Proofs.Query.Divergence
import ShardedView.Proofs.Query.Retry
import ShardedView.Proofs.Query.Served
import ShardedView.Proofs.Query.Staleness
import ShardedView.Proofs.Replica.Convergence
import ShardedView.Proofs.Replica.Expiry
import ShardedView.Proofs.Replica.Readiness
import ShardedView.Proofs.Replica.Standstill
import ShardedView.Proofs.Replica.Sweep
import ShardedView.Proofs.Topic.Spelling
import ShardedView.Proofs.Topic.Writable

import Concord.Executor.Script
import Concord.Main
import Concord.Proofs.Accounting.Settled
import Concord.Proofs.Bounds
import Concord.Proofs.Bridge.Memory
import Concord.Proofs.Bridge.Replies
import Concord.Proofs.Coverage
import Concord.Proofs.Database
import Concord.Proofs.Delivery
import Concord.Proofs.Discipline
import Concord.Proofs.Discovery
import Concord.Proofs.Dispatch
import Concord.Proofs.Dump
import Concord.Proofs.Encoding
import Concord.Proofs.Ingest
import Concord.Proofs.Loosening
import Concord.Proofs.Monitor.Escalation
import Concord.Proofs.Monitor.Extraction
import Concord.Proofs.Monitor.Movements
import Concord.Proofs.Monitor.Renewal
import Concord.Proofs.Obstruction
import Concord.Proofs.Polls
import Concord.Proofs.Recognition
import Concord.Proofs.Retry.Delays
import Concord.Proofs.Returned
import Concord.Proofs.Seed
import Concord.Proofs.Store.Bridged
import Concord.Proofs.Store.Census
import Concord.Proofs.Store.Registers
import Concord.Retry.Clock

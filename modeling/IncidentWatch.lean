import IncidentWatch.Api.Route
import IncidentWatch.Proofs.Alert.Cadence
import IncidentWatch.Proofs.Alert.Resolution
import IncidentWatch.Proofs.Batch.Outcome
import IncidentWatch.Proofs.Batch.Splitting
import IncidentWatch.Proofs.Cluster.Rollout
import IncidentWatch.Proofs.Cluster.Siblings
import IncidentWatch.Proofs.Filing.LastSeen
import IncidentWatch.Proofs.Filing.Origin
import IncidentWatch.Proofs.Filing.Severity
import IncidentWatch.Proofs.Health.Streaks
import IncidentWatch.Proofs.Incident.Reordering
import IncidentWatch.Proofs.Interleaving.Fairness
import IncidentWatch.Proofs.Json.RoundTrip
import IncidentWatch.Proofs.Ledger.Balance
import IncidentWatch.Proofs.Ledger.Turnover
import IncidentWatch.Proofs.Listing.Fetching
import IncidentWatch.Proofs.Listing.Requests
import IncidentWatch.Proofs.Lock.Traffic
import IncidentWatch.Proofs.Recovery.Count
import IncidentWatch.Proofs.Rule.Causes
import IncidentWatch.Proofs.Rule.Registration
import IncidentWatch.Proofs.Sequential.Redelivery
import IncidentWatch.Proofs.Sequential.Sweep
import IncidentWatch.Proofs.Simulation.Loop
import IncidentWatch.Proofs.Store.Numbering
import IncidentWatch.Rule.Book
import IncidentWatch.Settings.Environment
import IncidentWatch.Simulation.Loop
import IncidentWatch.Simulation.Pool

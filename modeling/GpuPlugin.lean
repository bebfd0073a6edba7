import GpuPlugin.Breaker
import GpuPlugin.Main
import GpuPlugin.Proofs.Session.Health
import GpuPlugin.Proofs.Host.Removal
import GpuPlugin.Proofs.Plugin.Lifecycle
import GpuPlugin.Proofs.Allocation.Preference
import GpuPlugin.Proofs.Streams.Delivery
import GpuPlugin.Proofs.Nvml.Condemned
import GpuPlugin.Proofs.Restarts.Rounds
import GpuPlugin.Proofs.Restarts.Attended
import GpuPlugin.Wire.Messages
import GpuPlugin.Proofs.Inventory.Partition
import GpuPlugin.Proofs.Allocation.Refusal
import GpuPlugin.Proofs.Plugin.Options
import GpuPlugin.Proofs.Configuration.Endpoint
import GpuPlugin.Proofs.HandOver.Tasks
import GpuPlugin.Proofs.HandOver.Sessions
import GpuPlugin.Proofs.HandOver.Progress
import GpuPlugin.Proofs.HandOver.Life
import GpuPlugin.Proofs.Ranking.Sharing
import GpuPlugin.Proofs.Configuration.Precedence
import GpuPlugin.Proofs.Wire.Layout
import GpuPlugin.Proofs.Labels.Union
import GpuPlugin.Proofs.Wire.Kinds
import GpuPlugin.Proofs.Wire.Exchange
import GpuPlugin.Proofs.Text.Order
import GpuPlugin.Proofs.Repetition
import GpuPlugin.Proofs.Ranking.Contract
import GpuPlugin.Proofs.Ranking.Redundancy
import GpuPlugin.Proofs.Ranking.Spread
import GpuPlugin.Proofs.Allocation.Devices
import GpuPlugin.Proofs.Allocation.Indifference
import GpuPlugin.Proofs.Policy.Choice
import GpuPlugin.Proofs.Ranking.Whole
import GpuPlugin.Proofs.Allocation.Agreement
import GpuPlugin.Proofs.Breaker.Count
import GpuPlugin.Proofs.Text.Word
import GpuPlugin.Proofs.Nvml.Checks
import GpuPlugin.Proofs.Replica.Cutting
import GpuPlugin.Proofs.Nvml.Queries
import GpuPlugin.Proofs.Path.Parent
import GpuPlugin.Proofs.LogFile.Parts
import GpuPlugin.Proofs.Streams.Life
import GpuPlugin.Proofs.Host.Walk
import GpuPlugin.Proofs.Restarts.Notice

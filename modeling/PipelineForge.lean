import PipelineForge.Fault
import PipelineForge.Axis.Odometer
import PipelineForge.Blueprint.PushRange
import PipelineForge.Error
import PipelineForge.Settings
import PipelineForge.Blueprint.Basic
import PipelineForge.Blueprint.Edit
import PipelineForge.Blueprint.Fingerprint
import PipelineForge.Cache.Basic
import PipelineForge.Cache.Registry
import PipelineForge.Device.Basic
import PipelineForge.Characteristic.Basic
import PipelineForge.Characteristic.Scripted
import PipelineForge.Characteristic.Standard
import PipelineForge.Log.Level
import PipelineForge.Tasks.Bookings
import PipelineForge.Tasks.Guards
import PipelineForge.Tasks.Control
import PipelineForge.Tasks.Pool
import PipelineForge.Tasks.Scripted
import PipelineForge.Compiler.Basic
import PipelineForge.Compiler.Instances
import PipelineForge.Factory.Basic
import PipelineForge.Factory.Work
import PipelineForge.Hub.Basic
import PipelineForge.Hub.Plant
import PipelineForge.Hub.Sentinel
import PipelineForge.Pattern.Basic
import PipelineForge.Log.Escapes
import PipelineForge.Log.Filter
import PipelineForge.Log.Logger
import PipelineForge.Log.Masked
import PipelineForge.Proofs.Axis.Enumeration
import PipelineForge.Proofs.Shelf
import PipelineForge.Proofs.Cache.Stored
import PipelineForge.Proofs.Hub.Handoffs
import PipelineForge.Proofs.Hub.Ownership
import PipelineForge.Proofs.Hub.Shutdown
import PipelineForge.Proofs.Tasks.Wakeups
import PipelineForge.Proofs.Axis.Counting
import PipelineForge.Proofs.Axis.Fields
import PipelineForge.Proofs.Blueprint.Reading
import PipelineForge.Proofs.Tasks.Endings
import PipelineForge.Proofs.Hub.Histories
import PipelineForge.Proofs.Hub.Deliveries
import PipelineForge.Proofs.Factory.Farewells
import PipelineForge.Proofs.Hub.Settlement
import PipelineForge.Proofs.Hub.Links
import PipelineForge.Proofs.Tasks.Alerts
import PipelineForge.Proofs.Hub.Posts
import PipelineForge.Proofs.Hub.Vigilance
import PipelineForge.Proofs.Factory.Courses
import PipelineForge.Proofs.Tasks.Requests
import PipelineForge.Proofs.Factory.Adherence
import PipelineForge.Proofs.Hub.Arrivals
import PipelineForge.Proofs.Hub.Tallies
import PipelineForge.Proofs.Hub.Statuses
import PipelineForge.Proofs.Hub.Attendance
import PipelineForge.Proofs.Hub.Exits
import PipelineForge.Proofs.Hub.Bookkeeping
import PipelineForge.Proofs.Factory.Gathering
import PipelineForge.Proofs.Hub.Duplicates
import PipelineForge.Proofs.Hub.Erasure
import PipelineForge.Proofs.Cache.Views
import PipelineForge.Proofs.Compiler.Families
import PipelineForge.Proofs.Factory.Likeness
import PipelineForge.Proofs.Hub.Isolation
import PipelineForge.Proofs.Blueprint.PushRanges
import PipelineForge.Proofs.Tasks.Aborts
import PipelineForge.Proofs.Tasks.Loops
import PipelineForge.Proofs.Factory.Trails
import PipelineForge.Proofs.Factory.Reports
import PipelineForge.Proofs.Hub.Reports
import PipelineForge.Proofs.Axis.Ranking
import PipelineForge.Proofs.Axis.Products
import PipelineForge.Proofs.Device.Translation
import PipelineForge.Proofs.Characteristic.Fills
import PipelineForge.Proofs.Factory.Generation
import PipelineForge.Proofs.Hub.Generation
import PipelineForge.Proofs.Cache.Holders
import PipelineForge.Proofs.Cache.Clearance
import PipelineForge.Proofs.Cache.Handles
import PipelineForge.Proofs.Factory.Marks
import PipelineForge.Proofs.Factory.Reckoning
import PipelineForge.Proofs.Hub.Files
import PipelineForge.Proofs.Hub.Counters
import PipelineForge.Proofs.Blueprint.Constants
import PipelineForge.Proofs.Characteristic.Independence
import PipelineForge.Proofs.Blueprint.LastWrites
import PipelineForge.Proofs.Axis.Inlays
import PipelineForge.Proofs.Hub.SingleAxes
import PipelineForge.Proofs.Hub.Refusals
import PipelineForge.Proofs.Hub.Acquisitions
import PipelineForge.Proofs.Hub.Custody
import PipelineForge.Proofs.Axis.Widths
import PipelineForge.Proofs.Tasks.Guards

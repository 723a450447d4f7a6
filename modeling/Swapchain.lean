import Swapchain.Scenario
import Swapchain.Settings.Environment
import Swapchain.Settings.File
import Swapchain.Proofs.Operations
import Swapchain.Proofs.Runs
import Swapchain.Proofs.Table
import Swapchain.Proofs.Bounds
import Swapchain.Proofs.Consistency
import Swapchain.Proofs.Custody
import Swapchain.Proofs.Descriptors
import Swapchain.Proofs.HandOff
import Swapchain.Proofs.History
import Swapchain.Proofs.Rollback
import Swapchain.Proofs.Sizes
import Swapchain.Proofs.Freshness
import Swapchain.Proofs.Age
import Swapchain.Proofs.Configuration
import Swapchain.Proofs.Damage
import Swapchain.Proofs.Inverse
import Swapchain.Proofs.Hints
import Swapchain.Proofs.Stages
import Swapchain.Proofs.Numbering
import Swapchain.Proofs.IdleAges
import Swapchain.Proofs.Contents
import Swapchain.Proofs.Requests
import Swapchain.Proofs.Retries
import Swapchain.Proofs.Adoption
import Swapchain.Proofs.Eviction
import Swapchain.Proofs.Emptied
import Swapchain.Proofs.Retention
import Swapchain.Proofs.Unused
import Swapchain.Proofs.Resizing
import Swapchain.Proofs.Teardown
import Swapchain.Proofs.Objections
import Swapchain.Proofs.Creation
import Swapchain.Proofs.BufferCount
import Swapchain.Proofs.Placement
import Swapchain.Proofs.Rounding
import Swapchain.Proofs.Pixels
import Swapchain.Proofs.PhysicalDamage
import Swapchain.Proofs.NormalForm
import Swapchain.Proofs.Overrides
import Swapchain.Proofs.Documents
import Swapchain.Proofs.Schema

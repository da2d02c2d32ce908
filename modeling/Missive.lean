import Missive.Catalog.Yaml
import Missive.Manager
import Missive.Store.Probe
import Missive.Template.Json
import Missive.Tenant.Json
import Missive.Proofs.Listing
import Missive.Proofs.Store.Ledger
import Missive.Proofs.Store.Agreement
import Missive.Proofs.Store.Tables
import Missive.Proofs.Store.Footprint
import Missive.Proofs.Identifier.Characters
import Missive.Proofs.Catalog
import Missive.Proofs.Layers.Interchange
import Missive.Proofs.Layers.Footprint
import Missive.Proofs.Layers.Evaluation
import Missive.Proofs.Layers.Consistency
import Missive.Proofs.Service.Transparency
import Missive.Proofs.Service.Race
import Missive.Proofs.Service.Footprint
import Missive.Proofs.Service.Plain
import Missive.Proofs.Service.Separation
import Missive.Proofs.Service.Evaluation
import Missive.Proofs.Service.Upserting
import Missive.Proofs.Service.Deleting
import Missive.Proofs.Tenant
import Missive.Proofs.Tenant.Remembering
import Missive.Proofs.Layers.Usable
import Missive.Proofs.Layers.Registering
import Missive.Proofs.Layers.Storing
import Missive.Proofs.Service.Failing
import Missive.Proofs.Service.Resuming
import Missive.Proofs.Service.Copying
import Missive.Proofs.Service.Refusal
import Missive.Proofs.Service.Usable
import Missive.Proofs.Layers.Tiered
import Missive.Proofs.Service.Rounds
import Missive.Proofs.Caches.History
import Missive.Proofs.Layers.Tiling
import Missive.Proofs.Merge.Firsts
import Missive.Proofs.Catalog.Building
import Missive.Proofs.Store.Writing
import Missive.Proofs.Json.ReadingBack
import Missive.Proofs.Locale
import Missive.Proofs.Identifier.Domain.Labels
import Missive.Proofs.Scenario
import Missive.Proofs.Store.Scans

import BlobCatalog.Main
import BlobCatalog.Proofs.FixedDigits
import BlobCatalog.Proofs.UuidText
import BlobCatalog.Proofs.TimeSpelling
import BlobCatalog.Proofs.IsoText
import BlobCatalog.Proofs.StoredRow
import BlobCatalog.Proofs.StoreRoundTrip
import BlobCatalog.Proofs.StoredTime
import BlobCatalog.Proofs.PropertyRoundTrip
import BlobCatalog.Proofs.PropertyReading
import BlobCatalog.Proofs.PropertyNormalForm
import BlobCatalog.Proofs.PropertyMatching
import BlobCatalog.Proofs.PropertyOrder
import BlobCatalog.Proofs.UpdateOutcome
import BlobCatalog.Proofs.UpdateAtomicity
import BlobCatalog.Proofs.TypedLifecycle
import BlobCatalog.Proofs.RecordRun
import BlobCatalog.Proofs.MoveInPlace
import BlobCatalog.Proofs.CatalogService
import BlobCatalog.Proofs.ConcurrentRequests
import BlobCatalog.Proofs.PrintedLine
import BlobCatalog.Proofs.PreparedWorkspace
import BlobCatalog.Proofs.LifecycleMachine
import BlobCatalog.Proofs.LedgerTable
import BlobCatalog.Proofs.CommandRefinement
import BlobCatalog.Proofs.SharedTable
import BlobCatalog.Proofs.LostUpdate
import BlobCatalog.Proofs.StatusOrder
import BlobCatalog.Proofs.ReloadedRun
import BlobCatalog.Proofs.StoreCalls
import BlobCatalog.Proofs.ReadableTable
import BlobCatalog.Proofs.Isolation
import BlobCatalog.Proofs.CommandFrame
import BlobCatalog.Proofs.RowReading
import BlobCatalog.Proofs.UpdateAfterFetch
import BlobCatalog.Proofs.UpdatedRow
import BlobCatalog.Proofs.ReadOwnUpdate
import BlobCatalog.Proofs.AssignedStatus
import BlobCatalog.Proofs.UuidSpelling
import BlobCatalog.Proofs.ObjectPlace
import BlobCatalog.Proofs.JsonText
import BlobCatalog.Proofs.PrintedRecord
import BlobCatalog.Proofs.CommandTotality

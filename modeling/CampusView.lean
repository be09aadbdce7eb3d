import CampusView.Api
import CampusView.Fixtures
import CampusView.Http.Condition
import CampusView.Proofs.AffiliationEntries
import CampusView.Proofs.AffiliationRoles
import CampusView.Proofs.AnonymousRequests
import CampusView.Proofs.Authorship
import CampusView.Proofs.BlankIds
import CampusView.Proofs.CacheCodecs
import CampusView.Proofs.CacheHistory
import CampusView.Proofs.CacheRefinement
import CampusView.Proofs.ConcurrentWrites
import CampusView.Proofs.ConditionalRequests
import CampusView.Proofs.DelegateAccess
import CampusView.Proofs.DirectoryRoles
import CampusView.Proofs.EndedApplications
import CampusView.Proofs.FailedWrites
import CampusView.Proofs.Failures
import CampusView.Proofs.FieldSources
import CampusView.Proofs.Forgetting
import CampusView.Proofs.ForwardedSession
import CampusView.Proofs.HeldApplicants
import CampusView.Proofs.MendedPages
import CampusView.Proofs.ModernRecord
import CampusView.Proofs.RecordedActors
import CampusView.Proofs.Redaction
import CampusView.Proofs.RolePrecedence
import CampusView.Proofs.StoreAnswers
import CampusView.Proofs.StudentEntries
import CampusView.Proofs.Timestamps
import CampusView.Proofs.ViewClassification
import CampusView.Proofs.ViewIsolation
import CampusView.ServerConfig

import OncallGateway.StagedAbort
import OncallGateway.ActiveToken
import OncallGateway.AuthenticationEvidence
import OncallGateway.DeliveryIdentity
import OncallGateway.ConnectionCustody
import OncallGateway.HttpMetrics
import OncallGateway.AuthenticationProgress
import OncallGateway.ResolverRuns
import OncallGateway.AcceptanceProgress
import OncallGateway.StartupRuns

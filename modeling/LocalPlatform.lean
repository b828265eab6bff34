import LocalPlatform.Idp.AudienceTheorems
import LocalPlatform.Idp.DeletionTheorems
import LocalPlatform.Idp.ExpiryTheorems
import LocalPlatform.Idp.JwksTheorems
import LocalPlatform.Idp.KeyServiceTheorems
import LocalPlatform.Idp.LifetimeTheorems
import LocalPlatform.Idp.NonceTheorems
import LocalPlatform.Idp.PrincipalTheorems
import LocalPlatform.Idp.ReregistrationTheorems
import LocalPlatform.Idp.Resolution
import LocalPlatform.Idp.SecretTheorems
import LocalPlatform.Idp.SigningTheorems
import LocalPlatform.Idp.TokenShapeTheorems
import LocalPlatform.Oidc.CredentialTheorems
import LocalPlatform.Oidc.Discovery
import LocalPlatform.Oidc.PkceTheorems
import LocalPlatform.Oidc.Refresh
import LocalPlatform.Management.AdmissionTheorems
import LocalPlatform.Management.ConflictTheorems
import LocalPlatform.Management.PayloadTheorems
import LocalPlatform.Management.PermissionTheorems
import LocalPlatform.Management.RestrictionTheorems
import LocalPlatform.Storage.ConvergenceTheorems
import LocalPlatform.Storage.Frames
import LocalPlatform.Storage.HandleTheorems
import LocalPlatform.Storage.PathTheorems
import LocalPlatform.Storage.ServiceTokens
import LocalPlatform.Storage.ServiceUrls
import LocalPlatform.Storage.SocketSafety
import LocalPlatform.Storage.SocketTheorems
import LocalPlatform.Bootstrap.HandlerTheorems
import LocalPlatform.Bootstrap.SetupTheorems
import LocalPlatform.Installation.RestartTheorems
import LocalPlatform.Idp.DerivationTheorems

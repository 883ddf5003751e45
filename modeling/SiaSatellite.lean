import SiaSatellite.Spec.Types
import SiaSatellite.Spec.Cache
import SiaSatellite.Spec.Accept
import SiaSatellite.Spec.Encoding
import SiaSatellite.Spec.Relay
import SiaSatellite.Spec.Convert
import SiaSatellite.Spec.Provider
import SiaSatellite.Spec.CoreEncoding
import SiaSatellite.Spec.Wallet
import SiaSatellite.Spec.Sign
import SiaSatellite.Spec.Events
import SiaSatellite.Spec.Annotate
import SiaSatellite.Spec.Portal
import SiaSatellite.Spec.PortalPage
import SiaSatellite.Spec.Api
import SiaSatellite.Proof.Cache
import SiaSatellite.Proof.Pool
import SiaSatellite.Proof.AcceptStep
import SiaSatellite.Proof.Accounting
import SiaSatellite.Proof.Ownership
import SiaSatellite.Proof.Fees
import SiaSatellite.Proof.Resubmit
import SiaSatellite.Proof.Encoding
import SiaSatellite.Proof.Relay
import SiaSatellite.Proof.Convert
import SiaSatellite.Proof.Provider
import SiaSatellite.Proof.CoreEncoding
import SiaSatellite.Proof.Wallet
import SiaSatellite.Proof.WalletRuns
import SiaSatellite.Proof.Release
import SiaSatellite.Proof.Balance
import SiaSatellite.Proof.Sign
import SiaSatellite.Proof.Events
import SiaSatellite.Proof.Annotate
import SiaSatellite.Proof.Portal
import SiaSatellite.Proof.PortalPage

import Hostapd.Ap.PmksaConsistency
import Hostapd.Ap.StaTable
import Hostapd.Ap.TlsRandoms
import Hostapd.EapServer.PendingMethod
import Hostapd.EapTls.Reassembly
import Hostapd.EapTls.Transfer
import Hostapd.EapolAuth.PortStatus
import Hostapd.Erp.Reauthentication
import Hostapd.Ft.KeyFreshness
import Hostapd.Ft.KeyInstallation
import Hostapd.Pae.Election
import Hostapd.Pae.FrameSafety
import Hostapd.Pae.KeyNames
import Hostapd.Pae.ReplayProtection
import Hostapd.Pae.SakAgreement
import Hostapd.Pae.SakDistribution
import Hostapd.Radius.ClientQueue
import Hostapd.Radius.RoundTrip
import Hostapd.RsnSupp.Authenticity
import Hostapd.RsnSupp.GroupKeys
import Hostapd.RsnSupp.PairwiseKeys
import Hostapd.Sae.Acceptance
import Hostapd.Tls.ChainValidation
import Hostapd.Tls.ClientKeyExchange
import Hostapd.Tls.RecordStream
import Hostapd.Utils.Base64
import Hostapd.Utils.Escape
import Hostapd.Wpa.KeyDataTrip
import Hostapd.WpaSupplicant.BssTable
import Hostapd.Wps.PbcOverlap
import Hostapd.Wps.PinLockout
import Hostapd.Wps.PinUse

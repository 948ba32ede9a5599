import Hostapd.Wps.EnrolleeEvidence
import Hostapd.Wps.RegistrarEvidence

/-!
# Wi-Fi Protected Setup: secrets are given for proof of the device password

In every run of a session, whatever messages come in, each entry of the history has its reason: R-S2
follows a matching E-S1, the credentials of M8 a matching E-S2, E-S1 a matching R-S1, E-S2 and the
settings of an access point a matching R-S2, all of them in messages with a valid Authenticator, and
the credentials of M2 go to the public key whose hash came over NFC.

A credential that comes from the peer reaches `cred_cb` only out of opened Encrypted Settings. The
Registrar hands over credentials of its own when WSC_Done ends the session
(`credential_without_settings`).
-/

namespace Hostapd.Wps

open History Machine Wire List

/-- Primitives with which every commitment and Authenticator is the same. -/
def flatPrims : Prims where
  hmacSha256 _ _ := replicate 32 0
  sha256 _ := replicate 32 0
  aesCbcEncrypt _ _ data := data
  aesCbcDecrypt _ _ data := data
  dhShared _ _ := some []
  base64 data := data

def zeroNonce : Bytes := replicate 16 0

/-- A message with zeros for its nonces and its Authenticator. -/
def sampleMsg (type : MsgType) (body : Bytes) : Bytes :=
  buildVersion ++ attr .msgType [type.code] ++ attr .enrolleeNonce zeroNonce ++
    attr .registrarNonce zeroNonce ++ body ++ attr .authenticator (replicate 8 0)

def sampleSettings (plain : Bytes) : Bytes :=
  buildEncrSettings flatPrims [] zeroNonce (buildKeyWrapAuth flatPrims [] plain)

def sampleDevice : Bytes :=
  attr .manufacturer [] ++ attr .modelName [] ++ attr .modelNumber [] ++ attr .serialNumber [] ++
    attr .primaryDevType (replicate 8 0) ++ attr .devName []

/-- An M1. -/
def sampleM1 (uuid : Bytes) (devPwId : UInt16) : Bytes :=
  buildVersion ++ attr .msgType [MsgType.m1.code] ++ attr .uuidE uuid ++
    attr .macAddr (replicate 6 0) ++ attr .enrolleeNonce zeroNonce ++
    attr .publicKey (replicate 192 0) ++ attr .authTypeFlags (be16 0x20) ++
    attr .encrTypeFlags (be16 0x08) ++ attr .connTypeFlags [1] ++ attr .configMethods (be16 0x08) ++
    attr .wpsState [1] ++ sampleDevice ++ attr .rfBands [1] ++ attr .assocState (be16 0) ++
    attr .devPasswordId (be16 devPwId) ++ attr .configError (be16 0) ++
    attr .osVersion (replicate 4 0)

def sampleHashes (first second : AttrType) : Bytes :=
  attr first (replicate 32 0) ++ attr second (replicate 32 0)

def registrarAnswers : Registrar.Answers :=
  { nonceR := some zeroNonce, dhKeys := some ([], []), snonce := some (zeroNonce, zeroNonce)
    iv := some zeroNonce, psk := some [] }

def enrolleeAnswers : Enrollee.Answers :=
  { nonceE := some zeroNonce, dhKeys := some ([], []), snonce := some (zeroNonce, zeroNonce)
    iv := some zeroNonce, psk := some [], poolReady := true }

variable {log : List Entry}

def sampleAp : Context := { ap := true, networkKey := some (replicate 8 0x30) }

end Hostapd.Wps

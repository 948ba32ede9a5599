import Hostapd.Foundation.Checked
import Hostapd.Tls.Asn1

/-!
# RSA signatures

The verification of RSA signatures in `src/tls/rsa.c`, `src/tls/pkcs1.c` and `src/tls/x509v3.c`: the
public-key operation, the removal of the padding of PKCS #1 v1.5, and the comparison of the
DigestInfo structure behind it with the expected hash.

All failures of the source functions are the return value -1, so the model gives `some ()` for the
return value 0 and `none` for the others.
-/

namespace Hostapd.Tls

open Wire

/-! ## The public-key operation -/

/-- A public key (`struct crypto_rsa_key`). -/
structure RsaKey where
  n : ℕ
  e : ℕ
deriving DecidableEq

/-- A number of a key (`crypto_rsa_parse_integer`), and what follows it. -/
def cryptoRsaParseInteger (pos : Bytes) : Option (ℕ × Bytes) := do
  let hdr ← asn1Expect asn1TagInteger pos
  return (beNat hdr.payload, hdr.rest)

/-- A public key from its encoding (`crypto_rsa_import_public_key`). -/
def cryptoRsaImportPublicKey (buf : Bytes) : Option RsaKey := do
  let hdr ← asn1Expect asn1TagSequence buf
  let (n, pos) ← cryptoRsaParseInteger hdr.payload
  let (e, pos) ← cryptoRsaParseInteger pos
  if pos ≠ [] then none else some { n, e }

/-- The public-key operation with room for `outlen` octets (`crypto_rsa_exptmod`). -/
def cryptoRsaExptmod (key : RsaKey) (input : Bytes) (outlen : ℕ) : Option Bytes :=
  if key.n < beNat input then none
  else if key.n = 0 then none
  else if outlen < Der.octetCount key.n then none
  else some (toBe (Der.octetCount key.n) (beNat input ^ key.e % key.n))

/-! ## Padding -/

/-- Skip octets FF from `pos` on: the end of the block is looked at before an octet is read.  The
first argument bounds the rounds. -/
def skipFf (plain : Bytes) : ℕ → ℕ → Checked ℕ
  | 0, pos => .ok pos
  | n + 1, pos =>
    if pos < plain.length then do
      let octet ← readAt plain pos 1
      if octet = [0xff] then skipFf plain n (pos + 1) else return pos
    else return pos

/-- Remove the padding of a signature: 00, 01, at least eight times FF and 00. -/
def pkcs1Unpad (plain : Bytes) : Checked (Option Bytes) :=
  if plain.length < 3 + 8 + 16 ∨ plain.take 2 ≠ [0x00, 0x01] then .ok none
  else if (plain.drop 2).take 1 ≠ [0xff] then .ok none
  else do
    let pos ← skipFf plain plain.length 3
    if pos - 2 < 8 then return none
    else if plain.length ≤ pos + 16 then return none
    else do
      let octet ← readAt plain pos 1
      return if octet = [0x00] then some (plain.drop (pos + 1)) else none

/-- Undo a signature (`pkcs1_decrypt_public_key`). -/
def pkcs1DecryptPublicKey (key : RsaKey) (crypt : Bytes) (plainLen : ℕ) :
    Checked (Option Bytes) :=
  match cryptoRsaExptmod key crypt plainLen with
  | none => .ok none
  | some plain => pkcs1Unpad plain

/-- `crypto_public_key_decrypt_pkcs1`. There are no faults to pass on. -/
def cryptoPublicKeyDecryptPkcs1 (key : RsaKey) (crypt : Bytes) (plainLen : ℕ) :
    Option Bytes :=
  (pkcs1DecryptPublicKey key crypt plainLen).toOption.join

/-! ## DigestInfo -/

/-- The elements of a DigestInfo. -/
structure DigestInfo where
  info : Asn1Hdr
  algorithm : Asn1Hdr
  oidHdr : Asn1Hdr
  oid : List ℕ
  digest : Asn1Hdr

/-- Look up the elements of a DigestInfo structure.  What follows the object identifier in the
AlgorithmIdentifier is skipped, and the digest is looked for behind the AlgorithmIdentifier in the
whole buffer. -/
def parseDigestInfo (data : Bytes) : Option DigestInfo := do
  let info ← asn1Expect asn1TagSequence data
  let algorithm ← asn1Expect asn1TagSequence info.payload
  let (oidHdr, oid) ← asn1GetOid algorithm.payload
  let digest ← asn1Expect asn1TagOctetString (algorithm.rest ++ info.rest)
  return { info, algorithm, oidHdr, oid, digest }

/-- The object identifier is accepted, and the digest is the expected hash and ends the buffer. -/
def checkDigestInfo (accept : List ℕ → Bool) (hash data : Bytes) : Option Unit := do
  let d ← parseDigestInfo data
  if accept d.oid ∧ d.digest.payload = hash ∧ d.digest.rest = [] then some () else none

/-- Verify a signature of a hash (`pkcs1_v15_sig_ver`). -/
def pkcs1V15SigVer (pk : RsaKey) (s : Bytes) (hashAlg : List ℕ) (hash : Bytes) :
    Option Unit := do
  let decrypted ← cryptoPublicKeyDecryptPkcs1 pk s s.length
  checkDigestInfo (· == hashAlg) hash decrypted

/-! ## Signatures of certificates -/

/-- The hash functions. -/
inductive HashAlg
  | md5
  | sha1
  | sha256
  | sha384
  | sha512

/-- The hash functions as parameters. -/
structure Hashes where
  md5 : Bytes → Octets 16
  sha1 : Bytes → Octets 20
  sha256 : Bytes → Octets 32
  sha384 : Bytes → Octets 48
  sha512 : Bytes → Octets 64

namespace HashAlg

/-- The object identifier. -/
def oid : HashAlg → List ℕ
  | md5 => [1, 2, 840, 113549, 2, 5]
  | sha1 => [1, 3, 14, 3, 2, 26]
  | sha256 => [2, 16, 840, 1, 101, 3, 4, 2, 1]
  | sha384 => [2, 16, 840, 1, 101, 3, 4, 2, 2]
  | sha512 => [2, 16, 840, 1, 101, 3, 4, 2, 3]

/-- The algorithm of a signature algorithm of PKCS #1. -/
def ofSignature : ℕ → Option HashAlg
  | 4 => some md5
  | 5 => some sha1
  | 11 => some sha256
  | 12 => some sha384
  | 13 => some sha512
  | _ => none

/-- The hash of data. -/
def hash (hashes : Hashes) (alg : HashAlg) (data : Bytes) : Bytes :=
  match alg with
  | md5 => (hashes.md5 data).val
  | sha1 => (hashes.sha1 data).val
  | sha256 => (hashes.sha256 data).val
  | sha384 => (hashes.sha384 data).val
  | sha512 => (hashes.sha512 data).val

end HashAlg

/-- `x509_rsadsi_oid` and the next number. -/
def x509RsadsiOid (next : ℕ) (oid : List ℕ) : Bool := oid.take 5 == [1, 2, 840, 113549, next]

variable (oid : List ℕ)

/-- An object identifier of PKCS (`x509_pkcs_oid`). -/
def x509PkcsOid : Bool := x509RsadsiOid 1 oid

/-- An object identifier of a digest algorithm (`x509_digest_oid`). -/
def x509DigestOid : Bool := x509RsadsiOid 2 oid

def x509Sha1Oid : Bool := oid == HashAlg.sha1.oid

def x509Sha256Oid : Bool := oid == HashAlg.sha256.oid

def x509Sha384Oid : Bool := oid == HashAlg.sha384.oid

def x509Sha512Oid : Bool := oid == HashAlg.sha512.oid

/-- The digest algorithm belongs to the signature algorithm with this number.  Of the object
identifier of MD5 only the first six numbers are compared. -/
def digestMatches (signature : ℕ) (oid : List ℕ) : Bool :=
  if x509Sha1Oid oid then signature == 5
  else if x509Sha256Oid oid then signature == 11
  else if x509Sha384Oid oid then signature == 12
  else if x509Sha512Oid oid then signature == 13
  else x509DigestOid oid && oid.getD 5 0 == 5 && signature == 4

/-- Verify a signature under the public key of an issuer (`x509_check_signature`). -/
def x509CheckSignature (hashes : Hashes) (publicKey : Bytes) (signatureOid : List ℕ)
    (signValue signedData : Bytes) : Option Unit :=
  if !x509PkcsOid signatureOid ∨ signatureOid.length ≠ 7 ∨ signatureOid.getD 5 0 ≠ 1 then none
  else do
    let pk ← cryptoRsaImportPublicKey publicKey
    let data ← cryptoPublicKeyDecryptPkcs1 pk signValue signValue.length
    let alg ← HashAlg.ofSignature (signatureOid.getD 6 0)
    checkDigestInfo (digestMatches (signatureOid.getD 6 0)) (alg.hash hashes signedData) data

end Hostapd.Tls

import Hostapd.Crypto.Cipher
import Hostapd.Foundation.Framing
import Hostapd.Foundation.Machine

/-!
# The TLS record layer

The cipher suites (`tls/tlsv1_common.c`) and the record protocol (`tls/tlsv1_record.c`): a record
layer has keys, a cipher state and a sequence number for each direction. `recordSend` protects a
payload and `recordReceive` takes a record off the octets that were received. The receiver works in
the buffer of its caller, which is part of the model.
-/

namespace Hostapd.Tls

open Wire Hostapd.Crypto

abbrev tlsVersion1 : ℕ := 0x0301

abbrev tlsVersion11 : ℕ := 0x0302

abbrev tlsVersion12 : ℕ := 0x0303

abbrev tlsNullWithNullNull : ℕ := 0x0000

/-- The key exchanges of the suites in the table (`tls_key_exchange`). -/
inductive KeyExchange
  | null
  | rsa
  | dheRsa
  | dhAnon

/-- The ciphers (`tls_cipher`). -/
inductive TlsCipher
  | null
  | rc440
  | rc4128
  | rc2Cbc40
  | ideaCbc
  | des40Cbc
  | desCbc
  | des3EdeCbc
  | aes128Cbc
  | aes256Cbc
deriving DecidableEq

/-- The hash functions of the record protection (`tls_hash`). -/
inductive TlsHash
  | null
  | md5
  | sha
  | sha256
deriving DecidableEq

/-- A cipher suite (`struct tls_cipher_suite`). -/
structure TlsCipherSuite where
  suite : ℕ
  keyExchange : KeyExchange
  cipher : TlsCipher
  hash : TlsHash

/-- The supported suites (`tls_cipher_suites`). -/
def tlsCipherSuites : List TlsCipherSuite :=
  [⟨0x0000, .null, .null, .null⟩,
   ⟨0x0004, .rsa, .rc4128, .md5⟩,
   ⟨0x0005, .rsa, .rc4128, .sha⟩,
   ⟨0x0009, .rsa, .desCbc, .sha⟩,
   ⟨0x000a, .rsa, .des3EdeCbc, .sha⟩,
   ⟨0x0015, .dheRsa, .desCbc, .sha⟩,
   ⟨0x0016, .dheRsa, .des3EdeCbc, .sha⟩,
   ⟨0x0018, .dhAnon, .rc4128, .md5⟩,
   ⟨0x001a, .dhAnon, .desCbc, .sha⟩,
   ⟨0x001b, .dhAnon, .des3EdeCbc, .sha⟩,
   ⟨0x002f, .rsa, .aes128Cbc, .sha⟩,
   ⟨0x0033, .dheRsa, .aes128Cbc, .sha⟩,
   ⟨0x0034, .dhAnon, .aes128Cbc, .sha⟩,
   ⟨0x0035, .rsa, .aes256Cbc, .sha⟩,
   ⟨0x0039, .dheRsa, .aes256Cbc, .sha⟩,
   ⟨0x003a, .dhAnon, .aes256Cbc, .sha⟩,
   ⟨0x003c, .rsa, .aes128Cbc, .sha256⟩,
   ⟨0x003d, .rsa, .aes256Cbc, .sha256⟩,
   ⟨0x0067, .dheRsa, .aes128Cbc, .sha256⟩,
   ⟨0x006b, .dheRsa, .aes256Cbc, .sha256⟩,
   ⟨0x006c, .dhAnon, .aes128Cbc, .sha256⟩,
   ⟨0x006d, .dhAnon, .aes256Cbc, .sha256⟩]

/-- The parameters of a cipher (`struct tls_cipher_data`). -/
structure TlsCipherData where
  keyMaterial : ℕ
  /-- The number of octets of a block and of an initialisation vector, zero for a stream cipher. -/
  blockSize : ℕ
  alg : CipherAlg

/-- The parameters of the ciphers (`tls_get_cipher_data`). -/
def tlsGetCipherData : TlsCipher → TlsCipherData
  | .null => ⟨0, 0, .null⟩
  | .ideaCbc => ⟨16, 8, .null⟩
  | .rc2Cbc40 => ⟨5, 0, .rc2⟩
  | .rc440 => ⟨5, 0, .rc4⟩
  | .rc4128 => ⟨16, 0, .rc4⟩
  | .des40Cbc => ⟨5, 8, .des⟩
  | .desCbc => ⟨8, 8, .des⟩
  | .des3EdeCbc => ⟨24, 8, .des3⟩
  | .aes128Cbc => ⟨16, 16, .aes⟩
  | .aes256Cbc => ⟨32, 16, .aes⟩

/-- The suite with a number (`tls_get_cipher_suite`). -/
def tlsGetCipherSuite (suite : ℕ) : Option TlsCipherSuite :=
  tlsCipherSuites.find? (·.suite == suite)

def TlsHash.size : TlsHash → ℕ
  | .null => 0
  | .md5 => 16
  | .sha => 20
  | .sha256 => 32

/-- Every suite but the null suite has a hash and a cipher. -/
lemma tlsGetCipherSuite_protects {suite : ℕ} {s : TlsCipherSuite}
    (h : tlsGetCipherSuite suite = some s) :
    s.suite = suite ∧ (suite ≠ tlsNullWithNullNull → s.hash ≠ .null ∧
      (s.cipher = .rc4128 ∨ s.cipher = .desCbc ∨ s.cipher = .des3EdeCbc ∨ s.cipher = .aes128Cbc ∨
        s.cipher = .aes256Cbc)) := by
  have hsuite : s.suite = suite := by simpa using List.find?_some h
  have hall : ∀ s ∈ tlsCipherSuites, s.suite ≠ tlsNullWithNullNull → s.hash ≠ .null ∧
      (s.cipher = .rc4128 ∨ s.cipher = .desCbc ∨ s.cipher = .des3EdeCbc ∨ s.cipher = .aes128Cbc ∨
        s.cipher = .aes256Cbc) := by
    decide
  refine ⟨hsuite, fun hne => hall s (List.mem_of_find?_eq_some h) ?_⟩
  rwa [hsuite]

abbrev tlsRecordHeaderLen : ℕ := 5

/-- The alerts of the record layer. -/
inductive RecordAlert
  | unexpectedMessage
  | badRecordMac
  | decryptionFailed
  | recordOverflow
  | protocolVersion
  | internalError

/-- The ciphers and the keyed hash. -/
structure Prims where
  ciphers : BlockCiphers
  /-- The keyed hash of a hash function (`crypto_hash_init` with an HMAC algorithm). -/
  hmac : TlsHash → Bytes → Bytes → Bytes

/-- A record layer (`struct tlsv1_record_layer`). -/
structure RecordLayer where
  tlsVersion : ℕ := tlsVersion1
  writeMacSecret : Bytes := []
  readMacSecret : Bytes := []
  writeKey : Bytes := []
  readKey : Bytes := []
  writeIv : Bytes := []
  readIv : Bytes := []
  keyMaterialLen : ℕ := 0
  ivSize : ℕ := 0
  hashAlg : TlsHash := .null
  cipherAlg : CipherAlg := .null
  writeSeqNum : ℕ := 0
  readSeqNum : ℕ := 0
  cipherSuite : ℕ := tlsNullWithNullNull
  writeCipherSuite : ℕ := tlsNullWithNullNull
  readCipherSuite : ℕ := tlsNullWithNullNull
  writeCbc : Option CryptoCipher := none
  readCbc : Option CryptoCipher := none
deriving DecidableEq

namespace RecordLayer

variable (rl : RecordLayer)

def hashSize : ℕ := rl.hashAlg.size

/-- Select a suite (`tlsv1_record_set_cipher_suite`). -/
def setCipherSuite (suite : ℕ) : Option RecordLayer :=
  match tlsGetCipherSuite suite with
  | none => none
  | some s =>
    let data := tlsGetCipherData s.cipher
    some
      { rl with
        cipherSuite := suite
        -- A suite without a hash function leaves the hash function alone.
        hashAlg := if s.hash = .null then rl.hashAlg else s.hash
        keyMaterialLen := data.keyMaterial
        ivSize := data.blockSize
        cipherAlg := data.alg }

/-- Use the selected suite for sending (`tlsv1_record_change_write_cipher`). -/
def changeWriteCipher : Option RecordLayer :=
  let rl := { rl with writeCipherSuite := rl.cipherSuite, writeSeqNum := 0, writeCbc := none }
  if rl.cipherAlg = .null then some rl
  else
    (cryptoCipherInit rl.cipherAlg rl.writeIv (rl.writeKey.takeD rl.keyMaterialLen 0)).map
      fun ctx => { rl with writeCbc := some ctx }

/-- Use the selected suite for receiving (`tlsv1_record_change_read_cipher`). -/
def changeReadCipher : Option RecordLayer :=
  let rl := { rl with readCipherSuite := rl.cipherSuite, readSeqNum := 0, readCbc := none }
  if rl.cipherAlg = .null then some rl
  else
    (cryptoCipherInit rl.cipherAlg rl.readIv (rl.readKey.takeD rl.keyMaterialLen 0)).map
      fun ctx => { rl with readCbc := some ctx }

/-- The next value of a sequence number (`inc_byte_array`). -/
def nextSeqNum (seqNum : ℕ) : ℕ := (seqNum + 1) % 256 ^ 8

/-- What the message authentication code is calculated over. -/
def macInput (seqNum : ℕ) (contentType : UInt8) (version : Bytes) (length : ℕ)
    (payload : Bytes) : Bytes :=
  toBe 8 seqNum ++ contentType :: (version ++ toBe 2 length ++ payload)

/-! ## Sending -/

/-- The initialisation vector that is sent with a record. -/
def explicitIv (random : Bytes) : Bytes :=
  if rl.writeCipherSuite ≠ tlsNullWithNullNull ∧ rl.ivSize ≠ 0 ∧ tlsVersion11 ≤ rl.tlsVersion then
    random.takeD rl.ivSize 0
  else []

/-- The padding of a block cipher behind `len` octets. -/
def padding (ivSize len : ℕ) : Bytes :=
  if ivSize = 0 then []
  else
    let pad := (len + 1) % ivSize
    let pad := if pad = 0 then 0 else ivSize - pad
    List.replicate (pad + 1) (UInt8.ofNat pad)

variable (prims : Prims)

/-- The octets behind the header, before they are encrypted. -/
def plainFragment (rl : RecordLayer) (contentType : UInt8) (random payload : Bytes) :
    Bytes :=
  let iv := rl.explicitIv random
  let mac := prims.hmac rl.hashAlg (rl.writeMacSecret.takeD rl.hashSize 0)
    (macInput rl.writeSeqNum contentType (toBe 2 rl.tlsVersion) payload.length payload)
  let content := iv ++ payload ++ mac
  content ++ padding rl.ivSize content.length

/-- Send a record (`tlsv1_record_send`): the record, none if the buffer is too short or there are no
random octets. -/
def recordSend (rl : RecordLayer) (contentType : UInt8) (bufSize : ℕ) (random : Option Bytes)
    (payload : Bytes) : RecordLayer × Option Bytes :=
  let header (len : ℕ) : Bytes := contentType :: (toBe 2 rl.tlsVersion ++ toBe 2 len)
  let next := { rl with writeSeqNum := nextSeqNum rl.writeSeqNum }
  if rl.writeCipherSuite = tlsNullWithNullNull then
    if bufSize < tlsRecordHeaderLen + payload.length then (rl, none)
    else (next, some (header payload.length ++ payload))
  else if (rl.explicitIv (random.getD [])).length ≠ 0 ∧ random.isNone then (rl, none)
  else
    let plain := plainFragment prims rl contentType (random.getD []) payload
    if bufSize < tlsRecordHeaderLen + plain.length then (rl, none)
    else
      match rl.writeCbc.bind fun ctx => cryptoCipherEncrypt prims.ciphers ctx plain with
      | none => (rl, none)
      | some (ctx, crypt) =>
        ({ next with writeCbc := some ctx }, some (header crypt.length ++ crypt))

/-! ## Receiving -/

/-- Write octets at the start of a buffer. -/
def overwrite (data out : Bytes) : Bytes := data ++ out.drop data.length

/-- Remove the initialisation vector; the mark says that the record is to be refused. -/
def removeIv (plain : Bytes) : Bytes × Bool :=
  if tlsVersion11 ≤ rl.tlsVersion then
    if plain.length < rl.ivSize then (plain, true) else (plain.drop rl.ivSize, false)
  else (plain, false)

/-- Verify and remove the padding; the mark says that the record is to be refused. -/
def removePadding (body : Bytes) : Bytes × Bool :=
  match body.getLast? with
  | none => (body, true)
  | some last =>
    let padlen := last.toNat
    if body.length ≤ padlen then (body, true)
    else if ((body.drop (body.length - padlen - 1)).take padlen).any (· != last) then (body, true)
    else (body.take (body.length - padlen - 1), false)

/-- What the code is checked on: without initialisation vector and padding. -/
def unwrapped (plain : Bytes) : Bytes × Bool :=
  if rl.ivSize = 0 then (plain, false)
  else if (rl.removeIv plain).2 then rl.removeIv plain
  else removePadding (rl.removeIv plain).1

/-- The buffer of the caller after the decryption. -/
def decryptedInto (plain out : Bytes) : Bytes :=
  if rl.ivSize ≠ 0 ∧ tlsVersion11 ≤ rl.tlsVersion ∧ rl.ivSize ≤ plain.length then
    overwrite (plain.drop rl.ivSize) (overwrite plain out)
  else overwrite plain out

/-- The input of the message authentication code and the code that is compared. -/
def presented (header body : Bytes) : Option (Bytes × Bytes) :=
  if body.length < rl.hashSize then none
  else
    let plen := body.length - rl.hashSize
    some (macInput rl.readSeqNum (header.getD 0 0) ((header.drop 1).take 2) plen (body.take plen),
      body.drop plen)

/-- The code verifies. -/
def macOk (rl : RecordLayer) (input tag : Bytes) : Bool :=
  prims.hmac rl.hashAlg (rl.readMacSecret.takeD rl.hashSize 0) input == tag

/-- What `tlsv1_record_receive` returns: how many octets were used and how many are in the
buffer. -/
inductive Receipt
  | more
  | failed (alert : RecordAlert)
  | record (used outLen : ℕ)

def knownContentType (ct : UInt8) : Bool := ct == 20 || ct == 21 || ct == 22 || ct == 23

/-- The end of the processing of a record: the length of the payload is checked and the record is
counted. -/
def finishRecord (rlen outLen : ℕ) (out : Bytes) : RecordLayer × Receipt × Bytes :=
  if 17408 < tlsRecordHeaderLen + outLen then (rl, .failed .recordOverflow, out)
  else
    ({ rl with readSeqNum := nextSeqNum rl.readSeqNum },
      .record (tlsRecordHeaderLen + rlen) outLen, out)

/-- The processing of a complete record: its header and the octets behind it. -/
def receiveFragment (rl : RecordLayer) (header fragment out : Bytes) :
    RecordLayer × Receipt × Bytes :=
  if rl.readCipherSuite = tlsNullWithNullNull then
    finishRecord rl fragment.length fragment.length (overwrite fragment out)
  else
    match rl.readCbc.bind fun ctx => cryptoCipherDecrypt prims.ciphers ctx fragment with
    | none => (rl, .failed .decryptionFailed, out)
    | some (ctx, plain) =>
      let rl := { rl with readCbc := some ctx }
      let out := rl.decryptedInto plain out
      let body := rl.unwrapped plain
      match rl.presented header body.1 with
      | none => (rl, .failed .badRecordMac, out)
      | some (input, tag) =>
        if !rl.macOk prims input tag || body.2 then (rl, .failed .badRecordMac, out)
        else finishRecord rl fragment.length (body.1.length - rl.hashSize) out

/-- Receive a record (`tlsv1_record_receive`), with the buffer `out` of the caller of which `outLen`
octets may be used. -/
def recordReceive (rl : RecordLayer) (inData out : Bytes) (outLen : ℕ) :
    RecordLayer × Receipt × Bytes :=
  let rlen := beNat ((inData.drop 3).take 2)
  if inData.length < tlsRecordHeaderLen then (rl, .more, out)
  else if inData.getD 1 0 ≠ 3 then (rl, .failed .protocolVersion, out)
  else if 18432 < tlsRecordHeaderLen + rlen then (rl, .failed .recordOverflow, out)
  else if inData.length - tlsRecordHeaderLen < rlen then (rl, .more, out)
  else if !knownContentType (inData.getD 0 0) then (rl, .failed .unexpectedMessage, out)
  else if outLen < rlen then (rl, .failed .internalError, out)
  else
    receiveFragment prims rl (inData.take tlsRecordHeaderLen)
      ((inData.drop tlsRecordHeaderLen).take rlen) out

end RecordLayer

end Hostapd.Tls

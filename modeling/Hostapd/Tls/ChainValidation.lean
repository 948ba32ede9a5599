import Hostapd.Tls.Canonical

/-!
# Certificate chains

The comparison of names and the validation of certificate chains in `src/tls/x509v3.c`, on
certificates that have been parsed. Strings are their octets without the terminating zero, times are
numbers of seconds, and of a certificate the fields that validation looks at are modelled.

A chain that `x509_certificate_chain_validate` accepts is linked from the first certificate to one
that a trusted certificate has issued. The path length constraint is compared for the next
certificate of the chain, but not for the trusted certificate (`anchor_path_length_ignored`).
`validated_sound_iff` says that this is all that can be missing.
-/

namespace Hostapd.Tls

open Wire List

/-! ## Names -/

/-- The types of name attributes (`enum x509_name_attr_type`). -/
inductive NameAttrType
  | notUsed
  | dc
  | cn
  | c
  | l
  | st
  | o
  | ou
deriving DecidableEq

/-- A name (`struct x509_name`), without what comes from the alternative name extension. -/
structure Name where
  attr : List (NameAttrType × Option Bytes) := []
  email : Option Bytes := none

/-- A space or a tabulator (`x509_whitespace`). -/
def x509Whitespace (c : UInt8) : Bool := c == 32 || c == 9

/-- The loop of `x509_str_strip_whitespace`: of white space that follows white space, or the start,
nothing is kept. -/
def stripLoop : Bool → Bytes → Bytes
  | _, [] => []
  | removeWhitespace, c :: cs =>
    if removeWhitespace && x509Whitespace c then stripLoop removeWhitespace cs
    else c :: stripLoop (x509Whitespace c) cs

/-- Strip white space at the ends and reduce it within (`x509_str_strip_whitespace`). -/
def x509StrStripWhitespace (a : Bytes) : Bytes :=
  let s := stripLoop true a
  if 1 < s.length ∧ s.getLast?.any x509Whitespace then s.dropLast else s

def toLower (c : UInt8) : UInt8 := if 65 ≤ c ∧ c ≤ 90 then c + 32 else c

/-- The comparison of strings without regard to case (`os_strcasecmp`). -/
def strcasecmp : Bytes → Bytes → ℤ
  | [], [] => 0
  | [], _ :: _ => -1
  | _ :: _, [] => 1
  | a :: as, b :: bs =>
    if toLower a = toLower b then strcasecmp as bs else (toLower a).toNat - (toLower b).toNat

/-- `x509_str_compare`. -/
def x509StrCompare : Option Bytes → Option Bytes → ℤ
  | none, some _ => -1
  | some _, none => 1
  | none, none => 0
  | some a, some b => strcasecmp (x509StrStripWhitespace a) (x509StrStripWhitespace b)

/-- The attributes of names with the same number of them, one after the other. -/
def compareAttrs : List (NameAttrType × Option Bytes) →
    List (NameAttrType × Option Bytes) → ℤ
  | a :: as, b :: bs =>
    if a.1 ≠ b.1 then -1
    else if x509StrCompare a.2 b.2 ≠ 0 then x509StrCompare a.2 b.2
    else compareAttrs as bs
  | _, _ => 0

/-- Compare names (`x509_name_compare`). -/
def x509NameCompare (a b : Name) : ℤ :=
  if a.attr.length < b.attr.length then -1
  else if b.attr.length < a.attr.length then 1
  else if compareAttrs a.attr b.attr ≠ 0 then compareAttrs a.attr b.attr
  else x509StrCompare a.email b.email

/-! ## Certificates -/

/-- The version of a certificate. -/
inductive CertVersion
  | v1
  | v2
  | v3
deriving DecidableEq

/-- A certificate (`struct x509_certificate`). -/
structure Certificate where
  version : CertVersion := .v3
  signature : List ℕ
  issuer : Name
  subject : Name
  notBefore : ℕ := 0
  notAfter : ℕ
  publicKey : Bytes
  signValue : Bytes
  tbsCert : Bytes
  /-- `X509_EXT_BASIC_CONSTRAINTS` is present. -/
  extBasicConstraints : Bool := false
  /-- `X509_EXT_PATH_LEN_CONSTRAINT` is present. -/
  extPathLenConstraint : Bool := false
  /-- `X509_EXT_KEY_USAGE` is present. -/
  extKeyUsage : Bool := false
  ca : UInt8 := 0
  pathLenConstraint : ℕ := 0
  keyUsage : UInt64 := 0

def keyUsageKeyCertSign : UInt64 := 0x20

/-- The reasons for a failed validation (`X509_VALIDATE_*`). -/
inductive ValidateReason
  | badCertificate
  | certificateExpired
  | certificateUnknown
  | unknownCa
deriving DecidableEq

/-- The signature of a certificate verifies under an issuer
(`x509_certificate_check_signature`). -/
def x509CertificateCheckSignature (hashes : Hashes) (issuer cert : Certificate) : Bool :=
  x509CheckSignature hashes issuer.publicKey cert.signature cert.signValue cert.tbsCert == some ()

/-- The certificate may issue others (`x509_valid_issuer`). -/
def x509ValidIssuer (cert : Certificate) : Bool :=
  if cert.extBasicConstraints ∧ cert.ca = 0 then false
  else if cert.version = .v3 ∧ !cert.extBasicConstraints then false
  else if cert.extKeyUsage ∧ cert.keyUsage &&& keyUsageKeyCertSign = 0 then false
  else true

/-! ## Validation -/

/-- What validation is given. -/
structure Validation where
  hashes : Hashes
  now : ℕ
  disableTimeChecks : Bool := false

variable (v : Validation)

/-- The certificate is valid now. -/
def Validation.inTime (cert : Certificate) : Bool :=
  v.disableTimeChecks || (cert.notBefore ≤ v.now && v.now ≤ cert.notAfter)

/-- The checks of a certificate at place `idx` against the next one of the chain. -/
def checkNext (idx : ℕ) (cert next : Certificate) : Except ValidateReason Unit :=
  if x509NameCompare cert.issuer next.subject ≠ 0 then .error .certificateUnknown
  else if !x509ValidIssuer next then .error .badCertificate
  else if next.extPathLenConstraint ∧ next.pathLenConstraint < idx then .error .badCertificate
  else if !x509CertificateCheckSignature v.hashes next cert then .error .badCertificate
  else .ok ()

/-- The checks of a certificate at place `idx` before trusted certificates are looked at. -/
def checkCert (idx : ℕ) (cert : Certificate) : List Certificate → Except ValidateReason Unit
  | [] => if !v.inTime cert then .error .certificateExpired else .ok ()
  | next :: _ =>
    if !v.inTime cert then .error .certificateExpired else checkNext v idx cert next

/-- The checks of a certificate against its issuer in the list of trusted ones. -/
def checkTrust (cert trust : Certificate) : Except ValidateReason Unit :=
  if !x509ValidIssuer trust then .error .badCertificate
  else if !x509CertificateCheckSignature v.hashes trust cert then .error .badCertificate
  else .ok ()

/-- A trusted certificate with the name of the issuer. -/
def findTrust (trusted : List Certificate) (cert : Certificate) : Option Certificate :=
  trusted.find? fun trust => x509NameCompare cert.issuer trust.subject == 0

/-- The loop over the chain: the place of the certificate with a trusted issuer, if one was
found. -/
def validateFrom (v : Validation) (trusted : List Certificate) :
    ℕ → List Certificate → Except ValidateReason (Option ℕ)
  | _, [] => .ok none
  | idx, cert :: rest => do
    checkCert v idx cert rest
    match findTrust trusted cert with
    | some trust =>
      checkTrust v cert trust
      return some idx
    | none => validateFrom v trusted (idx + 1) rest

/-- `x509_certificate_chain_validate`: the place of the certificate that a trusted one has
issued. -/
def x509CertificateChainValidate (trusted chain : List Certificate) :
    Except ValidateReason (Option ℕ) := do
  match ← validateFrom v trusted 0 chain with
  | some k => return some k
  | none => if trusted ≠ [] then throw .unknownCa else return none

/-! ## Equal names -/

/-- A string as it is compared: white space reduced, letters in lower case. -/
def normalized (a : Bytes) : Bytes := (x509StrStripWhitespace a).map toLower

/-- The same name, up to case and white space. -/
def SameName (a b : Name) : Prop :=
  a.attr.map (fun x => (x.1, x.2.map normalized)) =
      b.attr.map (fun x => (x.1, x.2.map normalized)) ∧
    a.email.map normalized = b.email.map normalized

lemma strcasecmp_eq_zero_iff (a b : Bytes) :
    strcasecmp a b = 0 ↔ a.map toLower = b.map toLower := by
  induction a generalizing b with
  | nil => cases b <;> simp [strcasecmp]
  | cons x a ih =>
    cases b with
    | nil => simp [strcasecmp]
    | cons y b =>
      rw [strcasecmp, map_cons, map_cons, cons.injEq]
      split
      · next heq => simp [heq, ih]
      next hne =>
      have hval : (toLower x).toNat ≠ (toLower y).toNat := fun h => hne (UInt8.toNat_inj.mp h)
      simp only [hne, false_and, iff_false]
      omega

lemma x509StrCompare_eq_zero_iff (a b : Option Bytes) :
    x509StrCompare a b = 0 ↔ a.map normalized = b.map normalized := by
  cases a with
  | none => cases b <;> simp [x509StrCompare]
  | some a =>
    cases b with
    | none => simp [x509StrCompare]
    | some b =>
      rw [x509StrCompare, strcasecmp_eq_zero_iff, Option.map_some, Option.map_some,
        Option.some.injEq]
      rfl

/-- Attributes compare equal. -/
lemma compareAttrs_eq_zero_iff {as bs : List (NameAttrType × Option Bytes)}
    (hlen : as.length = bs.length) :
    compareAttrs as bs = 0 ↔
      as.map (fun x => (x.1, x.2.map normalized)) =
        bs.map (fun x => (x.1, x.2.map normalized)) := by
  induction as generalizing bs with
  | nil =>
    rw [length_eq_zero_iff.mp hlen.symm]
    simp [compareAttrs]
  | cons a as ih =>
    cases bs with
    | nil => simp at hlen
    | cons b bs =>
      have htail := ih (by simpa using hlen : as.length = bs.length)
      rw [compareAttrs, map_cons, map_cons, cons.injEq, Prod.mk.injEq,
        ← x509StrCompare_eq_zero_iff a.2 b.2, ← htail]
      split
      · next hne => simp [hne]
      next heq =>
      rw [not_not] at heq
      split
      · next hne => simp [hne]
      · next hz =>
        rw [not_not] at hz
        simp [heq, hz]

/-- Names compare equal. -/
lemma x509NameCompare_eq_zero_iff (a b : Name) : x509NameCompare a b = 0 ↔ SameName a b := by
  have hlength : SameName a b → a.attr.length = b.attr.length := by
    intro h
    simpa using congrArg length h.1
  unfold x509NameCompare
  split
  · next hlt =>
    refine iff_of_false (by decide) fun h => ?_
    exact absurd (hlength h) hlt.ne
  split
  · next hlt =>
    refine iff_of_false (by decide) fun h => ?_
    exact absurd (hlength h) hlt.ne'
  next hge hle =>
  have hlen : a.attr.length = b.attr.length := by omega
  rw [SameName, ← compareAttrs_eq_zero_iff hlen, ← x509StrCompare_eq_zero_iff]
  split
  · next hne => simp [hne]
  · next hz =>
    rw [not_not] at hz
    simp [hz]

/-! ## Sound chains -/

/-- A certificate is allowed to issue: CA basic constraints, which a certificate of version 3 has,
and keyCertSign where they are present. -/
structure MayIssue (cert : Certificate) : Prop where
  ca : cert.extBasicConstraints → cert.ca ≠ 0
  v3 : cert.version = .v3 → cert.extBasicConstraints
  keyCertSign : cert.extKeyUsage → cert.keyUsage &&& keyUsageKeyCertSign ≠ 0

/-- A path length constraint is not smaller than the number of intermediate certificates below. -/
def PathLenMet (cert : Certificate) (below : ℕ) : Prop :=
  cert.extPathLenConstraint → below ≤ cert.pathLenConstraint

/-- A certificate was issued by another one. -/
structure IssuedBy (v : Validation) (cert issuer : Certificate) : Prop where
  name : SameName cert.issuer issuer.subject
  signed : x509CheckSignature v.hashes issuer.publicKey cert.signature cert.signValue cert.tbsCert =
    some ()
  mayIssue : MayIssue issuer

/-- The certificate is within its validity period, unless time checks are disabled. -/
def InValidity (v : Validation) (cert : Certificate) : Prop :=
  v.disableTimeChecks = false → cert.notBefore ≤ v.now ∧ v.now ≤ cert.notAfter

/-- The certificates of a chain from place `start` to place `k` are linked up to a trusted
certificate. -/
structure Linked (v : Validation) (trusted chain : List Certificate) (start k : ℕ)
    (trust : Certificate) : Prop where
  inValidity : ∀ i, start ≤ i → i ≤ k → ∃ cert, chain[i]? = some cert ∧ InValidity v cert
  /-- Each one before place `k` has been issued by the next one, whose path length constraint is
  met. -/
  issued : ∀ i, start ≤ i → i < k → ∃ cert next, chain[i]? = some cert ∧
    chain[i + 1]? = some next ∧ IssuedBy v cert next ∧ PathLenMet next i
  anchored : ∃ cert, chain[k]? = some cert ∧ trust ∈ trusted ∧ IssuedBy v cert trust

/-- The chain is sound: the path length constraint of the trusted certificate is met as well. -/
def SoundChain (v : Validation) (trusted chain : List Certificate) (k : ℕ) (trust : Certificate) :
    Prop :=
  Linked v trusted chain 0 k trust ∧ PathLenMet trust k

/-! ## The checks -/

variable {v : Validation} {trusted rest : List Certificate} {idx k : ℕ}
  {cert next trust issuer : Certificate}

lemma mayIssue_of_x509ValidIssuer (h : x509ValidIssuer issuer) : MayIssue issuer := by
  unfold x509ValidIssuer at h
  split_ifs at h with hca hv3 hsign
  refine ⟨?_, ?_, ?_⟩
  · intro hext hzero
    exact hca ⟨hext, hzero⟩
  · intro hversion
    by_contra hext
    exact hv3 ⟨hversion, by simpa using hext⟩
  · intro hext hzero
    exact hsign ⟨hext, hzero⟩

lemma inValidity_of_inTime (h : v.inTime cert) : InValidity v cert := by
  intro henabled
  unfold Validation.inTime at h
  rw [henabled, Bool.false_or, Bool.and_eq_true, decide_eq_true_iff, decide_eq_true_iff] at h
  exact h

lemma issuedBy_of_checks (hname : x509NameCompare cert.issuer issuer.subject = 0)
    (hissuer : x509ValidIssuer issuer)
    (hsign : x509CertificateCheckSignature v.hashes issuer cert) : IssuedBy v cert issuer :=
  { name := (x509NameCompare_eq_zero_iff _ _).mp hname
    signed := eq_of_beq hsign
    mayIssue := mayIssue_of_x509ValidIssuer hissuer }

/-- What the checks of a certificate establish. -/
lemma checkCert_eq_ok (h : checkCert v idx cert rest = .ok ()) :
    InValidity v cert ∧
      ∀ next, rest[0]? = some next → IssuedBy v cert next ∧ PathLenMet next idx := by
  cases rest with
  | nil =>
    rw [checkCert] at h
    split_ifs at h
    · next htime => exact ⟨inValidity_of_inTime (by simpa using htime), nofun⟩
  | cons next rest =>
    rw [checkCert] at h
    split_ifs at h with htime
    refine ⟨inValidity_of_inTime (by simpa using htime), ?_⟩
    intro next' hnext
    cases hnext
    unfold checkNext at h
    split_ifs at h with hname hissuer hpath hsign
    refine ⟨issuedBy_of_checks (not_not.mp hname) (by simpa using hissuer)
      (by simpa using hsign), ?_⟩
    intro hext
    by_contra hlt
    exact hpath ⟨hext, not_le.mp hlt⟩

lemma issuedBy_of_checkTrust (hfind : findTrust trusted cert = some trust)
    (h : checkTrust v cert trust = .ok ()) : trust ∈ trusted ∧ IssuedBy v cert trust := by
  have hname : (x509NameCompare cert.issuer trust.subject == 0) :=
    @find?_some _ (fun t : Certificate => x509NameCompare cert.issuer t.subject == 0) _ _ hfind
  unfold checkTrust at h
  split_ifs at h with hissuer
  · next hsign =>
    exact ⟨mem_of_find?_eq_some hfind,
      issuedBy_of_checks (eq_of_beq hname) (by simpa using hissuer) (by simpa using hsign)⟩

/-! ## The loop -/

/-- What the loop has established when it stops at place `idx + j`. -/
structure LinkedFrom (v : Validation) (trusted : List Certificate) (idx : ℕ)
    (chain : List Certificate) (j : ℕ) (trust : Certificate) : Prop where
  inValidity : ∀ i ≤ j, ∃ cert, chain[i]? = some cert ∧ InValidity v cert
  issued : ∀ i < j, ∃ cert next, chain[i]? = some cert ∧ chain[i + 1]? = some next ∧
    IssuedBy v cert next ∧ PathLenMet next (idx + i)
  /-- None of the certificates before the last one has a trusted issuer. -/
  untrusted : ∀ i < j, ∃ cert, chain[i]? = some cert ∧ findTrust trusted cert = none
  /-- The last one has been issued by the trusted certificate, the first one with this name. -/
  anchored : ∃ cert, chain[j]? = some cert ∧ findTrust trusted cert = some trust ∧
    trust ∈ trusted ∧ IssuedBy v cert trust

/-- An accepted rest of a chain is linked to a trusted one. -/
lemma linkedFrom_of_validateFrom {v : Validation} {trusted chain : List Certificate} {idx k : ℕ}
    (h : validateFrom v trusted idx chain = .ok (some k)) :
    ∃ j trust, k = idx + j ∧ LinkedFrom v trusted idx chain j trust := by
  induction chain generalizing idx with
  | nil => cases h
  | cons cert rest ih =>
    obtain ⟨⟨⟩, hcheck, h⟩ := Checked.bind_eq_ok.mp h
    obtain ⟨htime, hnext⟩ := checkCert_eq_ok hcheck
    split at h
    · next trust hfind =>
      obtain ⟨⟨⟩, htrust, h⟩ := Checked.bind_eq_ok.mp h
      cases h
      obtain ⟨hmem, hissued⟩ := issuedBy_of_checkTrust hfind htrust
      refine ⟨0, trust, rfl, ?_, nofun, nofun, cert, rfl, hfind, hmem, hissued⟩
      intro i hi
      rw [Nat.le_zero.mp hi]
      exact ⟨cert, rfl, htime⟩
    -- The rest of the chain is linked; its first certificate has issued this one.
    next hnone =>
    obtain ⟨j, trust, rfl, hlinked⟩ := ih h
    refine ⟨j + 1, trust, by omega, ?_, ?_, ?_, hlinked.anchored⟩
    · intro i hi
      cases i with
      | zero => exact ⟨cert, rfl, htime⟩
      | succ i => exact hlinked.inValidity i (by omega)
    · intro i hi
      cases i with
      | zero =>
        obtain ⟨next, hget, -⟩ := hlinked.inValidity 0 (Nat.zero_le j)
        exact ⟨cert, next, rfl, hget, hnext next hget⟩
      | succ i =>
        obtain ⟨cert', next', hcert, hnext', hissued, hpath⟩ := hlinked.issued i (by omega)
        refine ⟨cert', next', hcert, hnext', hissued, ?_⟩
        rwa [Nat.add_assoc, Nat.add_comm 1 i] at hpath
    · intro i hi
      cases i with
      | zero => exact ⟨cert, rfl, hnone⟩
      | succ i => exact hlinked.untrusted i (by omega)

/-- The trusted certificate that validation uses for a place of the chain: the first one with the
name of the issuer. -/
def UsedAnchor (trusted chain : List Certificate) (k : ℕ) (trust : Certificate) : Prop :=
  ∃ cert, chain[k]? = some cert ∧ findTrust trusted cert = some trust

/-- A certificate for whose issuer there is no trusted certificate was not issued by one. -/
lemma not_issuedBy_of_findTrust (h : findTrust trusted cert = none) (hmem : trust ∈ trusted) :
    ¬ IssuedBy v cert trust := by
  intro hissued
  have hname := (x509NameCompare_eq_zero_iff _ _).mpr hissued.name
  exact find?_eq_none.mp h trust hmem (by simp [hname])

/-- A chain that validates against a non-empty list of trusted certificates is linked up to the one
that was used.  It is sound, for this or another place and trusted certificate, exactly if some
trusted certificate whose path length constraint is met is linked to the certificates from that
place on. -/
theorem validated_sound_iff {v : Validation} {trusted chain : List Certificate} {r : Option ℕ}
    (htrusted : trusted ≠ []) (h : x509CertificateChainValidate v trusted chain = .ok r) :
    ∃ k used, r = some k ∧ UsedAnchor trusted chain k used ∧ Linked v trusted chain 0 k used ∧
      ((∃ j trust, SoundChain v trusted chain j trust) ↔
        ∃ j trust, k ≤ j ∧ Linked v trusted chain k j trust ∧ PathLenMet trust j) := by
  obtain ⟨found, hloop, h⟩ := Checked.bind_eq_ok.mp h
  cases found with
  | none =>
    rw [if_pos htrusted] at h
    cases h
  | some k =>
    cases h
    obtain ⟨j, used, hk, hlinked⟩ := linkedFrom_of_validateFrom hloop
    rw [Nat.zero_add] at hk
    subst hk
    obtain ⟨cert, hcert, hfind, hmem, hissued⟩ := hlinked.anchored
    have hall : Linked v trusted chain 0 k used :=
      { inValidity := fun i _ => hlinked.inValidity i
        issued := fun i _ => by simpa only [Nat.zero_add] using hlinked.issued i
        anchored := ⟨cert, hcert, hmem, hissued⟩ }
    refine ⟨k, used, rfl, ⟨cert, hcert, hfind⟩, hall, ?_, ?_⟩
    · rintro ⟨j, trust, hsound, hpath⟩
      obtain ⟨last, hlast, htrust, hissued'⟩ := hsound.anchored
      have hle : k ≤ j := by
        by_contra hlt
        obtain ⟨last', hlast', hnone⟩ := hlinked.untrusted j (not_le.mp hlt)
        cases hlast.symm.trans hlast'
        exact not_issuedBy_of_findTrust hnone htrust hissued'
      exact ⟨j, trust, hle, ⟨fun i _ => hsound.inValidity i (Nat.zero_le i),
        fun i _ => hsound.issued i (Nat.zero_le i), hsound.anchored⟩, hpath⟩
    · rintro ⟨j, trust, hle, hbehind, hpath⟩
      refine ⟨j, trust, ⟨?_, ?_, hbehind.anchored⟩, hpath⟩
      · intro i _ hi
        obtain hik | hki := le_total i k
        · exact hall.inValidity i (Nat.zero_le i) hik
        · exact hbehind.inValidity i hki hi
      · intro i _ hi
        obtain hik | hki := lt_or_ge i k
        · exact hall.issued i (Nat.zero_le i) hik
        · exact hbehind.issued i hki hi

def sampleName (text : Bytes) : Name := { attr := [(.cn, some text)] }

/-- A certificate of a CA that permits `pathLen` intermediate certificates, with a signature that
verifies. -/
def sampleCert (subject issuer : Bytes) (pathLen : ℕ) : Certificate where
  signature := sha256WithRsaEncryption
  issuer := sampleName issuer
  subject := sampleName subject
  notAfter := 100
  publicKey := derPublicKey (256 ^ 62 - 1) 1
  signValue := sampleBlock
  tbsCert := []
  extBasicConstraints := true
  extPathLenConstraint := true
  ca := 1
  pathLenConstraint := pathLen

def sampleChain : List Certificate := [sampleCert [97] [98] 0, sampleCert [98] [99] 0]

def sampleValidation : Validation := { hashes := sampleHashes, now := 50 }

/-- The chain of two validates against a trusted certificate that permits one intermediate
certificate. -/
theorem validated_sound_iff_of_sampleChain :
    x509CertificateChainValidate sampleValidation [sampleCert [99] [99] 1] sampleChain =
        .ok (some 1) ∧
      ∃ k used, some 1 = some k ∧ UsedAnchor [sampleCert [99] [99] 1] sampleChain k used ∧
        Linked sampleValidation [sampleCert [99] [99] 1] sampleChain 0 k used ∧
        ((∃ j trust, SoundChain sampleValidation [sampleCert [99] [99] 1] sampleChain j trust) ↔
          ∃ j trust, k ≤ j ∧
            Linked sampleValidation [sampleCert [99] [99] 1] sampleChain k j trust ∧
            PathLenMet trust j) := by
  have hvalid : x509CertificateChainValidate sampleValidation [sampleCert [99] [99] 1] sampleChain =
      .ok (some 1) := by decide +kernel
  exact ⟨hvalid, validated_sound_iff (by simp) hvalid⟩

/-- A trusted certificate that permits no intermediate certificates is accepted above one: the chain
validates and is not sound in any way. -/
theorem anchor_path_length_ignored :
    x509CertificateChainValidate sampleValidation [sampleCert [99] [99] 0] sampleChain =
        .ok (some 1) ∧
      ¬ ∃ k trust, SoundChain sampleValidation [sampleCert [99] [99] 0] sampleChain k trust := by
  refine ⟨by decide +kernel, ?_⟩
  rintro ⟨k, trust, hlinked, hpath⟩
  obtain ⟨cert, hcert, hmem, hissued⟩ := hlinked.anchored
  have htrust : trust = sampleCert [99] [99] 0 := by simpa using hmem
  subst htrust
  have hzero : k = 0 := Nat.le_zero.mp (hpath rfl)
  subst hzero
  cases hcert
  have hname := hissued.name.1
  exact absurd hname (by decide)

end Hostapd.Tls

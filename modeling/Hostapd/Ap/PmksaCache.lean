import Hostapd.Foundation.Checked
import Hostapd.Foundation.Index
import Hostapd.Foundation.Machine
import Hostapd.Wpa.Common

/-!
# The PMKSA cache of the authenticator

The cache of `src/ap/pmksa_cache_auth.c`: pairwise master keys of stations that have authenticated
before, on a list in the order of their expiration and in 128 hash chains for the search by PMKID.

An entry is known by the address of its structure. Of the data kept for the EAPOL state machine only
what a RADIUS Disconnect-Request is compared with is modelled. `pmksa_cache_expire` may run at any
time.
-/

namespace Hostapd.Ap

open Wire Wpa

/-! ## Data -/

def pmksaCacheMaxEntries : ℕ := 1024

def dot11RSNAConfigPMKLifetime : ℕ := 43200

def pmkLenMax : ℕ := 48

abbrev Pmkid := Octets 16

/-- A cache entry (`struct rsn_pmksa_cache_entry`). -/
structure PmksaEntry where
  ref : ℕ
  pmkid : Pmkid
  pmk : Bytes
  expiration : ℕ
  akmp : KeyMgmt
  spa : Mac
  identity : Option Bytes
  cui : Option Bytes
  opportunistic : Bool
  acctMultiSessionId : UInt64
deriving DecidableEq

/-- The hash of a PMKID (`PMKID_HASH`). -/
def pmkidHash (pmkid : Pmkid) : Fin 128 := Fin.ofNat 128 (pmkid.val.headD 0 &&& 0x7f).toNat

/-- The cache (`struct rsn_pmksa_cache`). -/
structure PmksaCache where
  pmkid : Fin 128 → List PmksaEntry := fun _ => []
  pmksa : List PmksaEntry := []
  pmksaCount : ℤ := 0
  nextRef : ℕ := 0

/-- The hashes that PMKIDs are made of. -/
structure PmkidCrypto where
  /-- `rsn_pmkid`: PMK, authenticator and station address, and whether SHA-256 is used. -/
  rsnPmkid : Bytes → Mac → Mac → Bool → Pmkid
  /-- `rsn_pmkid_suite_b`: KCK, authenticator and station address. -/
  rsnPmkidSuiteB : Bytes → Mac → Mac → Pmkid
  rsnPmkidSuiteB192 : Bytes → Mac → Mac → Pmkid

/-- What an entry copies from the EAPOL state machine; a copy that fails is none. -/
structure EapolData where
  identity : Option Bytes := none
  cui : Option Bytes := none
  acctMultiSessionId : UInt64 := 0

namespace PmksaCache

/-! ## Linking and unlinking -/

/-- Unlink an entry from its chain and from the list (`pmksa_cache_free_entry`). -/
def freeEntry (entry : PmksaEntry) (c : PmksaCache) : PmksaCache :=
  let hash := pmkidHash entry.pmkid
  { c with
    pmksaCount := c.pmksaCount - 1
    pmkid := Function.update c.pmkid hash ((c.pmkid hash).eraseP (·.ref == entry.ref))
    pmksa := c.pmksa.eraseP (·.ref == entry.ref) }

/-- Free the first entry as long as it meets a condition, at most `fuel` times. -/
def freeWhile (p : PmksaEntry → Bool) : ℕ → PmksaCache → PmksaCache
  | 0, c => c
  | fuel + 1, c =>
    match c.pmksa with
    | [] => c
    | entry :: _ => if p entry then freeWhile p fuel (freeEntry entry c) else c

/-- Free all entries (`pmksa_cache_auth_flush`). -/
def authFlush (c : PmksaCache) : PmksaCache := freeWhile (fun _ => true) c.pmksa.length c

/-- Free the entries that have expired (`pmksa_cache_expire`). -/
def expire (now : ℕ) (c : PmksaCache) : PmksaCache :=
  freeWhile (·.expiration ≤ now) c.pmksa.length c

/-- Put an entry in front of the first one that expires later, and at the head of its chain
(`pmksa_cache_link_entry`). -/
def linkEntry (entry : PmksaEntry) (c : PmksaCache) : PmksaCache :=
  let hash := pmkidHash entry.pmkid
  { c with
    pmksa := c.pmksa.orderedInsert (·.expiration < ·.expiration) entry
    pmkid := Function.update c.pmkid hash (entry :: c.pmkid hash)
    pmksaCount := c.pmksaCount + 1 }

/-! ## Searching -/

def matchesSpa (spa : Option Mac) (entry : PmksaEntry) : Bool := spa.all (· == entry.spa)

/-- The first entry with an address and a PMKID, if they are given (`pmksa_cache_auth_get`). -/
def authGet (spa : Option Mac) (pmkid : Option Pmkid) (c : PmksaCache) : Option PmksaEntry :=
  match pmkid with
  | some pmkid =>
    (c.pmkid (pmkidHash pmkid)).find? fun e => matchesSpa spa e && e.pmkid == pmkid
  | none => c.pmksa.find? (matchesSpa spa)

/-! ## Adding -/

variable (crypto : PmkidCrypto)

/-- The key of a new entry and what it belongs to. -/
structure NewKey where
  pmk : Bytes
  pmkid : Option Pmkid := none
  kck : Option Bytes := none
  aa : Mac
  spa : Mac
  sessionTimeout : ℤ := 0
  eapol : Option EapolData := none
  akmp : KeyMgmt

/-- The PMKID that is given or derived. -/
def NewKey.entryPmkid (k : NewKey) : Pmkid :=
  match k.pmkid with
  | some pmkid => pmkid
  | none =>
    if k.akmp = .ieee8021xSuiteB192 then crypto.rsnPmkidSuiteB192 (k.kck.getD []) k.aa k.spa
    else if k.akmp.suiteB then crypto.rsnPmkidSuiteB (k.kck.getD []) k.aa k.spa
    else crypto.rsnPmkid k.pmk k.aa k.spa k.akmp.sha256

/-- The entry that `pmksa_cache_auth_add` makes. -/
def NewKey.entry (now ref : ℕ) (k : NewKey) : PmksaEntry where
  ref := ref
  pmkid := k.entryPmkid crypto
  pmk := k.pmk
  expiration :=
    now + if 0 < k.sessionTimeout then k.sessionTimeout.toNat else dot11RSNAConfigPMKLifetime
  akmp := k.akmp
  spa := k.spa
  identity := k.eapol.bind (·.identity)
  cui := k.eapol.bind (·.cui)
  opportunistic := false
  acctMultiSessionId := (k.eapol.map (·.acctMultiSessionId)).getD 0

/-- Free the entry of a station that a new one replaces. -/
def freeOld (spa : Mac) (c : PmksaCache) : PmksaCache :=
  match c.authGet (some spa) none with
  | none => c
  | some old => c.freeEntry old

/-- Free the first entry if the cache is full. -/
def makeRoom (c : PmksaCache) : PmksaCache :=
  match c.pmksa with
  | [] => c
  | first :: _ => if (pmksaCacheMaxEntries : ℤ) ≤ c.pmksaCount then c.freeEntry first else c

/-- Add an entry for a key (`pmksa_cache_auth_add`); `allocated` tells whether there is memory for
it. -/
def authAdd (now : ℕ) (k : NewKey) (allocated : Bool) (c : PmksaCache) : PmksaCache :=
  if pmkLenMax < k.pmk.length then c
  else if k.akmp.suiteB ∧ k.kck.isNone then c
  else if !allocated then c
  else
    let entry := k.entry crypto now c.nextRef
    linkEntry entry (makeRoom (freeOld k.spa { c with nextRef := c.nextRef + 1 }))

/-- Add an entry for this authenticator to one that was found in some cache
(`pmksa_cache_add_okc`). -/
def addOkc (oldEntry : PmksaEntry) (pmkid : Pmkid) (allocated : Bool) (c : PmksaCache) :
    PmksaCache :=
  if !allocated then c
  else
    let entry :=
      { oldEntry with ref := c.nextRef, pmkid, opportunistic := true, acctMultiSessionId := 0 }
    linkEntry entry { c with nextRef := c.nextRef + 1 }

/-! ## RADIUS Disconnect-Requests -/

/-- What a Disconnect-Request is about (`struct radius_das_attrs`). -/
structure DasAttrs where
  staAddr : Option Mac := none
  acctSessionId : Option Bytes := none
  acctMultiSessionId : Option Bytes := none
  cui : Option Bytes := none
  userName : Option Bytes := none

def hexDigit (n : ℕ) : UInt8 := UInt8.ofNat (if n < 10 then 48 + n else 55 + n)

/-- The number in 16 hexadecimal digits (`%016llX`). -/
def hex16 (n : UInt64) : Bytes :=
  (List.range 16).map fun i => hexDigit (n.toNat / 16 ^ (15 - i) % 16)

/-- The attributes match the entry, and there is one (`das_attr_match`). -/
def dasAttrMatch (attr : DasAttrs) (entry : PmksaEntry) : Bool :=
  attr.staAddr.all (· == entry.spa) &&
    attr.acctMultiSessionId.all (· == hex16 entry.acctMultiSessionId) &&
    attr.cui.all (some · == entry.cui) &&
    attr.userName.all (some · == entry.identity) &&
    (attr.staAddr.isSome || attr.acctMultiSessionId.isSome || attr.cui.isSome ||
      attr.userName.isSome)

/-- Free the entries of a list that match.  The pointer to the next entry is read before an entry is
freed. -/
def freeMatching (p : PmksaEntry → Bool) : List PmksaEntry → PmksaCache → PmksaCache
  | [], c => c
  | entry :: rest, c => freeMatching p rest (if p entry then c.freeEntry entry else c)

/-- Free the entries that a Disconnect-Request is about
(`pmksa_cache_auth_radius_das_disconnect`). -/
def radiusDasDisconnect (attr : DasAttrs) (c : PmksaCache) : PmksaCache :=
  if attr.acctSessionId.isSome then c else freeMatching (dasAttrMatch attr) c.pmksa c

/-! ## Runs -/

/-- The calls of the cache. -/
inductive Event
  | add (now : ℕ) (key : NewKey) (allocated : Bool)
  | addOkc (oldEntry : PmksaEntry) (pmkid : Pmkid) (allocated : Bool)
  /-- `pmksa_cache_free_entry` for the entry at an address. -/
  | free (ref : ℕ)
  | remove (spa : Mac)
  | flush
  | expire (now : ℕ)
  | das (attr : DasAttrs)

/-- One call.  Freeing an entry that is not in the cache would free it twice. -/
def step (c : PmksaCache) : Event → Checked PmksaCache
  | .add now key allocated => .ok (c.authAdd crypto now key allocated)
  | .addOkc oldEntry pmkid allocated => .ok (c.addOkc oldEntry pmkid allocated)
  | .free ref =>
    match c.pmksa.find? (·.ref == ref) with
    | none => .error .useAfterFree
    | some entry => .ok (c.freeEntry entry)
  | .remove spa => .ok (c.freeOld spa)
  | .flush => .ok c.authFlush
  | .expire now => .ok (c.expire now)
  | .das attr => .ok (c.radiusDasDisconnect attr)

end PmksaCache

end Hostapd.Ap

import Hostapd.Foundation.Octets
import Mathlib.Data.Nat.Log

/-!
# Simultaneous authentication of equals

The calculations of `src/common/sae.c`: the commit of an end, the keys that it derives from the
commit of its peer, and the confirm by which each end proves that it has the keys.

Where a value is a group element the source keeps two pointers, one for elliptic-curve and one for
finite-field groups. A `Group` has its operations for one type of elements; `EcGroup` and `DhGroup`
are its two kinds. A pointer that may be `NULL` is an `Option`; following one that is `NULL` is a
fault.
-/

namespace Hostapd.Sae

open Wire

/-- What the handling of a frame can do wrong. -/
inductive SaeFault
  /-- A commit is written, or keys are derived, with a value that is `NULL`. -/
  | commitFromNull
  /-- A confirm is calculated with a value that is `NULL`. -/
  | confirmFromNull
  /-- A field of a station is read after the station has been removed. -/
  | useAfterFree
deriving DecidableEq

def maxPrimeLen : ℕ := 512

def maxEccPrimeLen : ℕ := 66

/-- The two octets of `wpabuf_put_le16`. -/
def le16 (n : ℕ) : Bytes := [UInt8.ofNat n, UInt8.ofNat (n / 256)]

/-- `WPA_GET_LE16` of two octets. -/
def getLe16 (lo hi : UInt8) : ℕ := lo.toNat + 256 * hi.toNat

/-! ## Groups -/

/-- What reading a commit element does to the stored one. -/
inductive ElementParse (El : Type)
  | rejected
  /-- The stored element is replaced, by `NULL` when it could not be built; `ok` tells whether the
  element has passed the checks. -/
  | stored (element : Option El) (ok : Bool)

/-- A group in which the exchange can take place.  The operations fail as those of the crypto
library do. -/
structure Group (El : Type) where
  /-- The group is one of `crypto_ec_init`, not one of `dh_groups_get`. -/
  ecc : Bool
  primeLen : ℕ
  order : ℕ
  /-- The value of an element that has been allocated and not yet calculated. -/
  fresh : El
  scalarOp : El → ℕ → Option El
  elemOp : El → El → Option El
  inverse : El → Option El
  isIdentity : El → Bool
  toBin : El → Bytes
  /-- The octets of `k`, which is the x coordinate of a point. -/
  kToBin : El → Option Bytes
  /-- `sae_parse_commit_element_ecc` or `sae_parse_commit_element_ffc`. -/
  parseElement : Bytes → ElementParse El
  length_toBin : ∀ e, (toBin e).length = (if ecc then 2 else 1) * primeLen
  order_le : order ≤ 256 ^ primeLen
  pmkid_le : 16 ≤ primeLen

/-- A group of `crypto_ec_init` with points of type `Pt`. -/
structure EcGroup (Pt : Type) where
  prime : ℕ
  order : ℕ
  primeLen : ℕ
  init : Pt
  mul : Pt → ℕ → Option Pt
  add : Pt → Pt → Option Pt
  invert : Pt → Option Pt
  isAtInfinity : Pt → Bool
  /-- The affine coordinates that `crypto_ec_point_to_bin` writes. -/
  coords : Pt → Option (ℕ × ℕ)
  /-- The point that `crypto_ec_point_from_bin` makes of two coordinates. -/
  fromCoords : ℕ → ℕ → Option Pt
  isOnCurve : Pt → Bool
  prime_lt : prime < 256 ^ primeLen
  order_le : order ≤ 256 ^ primeLen
  pmkid_le : 16 ≤ primeLen

/-- A group of `dh_groups_get`. -/
structure DhGroup where
  prime : ℕ
  order : ℕ
  primeLen : ℕ
  prime_lt : prime < 256 ^ primeLen
  order_le : order ≤ 256 ^ primeLen
  pmkid_le : 16 ≤ primeLen

/-- `sae_parse_commit_element_ecc`. -/
def saeParseCommitElementEcc {Pt : Type} (e : EcGroup Pt) (rest : Bytes) : ElementParse Pt :=
  if rest.length < 2 * e.primeLen ∨ maxEccPrimeLen < e.primeLen then
    .rejected
  else
    let x := rest.take e.primeLen
    let y := (rest.drop e.primeLen).take e.primeLen
    let prime := toBe e.primeLen e.prime
    -- element x and y coordinates < p
    if 0 ≤ memcmp x prime ∨ 0 ≤ memcmp y prime then
      .rejected
    else
      match e.fromCoords (beNat x) (beNat y) with
      | none => .stored none false
      | some p => .stored (some p) (e.isOnCurve p)

/-- The octets of a point; a point at infinity has none and leaves the buffer as it was. -/
def EcGroup.toBin {Pt : Type} (e : EcGroup Pt) (p : Pt) : Bytes :=
  match e.coords p with
  | some (x, y) => toBe e.primeLen x ++ toBe e.primeLen y
  | none => List.replicate (2 * e.primeLen) 0

/-- The operations of `sae.c` on an elliptic curve. -/
def EcGroup.toGroup {Pt : Type} (e : EcGroup Pt) : Group Pt where
  ecc := true
  primeLen := e.primeLen
  order := e.order
  fresh := e.init
  scalarOp := e.mul
  elemOp := e.add
  inverse := e.invert
  isIdentity := e.isAtInfinity
  toBin := e.toBin
  kToBin p := (e.coords p).map fun c => toBe e.primeLen c.1
  parseElement := saeParseCommitElementEcc e
  length_toBin p := by
    unfold EcGroup.toBin
    split
    · rw [List.length_append, length_toBe, length_toBe, if_pos rfl, two_mul]
    · rw [List.length_replicate, if_pos rfl]
  order_le := e.order_le
  pmkid_le := e.pmkid_le

def exptmod (a n p : ℕ) : ℕ := a ^ n % p

/-- `crypto_bignum_inverse`: the number below `p` that gives one with `a`. -/
def inversemod (a p : ℕ) : Option ℕ := (List.range p).find? fun b => a * b % p == 1

/-- `sae_parse_commit_element_ffc`. -/
def saeParseCommitElementFfc (d : DhGroup) (rest : Bytes) : ElementParse ℕ :=
  if rest.length < d.primeLen then
    .rejected
  else
    let e := beNat (rest.take d.primeLen)
    -- 1 < element < p - 1 and scalar-op(r, ELEMENT) = 1 modulo p
    .stored (some e)
      (!(e == 0 || e == 1 || decide (d.prime - 1 ≤ e)) && exptmod e d.order d.prime == 1)

/-- The operations of `sae.c` in a finite field. -/
def DhGroup.toGroup (d : DhGroup) : Group ℕ where
  ecc := false
  primeLen := d.primeLen
  order := d.order
  fresh := 0
  scalarOp a n := some (exptmod a n d.prime)
  elemOp a b := some (a * b % d.prime)
  inverse a := inversemod a d.prime
  isIdentity a := a == 1
  toBin a := toBe d.primeLen a
  kToBin a := some (toBe d.primeLen a)
  parseElement := saeParseCommitElementFfc d
  length_toBin a := by rw [length_toBe, if_neg Bool.false_ne_true, one_mul]
  order_le := d.order_le
  pmkid_le := d.pmkid_le

/-! ## Data -/

variable {El : Type}

/-- The states of an exchange. -/
inductive SaeState
  | nothing
  | committed
  | confirmed
  | accepted
deriving DecidableEq

/-- `struct sae_temporary_data`. -/
structure Tmp (El : Type) where
  /-- The key of the confirms; `none` while the zeroed buffer has not been filled. -/
  kck : Option (Octets 32) := none
  ownCommitScalar : Option ℕ := none
  ownCommitElement : Option El := none
  peerCommitElement : Option El := none
  pwe : Option El := none
  saeRand : Option ℕ := none
  /-- `ec` or `dh`; `none` when the group is not supported. -/
  group : Option (Group El) := none
  antiCloggingToken : Option Bytes := none

/-- The data of an exchange. -/
structure SaeData (El : Type) where
  state : SaeState := .nothing
  sendConfirm : UInt16 := 0
  pmk : Octets 32 := .zero 32
  pmkid : Octets 16 := .zero 16
  peerCommitScalar : Option ℕ := none
  group : ℕ := 0
  sync : ℕ := 0
  tmp : Option (Tmp El) := none

variable (t : Tmp El)

/-- The number of octets of the prime, zero without a group. -/
def Tmp.primeLen : ℕ := t.group.elim 0 Group.primeLen

def Tmp.order : ℕ := t.group.elim 0 Group.order

/-- The octets that the scalar and the element take. -/
def Tmp.commitLen : ℕ :=
  (if t.group.elim false Group.ecc then 3 else 2) * t.primeLen

/-- The groups that the crypto library supports, by their numbers. -/
abbrev Groups (El : Type) := ℕ → Option (Group El)

/-- The keyed hashes of SAE. -/
structure Hashes where
  /-- `hmac_sha256` and `hmac_sha256_vector` with a key and the octets of all parts. -/
  hmacSha256 : Bytes → Bytes → Octets 32
  /-- `sha256_prf` with a key, a label and data. -/
  sha256Prf : Bytes → String → Bytes → Option (Octets 64)

variable (d : SaeData El)

def saeClearTempData : SaeData El := { d with tmp := none }

def saeClearData (_ : SaeData El) : SaeData El := {}

/-- `sae_set_group`.  The temporary data of a group that is not supported stay, without a group. -/
def saeSetGroup (lib : Groups El) (d : SaeData El) (group : ℕ) : SaeData El × Bool :=
  let d := saeClearData d
  match lib group with
  | none => ({ d with tmp := some {} }, false)
  | some g =>
    if !g.ecc && decide (maxPrimeLen < g.primeLen) then
      (saeClearData d, false)
    else
      ({ d with group := group, tmp := some { group := some g } }, true)

/-! ## The own commit -/

/-- The octets of a number from below the order. -/
def orderLen (order : ℕ) : ℕ := ((if order = 0 then 0 else order.log2 + 1) + 7) / 8

/-- The bits of these octets that are shifted out. -/
def orderShift (order : ℕ) : ℕ :=
  8 * orderLen order - (if order = 0 then 0 else order.log2 + 1)

/-- The loop of `sae_get_rand`, from the question `i` to `random_get_bytes` on. -/
def getRandLoop (order : ℕ) (draw : ℕ → Option Bytes) : ℕ → ℕ → Option (ℕ × ℕ)
  | 0, _ => none
  | n + 1, i =>
    match draw i with
    | none => none
    | some val =>
      let bn := beNat (Octets.ofList (orderLen order) val).val / 2 ^ orderShift order
      if bn = 0 ∨ bn = 1 ∨ order ≤ bn then getRandLoop order draw n (i + 1) else some (bn, i + 1)

/-- `sae_get_rand`. -/
def saeGetRand (order : ℕ) (draw : ℕ → Option Bytes) (i : ℕ) : Option (ℕ × ℕ) :=
  if maxPrimeLen < orderLen order then none else getRandLoop order draw 101 i

/-- The loop of `sae_derive_commit`: until the scalar is neither zero nor one. -/
def deriveCommitLoop (order : ℕ) (draw : ℕ → Option Bytes) :
    ℕ → ℕ → Tmp El → Tmp El × Option ℕ
  | 0, _, t => (t, none)
  | n + 1, i, t =>
    match saeGetRand order draw i with
    | none => ({ t with saeRand := none }, none)
    | some (rand, i) =>
      match saeGetRand order draw i with
      | none => ({ t with saeRand := some rand }, none)
      | some (mask, i) =>
        -- commit-scalar = (rand + mask) modulo r
        let scalar := (rand + mask) % order
        let t := { t with saeRand := some rand, ownCommitScalar := some scalar }
        if scalar = 0 ∨ scalar = 1 then deriveCommitLoop order draw n i t else (t, some mask)

/-- `sae_derive_commit_element_ecc` and `sae_derive_commit_element_ffc`:
COMMIT-ELEMENT = inverse(scalar-op(mask, PWE)). -/
def saeDeriveCommitElement (g : Group El) (pwe : El) (mask : ℕ) (t : Tmp El) : Tmp El × Bool :=
  match g.scalarOp pwe mask with
  | none => ({ t with ownCommitElement := some (t.ownCommitElement.getD g.fresh) }, false)
  | some e =>
    match g.inverse e with
    | none => ({ t with ownCommitElement := some e }, false)
    | some e => ({ t with ownCommitElement := some e }, true)

/-- `sae_derive_commit`. -/
def saeDeriveCommit (draw : ℕ → Option Bytes) (t : Tmp El) :
    Except SaeFault (Tmp El × Bool) :=
  match t.group, t.pwe with
  | some g, some pwe =>
    match deriveCommitLoop g.order draw 100 0 t with
    | (t, none) => .ok (t, false)
    | (t, some mask) => .ok (saeDeriveCommitElement g pwe mask t)
  | _, _ => .error .commitFromNull

/-- `sae_write_commit`. -/
def saeWriteCommit (token : Option Bytes) : Except SaeFault Bytes :=
  match d.tmp with
  | none => .ok []
  | some t =>
    match t.group, t.ownCommitScalar, t.ownCommitElement with
    | some g, some s, some e =>
      .ok (le16 d.group ++ (token.getD [] ++ (toBe g.primeLen s ++ g.toBin e)))
    | _, _, _ => .error .commitFromNull

/-! ## The commit of the peer -/

/-- The status codes of an answer, with the special values of the source. -/
inductive Status
  | success
  | unspecifiedFailure
  | unknownAuthTransaction
  | antiCloggingTokenReq
  | finiteCyclicGroupNotSupported
  | silentlyDiscard
  | failed
deriving DecidableEq

/-- `sae_group_allowed`.  Of the configured groups the entries before the terminator are given. -/
def saeGroupAllowed (lib : Groups El) (allowed : Option (List ℕ)) (d : SaeData El) (group : ℕ) :
    SaeData El × Status :=
  if allowed.elim false (fun l => !l.contains group) then
    (d, .finiteCyclicGroupNotSupported)
  else if d.state = .committed ∧ group ≠ d.group then
    (d, .finiteCyclicGroupNotSupported)
  else
    let (d, supported) := if group = d.group then (d, true) else saeSetGroup lib d group
    if !supported then
      (d, .finiteCyclicGroupNotSupported)
    else
      match d.tmp with
      | none => (d, .unspecifiedFailure)
      | some t =>
        if t.group.elim false (fun g => !g.ecc) && allowed.isNone then
          (d, .finiteCyclicGroupNotSupported)
        else
          (d, .success)

/-- `sae_parse_commit_token`: what is in excess of the scalar and the element is a token. -/
def saeParseCommitToken (rest : Bytes) : Option Bytes × Bytes :=
  if t.commitLen < rest.length then
    (some (rest.take (rest.length - t.commitLen)), rest.drop (rest.length - t.commitLen))
  else
    (none, rest)

/-- `sae_parse_commit_scalar`: the scalar to be stored. -/
def saeParseCommitScalar (t : Tmp El) (rest : Bytes) : Option ℕ :=
  if rest.length < t.primeLen then
    none
  else
    let peerScalar := beNat (rest.take t.primeLen)
    if d.state = .accepted ∧ d.peerCommitScalar = some peerScalar then
      none
    else if peerScalar = 0 ∨ peerScalar = 1 ∨ t.order ≤ peerScalar then
      none
    else
      some peerScalar

/-- `sae_parse_commit_element`. -/
def saeParseCommitElement (rest : Bytes) : Tmp El × Bool :=
  match t.group with
  | none => (t, false)
  | some g =>
    match g.parseElement rest with
    | .rejected => (t, false)
    | .stored e ok => ({ t with peerCommitElement := e }, ok)

/-- The commit is the own one. -/
def reflected [DecidableEq El] (t : Tmp El) (peerScalar : ℕ) : Bool :=
  decide (t.ownCommitScalar = some peerScalar) && t.ownCommitElement.isSome &&
    decide (t.ownCommitElement = t.peerCommitElement)

/-- `sae_parse_commit` after the group. -/
def parseCommitValues [DecidableEq El] (d : SaeData El) (t : Tmp El) (rest : Bytes) :
    SaeData El × Status × Option Bytes :=
  let (token, rest) := saeParseCommitToken t rest
  match saeParseCommitScalar d t rest with
  | none => (d, .unspecifiedFailure, token)
  | some peerScalar =>
    let (t', ok) := saeParseCommitElement t (rest.drop t.primeLen)
    let d := { d with peerCommitScalar := some peerScalar, tmp := some t' }
    if !ok then
      (d, .unspecifiedFailure, token)
    else if reflected t' peerScalar then
      (d, .silentlyDiscard, token)
    else
      (d, .success, token)

/-- `sae_parse_commit`, with the token that was found. -/
def saeParseCommit [DecidableEq El] (lib : Groups El) (allowed : Option (List ℕ))
    (d : SaeData El) (data : Bytes) : SaeData El × Status × Option Bytes :=
  match data with
  | lo :: hi :: rest =>
    match saeGroupAllowed lib allowed d (getLe16 lo hi) with
    | (d, .success) =>
      match d.tmp with
      | none => (d, .unspecifiedFailure, none)
      | some t => parseCommitValues d t rest
    | (d, status) => (d, status, none)
  | _ => (d, .unspecifiedFailure, none)

/-! ## Keys -/

/-- `sae_derive_k_ecc` and `sae_derive_k_ffc`: K = scalar-op(rand,
elem-op(scalar-op(peer-commit-scalar, PWE), PEER-COMMIT-ELEMENT)), which must not be the identity,
and k = F(K). -/
def saeDeriveK (g : Group El) (pwe : El) (peerScalar : ℕ) (peerElement : El) (rand : ℕ) :
    Option Bytes := do
  let K ← g.scalarOp pwe peerScalar
  let K ← g.elemOp K peerElement
  let K ← g.scalarOp K rand
  if g.isIdentity K then none else g.kToBin K

variable (h : Hashes)

/-- `sae_derive_keys`. -/
def saeDeriveKeys (g : Group El) (d : SaeData El) (t : Tmp El) (own peer : ℕ) (k : Bytes) :
    Option (SaeData El) := do
  let keyseed := h.hmacSha256 (List.replicate 32 0) k
  let val := toBe g.primeLen ((own + peer) % g.order)
  let keys ← h.sha256Prf keyseed.val "SAE KCK and PMK" val
  pure { d with
    tmp := some { t with kck := some (.ofList 32 keys.val) }
    pmk := .ofList 32 (keys.val.drop 32)
    pmkid := .ofList 16 val }

/-- `k` as an end with these data calculates it; the outer `none` is a `NULL` pointer. -/
def deriveK (t : Tmp El) : Option (Option Bytes) := do
  let g ← t.group
  let pwe ← t.pwe
  let peerScalar ← d.peerCommitScalar
  let peerElement ← t.peerCommitElement
  let rand ← t.saeRand
  pure (saeDeriveK g pwe peerScalar peerElement rand)

/-- The key derivation with the own scalar, which the calculation of `k` does not need. -/
def deriveKeys (d : SaeData El) (t : Tmp El) (k : Bytes) :
    Except SaeFault (Option (SaeData El)) :=
  match t.group, t.ownCommitScalar, d.peerCommitScalar with
  | some g, some own, some peer => .ok (saeDeriveKeys h g d t own peer k)
  | _, _, _ => .error .commitFromNull

/-- `sae_process_commit`; `none` is a failure, which leaves the data as they were. -/
def saeProcessCommit (d : SaeData El) : Except SaeFault (Option (SaeData El)) :=
  match d.tmp with
  | none => .ok none
  | some t =>
    match deriveK d t with
    | none => .error .commitFromNull
    | some none => .ok none
    | some (some k) => deriveKeys h d t k

/-! ## Confirms -/

/-- The values that a confirm is calculated from, one end's first. -/
structure ConfirmValues (El : Type) where
  group : Group El
  ownScalar : ℕ
  ownElement : El
  peerScalar : ℕ
  peerElement : El

/-- The values of an end, if none of them is `NULL`. -/
def confirmValues (t : Tmp El) : Option (ConfirmValues El) := do
  let g ← t.group
  let ownScalar ← t.ownCommitScalar
  let ownElement ← t.ownCommitElement
  let peerScalar ← d.peerCommitScalar
  let peerElement ← t.peerCommitElement
  pure ⟨g, ownScalar, ownElement, peerScalar, peerElement⟩

/-- `sae_cn_confirm`: CN(KCK, send-confirm, scalar1, ELEMENT1, scalar2, ELEMENT2).  A key that has
not been derived is a buffer of zeros. -/
def saeCnConfirm (g : Group El) (kck : Option (Octets 32)) (sc : Bytes) (scalar1 : ℕ)
    (element1 : El) (scalar2 : ℕ) (element2 : El) : Octets 32 :=
  h.hmacSha256 (kck.getD (.zero 32)).val
    (sc ++ (toBe g.primeLen scalar1 ++ (g.toBin element1 ++
      (toBe g.primeLen scalar2 ++ g.toBin element2))))

/-- `sae_write_confirm`. -/
def saeWriteConfirm (d : SaeData El) : Except SaeFault (SaeData El × Bytes) :=
  match d.tmp with
  | none => .ok (d, [])
  | some t =>
    match confirmValues d t with
    | none => .error .confirmFromNull
    | some v =>
      let sc := le16 d.sendConfirm.toNat
      .ok ({ d with sendConfirm := d.sendConfirm + 1 },
        sc ++ (saeCnConfirm h v.group t.kck sc v.ownScalar v.ownElement v.peerScalar
          v.peerElement).val)

/-- `sae_check_confirm`. -/
def saeCheckConfirm (d : SaeData El) (data : Bytes) : Except SaeFault Bool :=
  if data.length < 2 + 32 then
    .ok false
  else
    match d.tmp with
    | none => .ok false
    | some t =>
      match confirmValues d t with
      | none => .error .confirmFromNull
      | some v =>
        let verifier := saeCnConfirm h v.group t.kck (data.take 2) v.peerScalar v.peerElement
          v.ownScalar v.ownElement
        .ok (decide (verifier.val = (data.drop 2).take 32))

end Hostapd.Sae

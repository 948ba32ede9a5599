import Hostapd.Foundation.Selection
import Hostapd.Pae.System

/-!
# The election of the key server

When all members of a connectivity association elect the same key server.

`Candidate.rank` is the number that `compare_priorities` compares: the priority and then the MAC
address. The port number of the SCI is not part of it, so two candidates with distinct SCIs can have
the same rank, and then neither elects itself. `FullMesh`: every member lists all the others with
their true data. `ElectionAgrees`: one member is elected, by all members and whatever the order of
their lists.
-/

namespace Hostapd.Pae

open Wire Selection List Prod

/-! ## Ranks -/

/-- The number that `compare_priorities` compares. -/
def Candidate.rank (c : Candidate) : ℕ := c.keyServerPriority.toNat * 256 ^ 6 + beNat c.sci.addr.val

lemma Candidate.beNat_addr_lt (c : Candidate) : beNat c.sci.addr.val < 256 ^ 6 := by
  have h := beNat_lt c.sci.addr.val
  rwa [c.sci.addr.length_val] at h

/-- The comparison is that of the ranks. -/
lemma comparePriorities_neg_iff {a b : Candidate} :
    comparePriorities a b < 0 ↔ a.rank < b.rank := by
  have ha := a.beNat_addr_lt
  have hb := b.beNat_addr_lt
  have hmem : memcmp a.sci.addr.val b.sci.addr.val < 0 ↔
      beNat a.sci.addr.val < beNat b.sci.addr.val :=
    memcmp_neg_iff (by simp)
  unfold comparePriorities Candidate.rank
  split_ifs with h1 h2
  · have hlt := UInt8.lt_iff_toNat_lt.mp h1
    exact iff_of_true (by decide) (by omega)
  · have hlt := UInt8.lt_iff_toNat_lt.mp h2
    exact iff_of_false (by decide) (by omega)
  · rw [UInt8.lt_iff_toNat_lt] at h1 h2
    omega

/-- A peer is better than another in the loop of the election. -/
def Peer.betterThan (peer other : Peer) : Bool :=
  decide (comparePriorities peer.candidate other.candidate < 0)

lemma Peer.betterThan_iff (peer other : Peer) :
    peer.betterThan other ↔ peer.candidate.rank < other.candidate.rank := by
  simp [Peer.betterThan, comparePriorities_neg_iff]

lemma electPeer_eq_best (peers : List Peer) :
    electPeer peers = best Peer.betterThan (peers.filter fun peer => peer.isKeyServer) := by
  rw [best, foldl_filter]
  unfold electPeer
  congr 1
  funext ks peer
  unfold electStep keepBest Peer.betterThan
  cases peer.isKeyServer <;> cases ks <;> simp

variable {peers : List Peer}

lemma electPeer_eq_some {ks : Peer} (h : electPeer peers = some ks) :
    ks ∈ peers ∧ ks.isKeyServer ∧
      ∀ peer ∈ peers, peer.isKeyServer → ks.candidate.rank ≤ peer.candidate.rank := by
  rw [electPeer_eq_best] at h
  obtain ⟨hmem, hle⟩ := mem_and_rank_le_of_best Peer.betterThan_iff h
  rw [mem_filter] at hmem
  exact ⟨hmem.1, hmem.2, fun peer hpeer hks => hle peer (mem_filter.mpr ⟨hpeer, hks⟩)⟩

lemma electPeer_eq_none (h : electPeer peers = none) :
    ∀ peer ∈ peers, peer.isKeyServer = false := by
  intro peer hpeer
  by_contra hks
  have hne : (peers.filter fun peer => peer.isKeyServer) ≠ [] :=
    ne_nil_of_mem (mem_filter.mpr ⟨hpeer, by simpa using hks⟩)
  obtain ⟨b, hb⟩ := best_isSome Peer.betterThan_iff hne
  rw [electPeer_eq_best, hb] at h
  cases h

/-! ## The outcome at one member -/

/-- A participant that is not obliged elects itself exactly when it can be key server and is better
than every live peer that claims to be. -/
lemma iIsKeyServer_electPeer_iff {k : Kay} {canBe : Bool} :
    iIsKeyServer k canBe (electPeer peers) ↔ canBe ∧
      ∀ peer ∈ peers, peer.isKeyServer → k.candidate.rank < peer.candidate.rank := by
  cases h : electPeer peers with
  | none =>
    have hnone := electPeer_eq_none h
    simp only [iIsKeyServer, iff_self_and]
    intro _ peer hpeer hks
    simp [hnone peer hpeer] at hks
  | some ks =>
    obtain ⟨hmem, hks, hle⟩ := electPeer_eq_some h
    simp only [iIsKeyServer, Bool.and_eq_true, decide_eq_true_eq, comparePriorities_neg_iff]
    constructor
    · rintro ⟨hcan, hlt⟩
      exact ⟨hcan, fun peer hpeer hp => lt_of_lt_of_le hlt (hle peer hpeer hp)⟩
    · rintro ⟨hcan, hall⟩
      exact ⟨hcan, hall ks hmem hks⟩

section Outcome

variable {m : Mka} (hob : m.self.isObligedKeyServer = false)

include hob

lemma electKeyServer_isKeyServer :
    (electKeyServer m).self.isKeyServer =
      iIsKeyServer m.kay m.self.canBeKeyServer (electPeer m.self.livePeers) := by
  cases hks : electPeer m.self.livePeers with
  | none =>
    cases h : iIsKeyServer m.kay m.self.canBeKeyServer none <;> simp [electKeyServer, hob, hks, h]
  | some ks =>
    cases h : iIsKeyServer m.kay m.self.canBeKeyServer (some ks) <;>
      simp [electKeyServer, hob, hks, h]

lemma electKeyServer_sci_of_peer {ks : Peer} (hks : electPeer m.self.livePeers = some ks)
    (h : iIsKeyServer m.kay m.self.canBeKeyServer (electPeer m.self.livePeers) = false) :
    (electKeyServer m).kay.keyServerSci = ks.sci := by
  rw [hks] at h
  simp [electKeyServer, hob, h, hks]

end Outcome

/-! ## The members of a connectivity association -/

def Peer.role (peer : Peer) : Candidate × Bool := (peer.candidate, peer.isKeyServer)

def Mka.role (m : Mka) : Candidate × Bool := (m.kay.candidate, m.self.canBeKeyServer)

section Members

variable {ι : Type}

/-- The same participant with its live peers in another order. -/
structure Reordered (m m' : Mka) : Prop where
  perm : m'.self.livePeers.Perm m.self.livePeers
  eq : m' = { m with self.livePeers := m'.self.livePeers }

/-- The members elect `w`: it alone is key server, and it is everyone's key server. -/
def Elect (mka : ι → Mka) (w : ι) : Prop :=
  ∀ i, ((electKeyServer (mka i)).self.isKeyServer ↔ i = w) ∧
    (electKeyServer (mka i)).kay.keyServerSci = (mka w).kay.actorSci

/-- The purpose of the election: there is a member that all elect, whatever the order of their
lists. -/
def ElectionAgrees (mka : ι → Mka) : Prop :=
  ∃ w, ∀ mka' : ι → Mka, (∀ i, Reordered (mka i) (mka' i)) → Elect mka' w

/-- A member that can be key server and is better than all others that can. -/
def Wins (mka : ι → Mka) (w : ι) : Prop :=
  (mka w).self.canBeKeyServer ∧ ∀ j, j ≠ w → (mka j).self.canBeKeyServer →
    comparePriorities (mka w).kay.candidate (mka j).kay.candidate < 0

variable {mka : ι → Mka}

lemma Wins.reordered {mka' : ι → Mka} {w : ι} (hw : Wins mka w)
    (hre : ∀ i, Reordered (mka i) (mka' i)) : Wins mka' w := by
  have hkay : ∀ i, (mka' i).kay = (mka i).kay := fun i => by rw [(hre i).eq]
  have hcan : ∀ i, (mka' i).self.canBeKeyServer = (mka i).self.canBeKeyServer := fun i => by
    rw [(hre i).eq]
  simpa [Wins, hkay, hcan] using hw

lemma Wins.unique {v w : ι} (hv : Wins mka v) (hw : Wins mka w) : v = w := by
  by_contra hne
  have h1 := comparePriorities_neg_iff.mp (hv.2 w (.symm hne) hw.1)
  have h2 := comparePriorities_neg_iff.mp (hw.2 v hne hv.1)
  omega

variable [Fintype ι] [DecidableEq ι]

/-- The SCIs of the members are distinct, no member is obliged to be key server, every member lists
exactly the others as live peers with their true data, and one of them can be key server. -/
structure FullMesh (mka : ι → Mka) : Prop where
  sci_injective : Function.Injective fun i => (mka i).kay.actorSci
  not_obliged : ∀ i, (mka i).self.isObligedKeyServer = false
  livePeers_role : ∀ i, (((mka i).self.livePeers.map Peer.role : List _) : Multiset _) =
    (Finset.univ.erase i).val.map fun j => (mka j).role
  can_be : ∃ i, (mka i).self.canBeKeyServer

section

variable (h : FullMesh mka)

include h

lemma FullMesh.exists_peer {i j : ι} (hij : j ≠ i) :
    ∃ peer ∈ (mka i).self.livePeers, peer.role = (mka j).role := by
  have hmem : (mka j).role ∈ (Finset.univ.erase i).val.map fun j => (mka j).role :=
    Multiset.mem_map_of_mem _ (Finset.mem_erase.mpr ⟨hij, Finset.mem_univ j⟩)
  rw [← h.livePeers_role i, Multiset.mem_coe, mem_map] at hmem
  exact hmem

lemma FullMesh.exists_member {i : ι} {peer : Peer}
    (hpeer : peer ∈ (mka i).self.livePeers) : ∃ j, j ≠ i ∧ peer.role = (mka j).role := by
  have hmem : peer.role ∈ (((mka i).self.livePeers.map Peer.role : List _) : Multiset _) :=
    Multiset.mem_coe.mpr (mem_map_of_mem hpeer)
  rw [h.livePeers_role i, Multiset.mem_map] at hmem
  obtain ⟨j, hj, hrole⟩ := hmem
  exact ⟨j, (Finset.mem_erase.mp hj).1, hrole.symm⟩

/-- The order of the peer lists does not matter. -/
lemma FullMesh.reordered {mka' : ι → Mka}
    (hre : ∀ i, Reordered (mka i) (mka' i)) : FullMesh mka' := by
  have hkay : ∀ i, (mka' i).kay = (mka i).kay := fun i => by rw [(hre i).eq]
  have hcan : ∀ i, (mka' i).self.canBeKeyServer = (mka i).self.canBeKeyServer := fun i => by
    rw [(hre i).eq]
  have hrole : ∀ i, (mka' i).role = (mka i).role := fun i => by simp [Mka.role, hkay, hcan]
  refine ⟨?_, ?_, ?_, ?_⟩
  · simpa [hkay] using h.sci_injective
  · intro i
    rw [(hre i).eq]
    exact h.not_obliged i
  · intro i
    simp only [hrole]
    rw [← h.livePeers_role i, Multiset.coe_eq_coe]
    exact (hre i).perm.map _
  · simpa [hcan] using h.can_be

/-- A member elects itself exactly if it wins. -/
lemma FullMesh.isKeyServer_iff (i : ι) :
    (electKeyServer (mka i)).self.isKeyServer ↔ Wins mka i := by
  rw [electKeyServer_isKeyServer (h.not_obliged i), iIsKeyServer_electPeer_iff]
  refine and_congr_right fun _ => ⟨?_, ?_⟩
  · intro hall j hj hcan
    obtain ⟨peer, hpeer, hrole⟩ := h.exists_peer hj
    have hcand : peer.candidate = (mka j).kay.candidate := congrArg fst hrole
    have hks : peer.isKeyServer = (mka j).self.canBeKeyServer := congrArg snd hrole
    rw [comparePriorities_neg_iff, ← hcand]
    exact hall peer hpeer (hks.trans hcan)
  · intro hall peer hpeer hks
    obtain ⟨j, hj, hrole⟩ := h.exists_member hpeer
    have hcand : peer.candidate = (mka j).kay.candidate := congrArg fst hrole
    have hcan : peer.isKeyServer = (mka j).self.canBeKeyServer := congrArg snd hrole
    rw [hcand, ← comparePriorities_neg_iff]
    exact hall j hj (hcan.symm.trans hks)

/-- All others elect the member that wins. -/
lemma FullMesh.electPeer_of_wins {w i : ι} (hw : Wins mka w) (hi : i ≠ w) :
    ∃ ks, electPeer (mka i).self.livePeers = some ks ∧ ks.sci = (mka w).kay.actorSci := by
  obtain ⟨peer, hpeer, hrole⟩ := h.exists_peer (.symm hi)
  have hcand : peer.candidate = (mka w).kay.candidate := congrArg fst hrole
  have hks : peer.isKeyServer := (congrArg snd hrole).trans hw.1
  cases helect : electPeer (mka i).self.livePeers with
  | none => exact absurd hks (by simp [electPeer_eq_none helect peer hpeer])
  | some ks =>
    refine ⟨ks, rfl, ?_⟩
    obtain ⟨hmem, hflag, hle⟩ := electPeer_eq_some helect
    obtain ⟨j, -, hjrole⟩ := h.exists_member hmem
    have hjcand : ks.candidate = (mka j).kay.candidate := congrArg fst hjrole
    have hjcan : (mka j).self.canBeKeyServer :=
      (congrArg snd hjrole).symm.trans hflag
    -- an elected peer other than the winner would have a larger rank than the winner
    have hjw : j = w := by
      by_contra hne
      have hlt := comparePriorities_neg_iff.mp (hw.2 j hne hjcan)
      have hle' := hle peer hpeer hks
      rw [hjcand, hcand] at hle'
      omega
    rw [hjw] at hjcand
    exact congrArg Candidate.sci hjcand

/-- A member that wins is elected by all. -/
lemma FullMesh.elect_of_wins {w : ι} (hw : Wins mka w) : Elect mka w := by
  intro i
  refine ⟨⟨fun hi => ((h.isKeyServer_iff i).mp hi).unique hw, ?_⟩, ?_⟩
  · rintro rfl
    exact (h.isKeyServer_iff i).mpr hw
  by_cases hi : i = w
  · subst hi
    have hself := (h.isKeyServer_iff i).mpr hw
    rw [electKeyServer_isKeyServer (h.not_obliged i)] at hself
    simp [electKeyServer, (h.not_obliged i), hself]
  obtain ⟨ks, hks, hsci⟩ := h.electPeer_of_wins hw hi
  have hother : iIsKeyServer (mka i).kay (mka i).self.canBeKeyServer
      (electPeer (mka i).self.livePeers) = false := by
    rw [← electKeyServer_isKeyServer (h.not_obliged i), Bool.eq_false_iff]
    exact fun hself => hi (((h.isKeyServer_iff i).mp hself).unique hw)
  rw [electKeyServer_sci_of_peer (h.not_obliged i) hks hother, hsci]

/-- The election agrees exactly when one of the members that can be key server has a smaller
priority and MAC address than all the others that can. -/
theorem electionAgrees_iff_exists_wins : ElectionAgrees mka ↔ ∃ w, Wins mka w := by
  constructor
  · rintro ⟨w, hw⟩
    have hrefl : ∀ i, Reordered (mka i) (mka i) := fun i => ⟨.refl _, rfl⟩
    exact ⟨w, (h.isKeyServer_iff w).mp ((hw mka hrefl w).1.mpr rfl)⟩
  · rintro ⟨w, hw⟩
    exact ⟨w, fun mka' hre => (h.reordered hre).elect_of_wins (hw.reordered hre)⟩

end

end Members

/-! ## Two members -/

/-- A member with the SCI `a` that lists one with the SCI `b`; both have the default priority and
can be key server. -/
def pairMember (a b : Sci) : Mka :=
  let kay := Kay.initial ⟨.shouldSecure, a.port, a.addr, none⟩
  let cp := CpPort.initial kay.conf Secy.untold
  let self := newParticipant default (Env.benign 0) ⟨kay, cp, []⟩ sampleName (Octets.zero 16) 0
    .psk false (Octets.zero 12)
  { kay := kay
    cp := cp
    self := { self with
      livePeers := [
        { mi := Octets.zero 12
          mn := 1
          expire := 6
          sci := b
          isKeyServer := true
          keyServerPriority := defaultPrioNotKeyServer
          macsecDesired := true
          macsecCapability := .integAndConf0_30_50
          sakUsed := false }] } }

/-- Two members with the SCIs `a` and `b`. -/
def pairOf (a b : Sci) : Fin 2 → Mka := ![pairMember a b, pairMember b a]

/-- Two members with distinct MAC addresses elect one of them. -/
theorem electionAgrees_pair_distinct_addr :
    ElectionAgrees (pairOf ⟨⟨[2, 0, 0, 0, 0, 1], rfl⟩, 1⟩ ⟨⟨[2, 0, 0, 0, 0, 2], rfl⟩, 1⟩) :=
  (electionAgrees_iff_exists_wins ⟨by decide, by decide, by decide, by decide⟩).mpr
    ⟨0, by decide, by decide⟩

/-- Two members with one MAC address and distinct port numbers: each finds the other as good as
itself, and none is key server. -/
theorem not_electionAgrees_pair_same_addr :
    FullMesh (pairOf ⟨⟨[2, 0, 0, 0, 0, 1], rfl⟩, 1⟩ ⟨⟨[2, 0, 0, 0, 0, 1], rfl⟩, 2⟩) ∧
      ¬ ElectionAgrees (pairOf ⟨⟨[2, 0, 0, 0, 0, 1], rfl⟩, 1⟩ ⟨⟨[2, 0, 0, 0, 0, 1], rfl⟩, 2⟩) := by
  refine ⟨⟨by decide, by decide, by decide, by decide⟩, ?_⟩
  rintro ⟨w, hw⟩
  have hself := (hw _ (fun i => ⟨.refl _, rfl⟩) w).1.mpr rfl
  clear hw
  revert w
  decide

end Hostapd.Pae

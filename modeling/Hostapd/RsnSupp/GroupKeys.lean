import Hostapd.RsnSupp.Effects

/-!
# Group keys at the supplicant

The group keys that the supplicant hands to the driver during an association, with the receive
counters it sets for them. It keeps no record of them: a frame that carries a group key in use
installs it again with the counter of the frame, which may be smaller (`group_key_rolls_back`).
`no_rollback`: as long as every key an authenticated frame carries comes with a counter that is not
smaller than those with which it was installed before, no receive counter rolls back. A frame that
was verified under a key of a direct link counts as authenticated.
-/

namespace Hostapd.RsnSupp

open Wire Wpa Machine List

/-- A group key or a management group key that is handed to the driver. -/
structure GroupInstall where
  keyidx : ℕ
  octets : Bytes
  counter : ℕ
deriving DecidableEq

/-- The value of a receive counter, whose octets come least significant first. -/
def counterValue (octets : Bytes) : ℕ := beNat octets.reverse

variable (conf : Conf)

def gtkInstall (key : EapolKey) (gd : GtkData) : GroupInstall where
  keyidx := gd.keyidx
  octets := driverGtk conf gd.gtk
  counter := counterValue ((relaxedRsc conf key.keyRsc).take gd.keyRscLen)

def igtkInstall (igtk : ℕ × Bytes × Bytes) : GroupInstall where
  keyidx := igtk.1
  octets := igtk.2.2
  counter := counterValue igtk.2.1

/-- The group key that an action installs. -/
def Action.groupInstall? : Action → Option GroupInstall
  | .installGtk _ keyidx _ rsc gtk => some { keyidx, octets := gtk, counter := counterValue rsc }
  | .installIgtk _ keyidx pn igtk => some { keyidx, octets := igtk, counter := counterValue pn }
  | _ => none

def groupInstalls (trace : List Action) : List GroupInstall := trace.filterMap Action.groupInstall?

/-- If the two are the same key at the same index, then the counter of the second is not smaller. -/
def GroupInstall.Keeps (a b : GroupInstall) : Prop :=
  a.keyidx = b.keyidx → a.octets = b.octets → a.counter ≤ b.counter

instance (a b : GroupInstall) : Decidable (a.Keeps b) :=
  inferInstanceAs (Decidable (_ → _ → _))

/-- No group key is installed with a smaller counter than it was installed with before. -/
def NoRollback (sm : Sm) : Prop := (groupInstalls sm.trace).Pairwise GroupInstall.Keeps

instance (sm : Sm) : Decidable (NoRollback sm) := inferInstanceAs (Decidable (List.Pairwise _ _))

/-! ## The keys in a frame -/

/-- The group keys that a frame carries, given its key data in the clear. -/
def carriedKeys (crypto : Crypto) (ptk : Ptk) (key : EapolKey)
    (keyData : Bytes) : List GroupInstall :=
  ((carriedGtk conf crypto ptk key keyData).map (gtkInstall conf key)).toList ++
    ((carriedIgtk conf keyData).map igtkInstall).toList

/-- The group keys that the authenticated frame of a packet carries. -/
def packetKeys (crypto : Crypto) (sm : Sm) (packet : Packet) : List GroupInstall :=
  match accepted conf sm packet with
  | none => []
  | some (key, tmp) =>
    if key.keyInfo.mic then
      match checked conf crypto key packet.src tmp sm with
      | .error _ => []
      | .ok sm₁ =>
        match plainKeyData conf crypto packet.ans key sm₁ with
        | none => []
        | some keyData => carriedKeys conf crypto sm₁.ptk key keyData
    else []

/-- The keys of the packet come with counters that are not smaller than those they were installed
with, in this packet or before it. -/
def KeysAdvance (crypto : Crypto) (sm : Sm) (packet : Packet) : Prop :=
  let keys := packetKeys conf crypto sm packet
  ∀ k ∈ keys, ∀ k' ∈ groupInstalls sm.trace ++ keys, k'.Keeps k

instance (conf : Conf) (crypto : Crypto) (sm : Sm) (packet : Packet) :
    Decidable (KeysAdvance conf crypto sm packet) :=
  inferInstanceAs (Decidable (∀ k ∈ packetKeys conf crypto sm packet, ∀ k' ∈ _ ++ _, _))

/-! ## One packet -/

variable {conf : Conf} {crypto : Crypto} {ans : Answers} {peer : Bool} {key : EapolKey}
  {keyData : Bytes} {packet : Packet} {sm sm' : Sm}

/-- Group keys that are installed are carried. -/
lemma Handled.grows_carried (h : Handled conf crypto ans peer key keyData sm sm') :
    Grows (fun a => ∀ k, a.groupInstall? = some k → key.keyInfo.mic ∧
      k ∈ carriedKeys conf crypto sm.ptk key keyData) sm sm' := by
  apply h.grows
  · intro _ snonce ptk
    exact nofun
  · intro _ alg rsc tk
    exact nofun
  intro ptk a hptk ha k hk
  cases ha with
  | sent _ => cases hk
  | deauthenticate => cases hk
  | portValid _ => cases hk
  | installGtk hmic hgd _ =>
    cases hk
    rw [hptk hmic] at hgd
    exact ⟨hmic, mem_append_left _ (by rw [hgd]; exact mem_singleton_self _)⟩
  | installIgtk hmic higtk =>
    cases hk
    exact ⟨hmic, mem_append_right _ (by rw [higtk]; exact mem_singleton_self _)⟩

/-- A frame installs only group keys that it carries. -/
lemma rxEapol_grows_carried :
    Grows (fun a => ∀ k, a.groupInstall? = some k → k ∈ packetKeys conf crypto sm packet)
      sm (rxEapol conf crypto sm packet) := by
  rcases rxEapol_cases conf crypto sm packet with ⟨_, hrx⟩ | ⟨key, tmp, sm₁, hacc, hchecked, hrx⟩
  · rw [hrx]
    exact .of_eq rfl
  rw [hrx]
  have hchecks : Grows (fun a => ∀ k, a.groupInstall? = some k →
      k ∈ packetKeys conf crypto sm packet) sm sm₁ := by
    rcases checked_cases hchecked with ⟨-, -, hverify⟩ | ⟨-, _, rfl⟩
    · rcases verifyEapolKeyMic_cases hverify with ⟨-, -, rfl⟩ | ⟨-, -, -, rfl⟩
      · exact ⟨[.micVerified _], rfl, by simp [Action.groupInstall?]⟩
      · exact ⟨[.micVerified _], rfl, by simp [Action.groupInstall?]⟩
    · exact .of_eq rfl
  have hopened : Grows (fun a => ∀ k, a.groupInstall? = some k →
      k ∈ packetKeys conf crypto sm packet) sm (opened conf key sm₁) := by
    refine hchecks.trans (opened_quiet.grows.mono ?_)
    rintro a ⟨rfl, -⟩ k hk
    cases hk
  rcases @handle_cases conf crypto packet.ans (sm.peerkey packet.src).isSome key sm₁ with
    ⟨-, heq⟩ | ⟨keyData, hplain, hhandled⟩
  · rw [heq]
    exact hopened
  refine hopened.trans (hhandled.grows_carried.mono ?_)
  intro a ha k hk
  obtain ⟨hmic, hcarried⟩ := ha k hk
  have hptk : (opened conf key sm₁).ptk = sm₁.ptk :=
    congrArg Core.ptk (@opened_quiet conf key sm₁).core_eq
  rw [hptk] at hcarried
  unfold packetKeys
  rw [hacc]
  simp only [hmic, if_true, hchecked, hplain]
  exact hcarried

/-- A frame whose keys advance. -/
lemma NoRollback.rxEapol (h : NoRollback sm) (hadvance : KeysAdvance conf crypto sm packet) :
    NoRollback (rxEapol conf crypto sm packet) := by
  obtain ⟨acts, hacts, hall⟩ := @rxEapol_grows_carried conf crypto packet sm
  have hnew : ∀ k ∈ groupInstalls acts, k ∈ packetKeys conf crypto sm packet := by
    intro k hk
    obtain ⟨a, ha, hak⟩ := mem_filterMap.mp hk
    exact hall a ha k hak
  unfold NoRollback
  rw [hacts, groupInstalls, filterMap_append, pairwise_append]
  refine ⟨h, ?_, ?_⟩
  · apply pairwise_of_forall_mem_list
    intro a ha b hb
    exact hadvance b (hnew b hb) a (mem_append_right _ (hnew a ha))
  · intro a ha b hb
    exact hadvance b (hnew b hb) a (mem_append_left _ ha)

/-! ## An association -/

/-- In an association in which the keys of every packet advance, no group key is installed with a
smaller counter than it was installed with before. -/
theorem no_rollback {conf : Conf} {crypto : Crypto} {sm₀ sm : Sm} {packets : List Packet}
    (hadvance : Along (receive conf crypto) (KeysAdvance conf crypto) (notifyAssoc sm₀) packets)
    (hrun : run (receive conf crypto) (notifyAssoc sm₀) packets = .ok sm) : NoRollback sm := by
  have hstart : NoRollback (notifyAssoc sm₀) := .nil
  refine run_along_induction ?_ hstart hadvance hrun
  intro s packet s' hs hcond hstep
  cases hstep
  split
  · exact hs
  · exact hs.rxEapol hcond

def sampleGtkElements : Bytes :=
  [0xdd, 22, 0, 0x0f, 0xac, 1, 1, 0] ++ replicate 16 9

/-- A handshake, and the same group key again with a message 1/2 that has a receive counter. -/
def rekeyPackets (counter : UInt8) : List Packet :=
  let anonce := sampleNonce 5
  let snonce := sampleNonce 0
  [{ buf := (sample1Of4 1 anonce).encode },
    { buf := (sample3Of4 2 anonce snonce (Octets.ofList 8 [5]) sampleGtkElements).encode },
    { buf := (sample1Of2 3 anonce snonce (Octets.ofList 8 [counter]) sampleGtkElements).encode }]

/-- A group key that comes again with a larger counter. -/
theorem no_rollback_of_rekey :
    Returns (run (receive Conf.sample Crypto.sample) (notifyAssoc {}) (rekeyPackets 7)) fun sm =>
      (groupInstalls sm.trace).map (·.counter) = [5, 7] ∧ NoRollback sm := by
  have hadvance : Along (receive Conf.sample Crypto.sample) (KeysAdvance Conf.sample Crypto.sample)
      (notifyAssoc {}) (rekeyPackets 7) := by decide +kernel
  exact exists_ok (by decide +kernel) fun sm hrun _ => no_rollback hadvance hrun

/-- A group key that comes again with a smaller counter is installed again, and its receive counter
rolls back. -/
theorem group_key_rolls_back :
    Returns (run (receive Conf.sample Crypto.sample) (notifyAssoc {}) (rekeyPackets 0)) fun sm =>
      groupInstalls sm.trace =
        [{ keyidx := 1, octets := replicate 16 9, counter := 5 },
          { keyidx := 1, octets := replicate 16 9, counter := 0 }] ∧
      ¬ NoRollback sm := by
  decide +kernel

end Hostapd.RsnSupp

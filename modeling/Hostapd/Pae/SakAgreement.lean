import Hostapd.Pae.SakTransfer

/-!
# Agreement on SAKs

Two KaYs that share a CKN and a CAK, over a network that loses, duplicates, delays and reorders the
frames that they send.  Each SAK on the list of one that it did not generate itself is a SAK that
the other one generated under the same key identifier, with the same octets, association number and
confidentiality offset.
-/

namespace Hostapd.Pae

open Wire Checked FirstMatch Machine List

/-! ## The two parties -/

/-- What happens at a KaY without the network. -/
inductive LocalEvent
  | tick (env : Env) (participant : ℕ)
  /-- The event loop calls `ieee802_1x_cp_step_cb`. -/
  | cpStep (envs : ℕ → Env)
  /-- The event loop calls `ieee802_1x_cp_transmit_when_timeout`. -/
  | transmitWhen (envs : ℕ → Env)
  /-- The event loop calls `ieee802_1x_cp_retire_when_timeout`. -/
  | retireWhen (envs : ℕ → Env)
  | createMka (env : Env) (life : ℕ) (mode : MkaCreatedMode) (isAuthenticator : Bool)
  | deleteMka
  /-- The MKA instances are replaced by one with the shared CKN and CAK. -/
  | hotSwap (env : Env) (isAuthenticator : Bool)
  | newSak

/-- The event of a KaY. -/
def LocalEvent.event (ckn : MkaKeyName) (cak : Octets 16) : LocalEvent → Event
  | .tick env i => .tick env i
  | .cpStep envs => .cpStep envs
  | .transmitWhen envs => .transmitWhen envs
  | .retireWhen envs => .retireWhen envs
  | .createMka env life mode isAuthenticator => .createMka env ckn cak life mode isAuthenticator
  | .deleteMka => .deleteMka ckn
  | .hotSwap env isAuthenticator => .hotSwap env ckn cak isAuthenticator
  | .newSak => .newSak

/-- Two KaYs, one of which is the key server. -/
structure TwoKays where
  server : System
  client : System

/-- What happens to the two KaYs.  The network hands over any frame that was sent, at any time and
any number of times. -/
inductive TwoKays.Event
  | server (e : LocalEvent)
  | client (e : LocalEvent)
  /-- A frame of the client, counted from the last one, is received by the server. -/
  | toServer (env : Env) (n : ℕ)
  /-- A frame of the server, counted from the last one, is received by the client. -/
  | toClient (env : Env) (n : ℕ)

/-- The reception of a frame out of a list, if there is one. -/
def System.receiveFrom (crypto : Crypto) (env : Env) (s : System) (frames : List Bytes)
    (n : ℕ) : Checked System :=
  match frames[n]? with
  | none => .ok s
  | some frame => s.step crypto (.receive env frame)

/-- One event. -/
def TwoKays.step (crypto : Crypto) (ckn : MkaKeyName) (cak : Octets 16) (t : TwoKays) :
    TwoKays.Event → Checked TwoKays
  | .server e => t.server.step crypto (e.event ckn cak) >>= fun s => .ok { t with server := s }
  | .client e => t.client.step crypto (e.event ckn cak) >>= fun s => .ok { t with client := s }
  | .toServer env n => t.server.receiveFrom crypto env (sentFrames t.client.kay.trace) n >>=
    fun s => .ok { t with server := s }
  | .toClient env n => t.client.receiveFrom crypto env (sentFrames t.server.kay.trace) n >>=
    fun s => .ok { t with client := s }

/-- What two KaYs keep. -/
structure TwoKays.Agree (crypto : Crypto) (kek : Octets 16) (mi : Mi) (t : TwoKays) : Prop where
  server : t.server.Holds (Kay.ServesSaks crypto kek mi) (fun k p => p.ServesSaks kek k)
  /-- The SAKs of the client are its own or match those of the server. -/
  client : t.client.Holds (fun _ => True)
    (fun k p => p.Agrees kek (generatedSaks t.server.kay.trace) k)

section TwoKays

variable {crypto : Crypto} {ckn : MkaKeyName} {cak : Octets 16} {mi : Mi} {t t' : TwoKays}

lemma LocalEvent.shares (e : LocalEvent) : (e.event ckn cak).Shares ckn cak := by
  intro ckn' cak' h
  cases e with
  | createMka => exact ⟨h.1.symm, h.2.symm⟩
  | hotSwap => exact ⟨h.1.symm, h.2.symm⟩
  | _ => exact h.elim

/-- The trace only grows. -/
lemma trace_subset_invariant (crypto : Crypto) (trace : List KayEvent) :
    Invariant crypto (fun _ _ => True) (fun k => trace ⊆ k.trace) (fun _ _ => True) where
  receive _ _ _ hk _ hm' :=
    ⟨List.Subset.trans hk (follows_decodeMkpduFor hm').trace.subset, trivial⟩
  tick _ _ hk _ hm' :=
    ⟨List.Subset.trans hk (follows_participantTimerFor hm').trace.subset, trivial⟩
  cp := by
    intro _ _ _ k p k' p' _ _ _ hk _ hop
    exact ⟨List.Subset.trans hk (hop.touched.traceBy p.id).subset, trivial⟩
  request _ := trivial
  create _ _ _ _ := trivial
  quiet hk hquiet := List.Subset.trans hk (hquiet.traceBy 0).subset
  other _ _ _ := trivial

lemma generatedSaks_subset {s s' : System} {e : Event} {K : Kay → Prop}
    {J : Kay → Participant → Prop} (hs : s.Holds K J) (h : s.step crypto e = .ok s') :
    generatedSaks s.kay.trace ⊆ generatedSaks s'.kay.trace := by
  have hs' := (trace_subset_invariant crypto s.kay.trace).step trivial
    ⟨hs.nodup, hs.lt, .refl _, fun _ _ => trivial⟩ h
  exact filterMap_subset _ hs'.kay

lemma Matches.mono {saks saks' : List DataKey} {key : DataKey} (h : Matches saks key)
    (hsub : saks ⊆ saks') : Matches saks' key := by
  obtain ⟨sak, hsak, heq⟩ := h
  exact ⟨sak, hsub hsak, heq⟩

section

variable (ht : t.Agree crypto (crypto.kekTrfm cak ckn.octets) mi) {s : System}

include ht

/-- The server takes a step. -/
lemma TwoKays.Agree.server_step {e : Pae.Event} (hmember : t.server.IsMember mi)
    (he : e.Shares ckn cak) (h : t.server.step crypto e = .ok s) :
    TwoKays.Agree crypto (crypto.kekTrfm cak ckn.octets) mi { t with server := s } where
  server := (servesSaks_invariant crypto ckn cak mi).step ⟨hmember, he⟩ ht.server h
  client := by
    have hsub := generatedSaks_subset ht.server h
    refine ⟨ht.client.nodup, ht.client.lt, trivial, fun p hp => ?_⟩
    refine ⟨(ht.client.all p hp).kek, fun key hkey => ?_⟩
    rcases (ht.client.all p hp).saks key hkey with hown | hmatch
    · exact .inl hown
    · exact .inr (hmatch.mono hsub)

variable (haes : ∀ kek key, crypto.aesUnwrap kek (crypto.aesWrap kek key) = some key)

include haes

lemma TwoKays.Agree.client_step {e : Pae.Event} (he : e.Shares ckn cak)
    (hframe : ∀ env frame, e = .receive env frame → frame ∈ sentFrames t.server.kay.trace)
    (h : t.client.step crypto e = .ok s) :
    TwoKays.Agree crypto (crypto.kekTrfm cak ckn.octets) mi { t with client := s } where
  server := ht.server
  client := (agrees_invariant haes ckn cak ht.server.kay.saks).step
    ⟨he, fun env frame heq => ht.server.kay.frames frame (hframe env frame heq)⟩ ht.client h

/-- One event keeps the agreement. -/
lemma TwoKays.Agree.step {e : TwoKays.Event} (hmember : t.server.IsMember mi)
    (h : t.step crypto ckn cak e = .ok t') :
    t'.Agree crypto (crypto.kekTrfm cak ckn.octets) mi := by
  cases e with
  | server e =>
    obtain ⟨s, hs, h⟩ := bind_eq_ok.mp h
    cases h
    exact ht.server_step hmember e.shares hs
  | client e =>
    obtain ⟨s, hs, h⟩ := bind_eq_ok.mp h
    cases h
    refine ht.client_step haes e.shares (fun env frame heq => ?_) hs
    cases e <;> cases heq
  | toServer env n =>
    obtain ⟨s, hs, h⟩ := bind_eq_ok.mp h
    cases h
    rw [System.receiveFrom] at hs
    split at hs
    · cases hs
      exact ht
    · exact ht.server_step hmember (fun _ _ => False.elim) hs
  | toClient env n =>
    obtain ⟨s, hs, h⟩ := bind_eq_ok.mp h
    cases h
    rw [System.receiveFrom] at hs
    split at hs
    · cases hs
      exact ht
    rename_i frame hframe
    refine ht.client_step haes (fun _ _ => False.elim) (fun env' frame' heq => ?_) hs
    cases heq
    exact mem_of_getElem? hframe

end

/-- SAKs with one key identifier are the same. -/
lemma Kay.ServesSaks.eq_of_keyIdentifier_eq {kek : Octets 16} {k : Kay}
    (h : k.ServesSaks crypto kek mi) (hlt : (generatedSaks k.trace).length < 2 ^ 32)
    {sak sak' : DataKey} (hsak : sak ∈ generatedSaks k.trace) (hsak' : sak' ∈ generatedSaks k.trace)
    (hki : sak.keyIdentifier = sak'.keyIdentifier) : sak = sak' := by
  have hnodup : ((generatedSaks k.trace).map fun sak => sak.keyIdentifier.kn).Nodup := by
    rw [h.kns, nodup_reverse]
    refine .map_on (fun i hi j hj heq => ?_) nodup_range
    have hi := mem_range.mp hi
    have hj := mem_range.mp hj
    have heq : (UInt32.ofNat (i + 1)).toNat = (UInt32.ofNat (j + 1)).toNat := congrArg _ heq
    rw [UInt32.toNat_ofNat', UInt32.toNat_ofNat', Nat.mod_eq_of_lt (by omega),
      Nat.mod_eq_of_lt (by omega)] at heq
    omega
  exact inj_on_of_nodup_map hnodup hsak hsak' (congrArg Ki.kn hki)

end TwoKays

/-- Agreement on SAKs.  Two KaYs create their MKA instances with the same CKN and CAK and exchange
frames in any way.  In every run in which the server's participants keep their member identifier,
and in which fewer than `2 ^ 32` SAKs are generated by the server, every SAK on a list of the client
that the client did not generate has a SAK of the server with its key identifier, and every SAK that
the server generated under that key identifier has its octets, association number and
confidentiality offset. -/
theorem sak_agreement {crypto : Crypto}
    (haes : ∀ kek key, crypto.aesUnwrap kek (crypto.aesWrap kek key) = some key)
    {ckn : MkaKeyName} {cak : Octets 16} {mi : Mi} {params params' : KayParams} {env env' : Env}
    {secy secy' : Secy} {s c : System} {t : TwoKays} {es : List TwoKays.Event}
    (hserver : kayInit crypto params env secy = .ok s)
    (hclient : kayInit crypto params' env' secy' = .ok c)
    (hmember : Along (TwoKays.step crypto ckn cak) (fun t _ => t.server.IsMember mi) ⟨s, c⟩ es)
    (hrun : run (TwoKays.step crypto ckn cak) ⟨s, c⟩ es = .ok t)
    (hlt : (generatedSaks t.server.kay.trace).length < 2 ^ 32) :
    ∀ p ∈ t.client.participants, ∀ key ∈ p.sakList,
      (∀ i, .generatedSak i key ∉ t.client.kay.trace) →
        (∃ sak ∈ generatedSaks t.server.kay.trace, sak.keyIdentifier = key.keyIdentifier) ∧
        ∀ sak ∈ generatedSaks t.server.kay.trace, sak.keyIdentifier = key.keyIdentifier →
          sak.key = key.key ∧ sak.an = key.an ∧
            sak.confidentialityOffset = key.confidentialityOffset := by
  have hinit : TwoKays.Agree crypto (crypto.kekTrfm cak ckn.octets) mi ⟨s, c⟩ := by
    refine ⟨kayInit_holds ?_ hserver, kayInit_holds trivial hclient⟩
    exact ⟨rfl, (by decide : (0 : UInt8) < 4), rfl, rfl, nofun, nofun⟩
  have ht : t.Agree crypto (crypto.kekTrfm cak ckn.octets) mi :=
    run_along_induction (fun _ _ _ ht hmember hstep => ht.step haes hmember hstep) hinit
      hmember hrun
  intro p hp key hkey hforeign
  obtain ⟨sak, hsak, hki, hsame⟩ : Matches (generatedSaks t.server.kay.trace) key := by
    rcases (ht.client.all p hp).saks key hkey with ⟨i, hi⟩ | hmatch
    · exact absurd hi (hforeign i)
    · exact hmatch
  refine ⟨⟨sak, hsak, hki⟩, fun sak' hsak' hki' => ?_⟩
  rw [ht.server.kay.eq_of_keyIdentifier_eq hlt hsak' hsak (hki'.trans hki.symm)]
  exact hsame

/-- An environment in which every call succeeds, with a member identifier of this octet. -/
def Env.benignMi (now : ℕ) (octet : UInt8) : Env :=
  { Env.benign now with randomMi := fun _ => some (sampleMi octet) }

/-- The two KaYs get to know each other, the server generates a SAK and the client takes it. -/
def exchangeSak : List TwoKays.Event :=
  [.server (.createMka (Env.benignMi 0 1) 0 .psk false),
    .client (.createMka (Env.benignMi 0 2) 0 .psk false),
    .server (.tick (Env.benignMi 1 1) 0), .toClient (Env.benignMi 1 2) 0,
    .client (.tick (Env.benignMi 2 2) 0), .toServer (Env.benignMi 2 1) 0,
    .server (.tick (Env.benignMi 3 1) 0), .toClient (Env.benignMi 3 2) 0,
    .server .newSak, .server (.tick (Env.benignMi 6 1) 0), .toClient (Env.benignMi 6 2) 0]

/-- The client has the SAK of the server. -/
theorem sak_agreement_of_exchange :
    ∃ s c t, kayInit default sampleParams (Env.benign 0) Secy.untold = .ok s ∧
      kayInit default ⟨.shouldEncrypt, 1, ⟨[2, 0, 0, 0, 0, 2], rfl⟩, none⟩ (Env.benign 0)
        Secy.untold = .ok c ∧
      run (TwoKays.step default ⟨Octets.zero 32, 1, by decide⟩ (Octets.zero 16)) ⟨s, c⟩
        exchangeSak = .ok t ∧
      ∃ p ∈ t.client.participants, ∃ key ∈ p.sakList,
        (∃ sak ∈ generatedSaks t.server.kay.trace, sak.keyIdentifier = key.keyIdentifier) ∧
        ∀ sak ∈ generatedSaks t.server.kay.trace, sak.keyIdentifier = key.keyIdentifier →
          sak.key = key.key ∧ sak.an = key.an ∧
            sak.confidentialityOffset = key.confidentialityOffset := by
  have hreturns : Returns (kayInit default sampleParams (.benign 0) Secy.untold) fun s =>
      Returns (kayInit default ⟨.shouldEncrypt, 1, ⟨[2, 0, 0, 0, 0, 2], rfl⟩, none⟩ (.benign 0)
        Secy.untold) fun c =>
        Along (TwoKays.step default ⟨Octets.zero 32, 1, by decide⟩ (Octets.zero 16))
          (fun t _ => t.server.IsMember (sampleMi 1)) ⟨s, c⟩ exchangeSak ∧
        Returns (run (TwoKays.step default ⟨Octets.zero 32, 1, by decide⟩ (Octets.zero 16)) ⟨s, c⟩
          exchangeSak) fun t =>
          (generatedSaks t.server.kay.trace).length < 2 ^ 32 ∧
          generatedSaks t.client.kay.trace = [] ∧
          ∃ p ∈ t.client.participants, ∃ key ∈ p.sakList, True := by
    decide +kernel
  obtain ⟨s, hserver, c, hclient, hmember, t, hrun, hlt, hnone, p, hp, key, hkey, -⟩ := hreturns
  have haes : ∀ kek key, (default : Crypto).aesUnwrap kek ((default : Crypto).aesWrap kek key) =
      some key := fun _ key => congrArg some (key.ofList_ofList (by decide))
  refine ⟨s, c, t, hserver, hclient, hrun, p, hp, key, hkey,
    sak_agreement haes hserver hclient hmember hrun hlt p hp key hkey fun i hi => ?_⟩
  have hmem : key ∈ generatedSaks t.client.kay.trace := mem_filterMap.mpr ⟨_, hi, rfl⟩
  exact absurd hmem (hnone ▸ not_mem_nil)

end Hostapd.Pae

import Hostapd.Ft.KeyDistribution

/-!
# Fast transition: stored keys are genuine

The invariant of a network of access points: all that was wrapped has a reason, all that was stored
because of a frame is genuine, and everything in a cache was derived by the access point itself or
stored because of a frame. The two samples at the end show that neither an answer nor a push is
stored only once.
-/

namespace Hostapd.Ft

open Wire Wpa FirstMatch Machine List Function

namespace Net

variable {n : ℕ} {prims : Prims}

/-! ## What is known stays known -/

/-- The access point has the same configuration and has forgotten nothing. -/
structure Extends (ap ap' : Ap) : Prop where
  conf : ap'.conf = ap.conf
  history : ∀ e ∈ ap.history, e ∈ ap'.history
  holds : ∀ spa pmkR0 pmkR0Name, Holds ap spa pmkR0 pmkR0Name → Holds ap' spa pmkR0 pmkR0Name

lemma Extends.refl (ap : Ap) : Extends ap ap :=
  ⟨rfl, fun _ h => h, fun _ _ _ h => h⟩

variable {ap ap' : Ap} {plain : Bytes} {i : Fin n}

lemma FromHeldKey.mono (hext : Extends ap ap') {spa : Mac} {r1khId : R1khId} {pmkR1 : Pmk}
    {pmkR1Name : KeyName} (h : FromHeldKey prims ap spa r1khId pmkR1 pmkR1Name) :
    FromHeldKey prims ap' spa r1khId pmkR1 pmkR1Name := by
  obtain ⟨pmkR0, pmkR0Name, hholds, hkey⟩ := h
  exact ⟨pmkR0, pmkR0Name, hext.holds spa pmkR0 pmkR0Name hholds, hkey⟩

section Mono

variable {net net' : Net n} (hext : ∀ i, Extends (net i) (net' i))
include hext

lemma Pulled.mono {r1khId : R1khId} {spa : Mac} {nonce : Octets 16}
    (h : net.Pulled r1khId spa nonce) : net'.Pulled r1khId spa nonce := by
  obtain ⟨i, hid, hpulled⟩ := h
  exact ⟨i, by rw [(hext i).conf, hid], (hext i).history _ hpulled⟩

lemma Made.mono (hap : Extends ap ap') {key : Octets 16} (h : Made prims net ap key plain) :
    Made prims net' ap' key plain := by
  cases h with
  | pull h => exact .pull ⟨by rw [hap.conf, h.r1khId], hap.history _ h.pulled⟩
  | resp h => exact .resp ⟨hap.conf ▸ h.shared, h.pulled.mono hext, h.fromHeldKey.mono hap⟩
  | push h => exact .push ⟨hap.conf ▸ h.shared, h.fromHeldKey.mono hap⟩

lemma FromR0kh.mono {src : Mac} {r1 : PmkR1Sa} (h : FromR0kh prims net i src plain r1) :
    FromR0kh prims net' i src plain r1 := by
  obtain ⟨r0kh, hmem, hsrc, j, hwrapped, hshared, hkey⟩ := h
  refine ⟨r0kh, (hext i).conf ▸ hmem, hsrc, j, (hext j).history _ hwrapped, ?_, ?_⟩
  · rw [(hext j).conf]
    exact hshared
  · rw [(hext i).conf]
    exact hkey.mono (hext j)

lemma Genuine.mono {r1 : PmkR1Sa} {source : Source} (h : Genuine prims net i r1 source) :
    Genuine prims net' i r1 source := by
  cases source with
  | response src data outstanding =>
    obtain ⟨hfrom, hpulled, hspa, hid⟩ := h
    exact ⟨hfrom.mono hext, (hext i).history _ hpulled, hspa, by rw [(hext i).conf, hid]⟩
  | push src data now =>
    obtain ⟨hfrom, hafter, hbefore, hspa, hid⟩ := h
    exact ⟨hfrom.mono hext, hafter, hbefore, hspa, by rw [(hext i).conf, hid]⟩

end Mono

lemma extends_update {net : Net n} (h : Extends (net i) ap) (j : Fin n) :
    Extends (net j) (update net i ap j) := by
  by_cases hj : j = i
  · subst hj
    rwa [update_self]
  · rw [update_of_ne hj]
    exact .refl _

/-! ## The invariant -/

/-- What a network keeps. -/
structure Inv (prims : Prims) (net : Net n) : Prop where
  distinct : ∀ i j, (net i).conf.r1KeyHolder = (net j).conf.r1KeyHolder → i = j
  made : ∀ i key plain, .wrapped key plain ∈ (net i).history → Made prims net (net i) key plain
  stored : ∀ i source r1, .stored source r1 ∈ (net i).history → Genuine prims net i r1 source
  /-- A key in a cache was derived by the access point or stored because of a frame. -/
  cached : ∀ i, ∀ r1 ∈ (net i).pmkR1,
    FromHeldKey prims (net i) r1.spa (net i).conf.r1KeyHolder r1.pmkR1 r1.pmkR1Name ∨
      ∃ source, .stored source r1 ∈ (net i).history

/-! ## What an access point does -/

/-- What an event may do to an access point: it forgets nothing, what it wraps has a reason, what it
stores because of a frame is genuine, and a key that it adds to its cache is derived by it or stored
because of a frame. -/
structure Acts (prims : Prims) (net : Net n) (i : Fin n) (ap : Ap) : Prop where
  conf : ap.conf = (net i).conf
  holds : ∀ spa pmkR0 pmkR0Name, Holds (net i) spa pmkR0 pmkR0Name → Holds ap spa pmkR0 pmkR0Name
  history : ∃ new, ap.history = new ++ (net i).history ∧
    (∀ key plain, .wrapped key plain ∈ new → Made prims net ap key plain) ∧
    ∀ source r1, .stored source r1 ∈ new → Genuine prims net i r1 source
  cached : ∀ r1 ∈ ap.pmkR1, r1 ∈ (net i).pmkR1 ∨
    FromHeldKey prims ap r1.spa ap.conf.r1KeyHolder r1.pmkR1 r1.pmkR1Name ∨
      ∃ source, .stored source r1 ∈ ap.history

/-- A pull is for the station of the request. -/
lemma processAuthReq_pull {conf : Conf} {cache : List PmkR1Sa} {ans : Answers} {ies : Bytes}
    {sm : Sm} {r0kh : RemoteR0kh} {data : PullData}
    (h : (processAuthReq prims conf cache ans ies sm).pull = some (r0kh, data)) :
    data.r1khId = conf.r1KeyHolder ∧ data.s1khId = sm.addr := by
  have haccept (r1 : PmkR1Sa) (name : KeyName) (sm : Sm) :
      (acceptAuthReq prims conf ans r1 name sm).pull = none := by
    unfold acceptAuthReq
    split <;> rfl
  have hpull (name : KeyName) (sm : Sm)
      (h : (pullPmkR1 conf ans ies name sm).pull = some (r0kh, data)) :
      data.r1khId = conf.r1KeyHolder ∧ data.s1khId = sm.addr := by
    unfold pullPmkR1 at h
    split at h <;> cases h
    exact ⟨rfl, rfl⟩
  unfold processAuthReq at h
  dsimp only at h
  repeat' split at h
  all_goals first
    | (cases h)
    | (rw [haccept] at h; cases h)
    | (have hres := hpull _ _ h; exact hres)

section Acts

variable {net : Net n} {data : Bytes} {src : Mac} {now : ℕ}

lemma Acts.quiet (stas : List Sm) : Acts prims net i { net i with stas } :=
  ⟨rfl, fun _ _ _ h => h, ⟨[], rfl, nofun, nofun⟩, fun _ => .inl⟩

lemma Acts.same : Acts prims net i (net i) := .quiet (net i).stas

lemma Acts.stored {source : Source} {r1 : PmkR1Sa} (stas : List Sm)
    (h : Genuine prims net i r1 source) :
    Acts prims net i { ((net i).storePmkR1 r1).note (.stored source r1) with stas } := by
  refine ⟨rfl, fun _ _ _ h => h, ⟨[_], rfl, by simp, ?_⟩, fun r1 hr1 => ?_⟩
  · intro source r1 hstored
    obtain ⟨rfl, rfl⟩ := KeyEvent.stored.inj (mem_singleton.mp hstored)
    exact h
  · rcases mem_cons.mp hr1 with rfl | hold
    · exact .inr (.inr ⟨_, mem_cons_self⟩)
    · exact .inl hold

lemma length_unwrapped {key : Octets 16} {len : ℕ} {plain : Bytes}
    (hlen : ¬ data.length < rrbHeaderLen + len + 8)
    (h : prims.aesUnwrap key (Ap.crypt len data) = some plain) : plain.length = len := by
  have hcrypt : (Ap.crypt len data).length = len + 8 := by
    rw [Ap.crypt, length_take, length_drop]
    omega
  have hplain := prims.length_aesUnwrap h
  omega

lemma acts_deriveKeys (spa : Mac) (xxkey : Bytes) (pairwise : UInt16) :
    Acts prims net i ((net i).deriveKeys prims spa xxkey pairwise) := by
  unfold Ap.deriveKeys
  split
  · exact .same
  refine ⟨rfl, ?_, ⟨[], rfl, nofun, nofun⟩, fun r1 hr1 => ?_⟩
  · rintro spa pmkR0 pmkR0Name ⟨r0, hmem, hkey⟩
    exact ⟨r0, mem_cons_of_mem _ hmem, hkey⟩
  · rcases mem_cons.mp hr1 with rfl | hold
    · exact .inr (.inl ⟨_, _, ⟨_, mem_cons_self, rfl, rfl, rfl⟩, rfl⟩)
    · exact .inl hold

/-- A pull is wrapped and noted. -/
lemma acts_sendPull {spa : Mac} {sm : Sm} {cache : List PmkR1Sa} {ans : Answers} {ies : Bytes}
    (haddr : sm.addr = spa) (stas : List Sm) :
    Acts prims net i (Ap.sendPull spa
      (processAuthReq prims (net i).conf cache ans ies sm).pull { net i with stas }) := by
  cases hpull : (processAuthReq prims (net i).conf cache ans ies sm).pull with
  | none => exact .quiet stas
  | some pull =>
    obtain ⟨hr1kh, hs1kh⟩ := processAuthReq_pull hpull
    rw [← haddr, ← hs1kh]
    refine ⟨rfl, fun _ _ _ h => h, ⟨[_, _], rfl, ?_, by simp⟩, fun _ => .inl⟩
    intro key plain hwrapped
    obtain ⟨rfl, rfl⟩ : key = pull.1.key ∧ plain = pull.2.encode := by simpa using hwrapped
    exact .pull ⟨hr1kh, mem_cons_of_mem _ mem_cons_self⟩

lemma acts_authReq (cb : PendingCb) (ans : Answers) (spa : Mac) (ies : Bytes) :
    Acts prims net i ((net i).authReq prims cb ans spa ies) := by
  unfold Ap.authReq
  dsimp only
  split
  · exact .same
  · next sm hsm => exact acts_sendPull (by simpa using find?_some hsm) _

lemma acts_pullRespFinish (ans : Answers) (spa : Mac) :
    Acts prims net i ((net i).pullRespFinish prims ans spa) := by
  unfold Ap.pullRespFinish
  split
  · exact .same
  next sm hsm =>
  split
  · exact acts_sendPull (by simpa using find?_some hsm) _
  · exact .same

/-- A key is held although another one is marked as pushed. -/
lemma holds_updateFirst {addr spa : Mac} {pmkR0 : Pmk} {pmkR0Name : KeyName}
    (h : Holds ap spa pmkR0 pmkR0Name) :
    Holds { ap with
      pmkR0 := updateFirst (·.spa == addr) (fun r0 => { r0 with pmkR1Pushed := true }) ap.pmkR0 }
      spa pmkR0 pmkR0Name := by
  have hmap := map_updateFirst (p := fun r0 : PmkR0Sa => r0.spa == addr)
    (f := fun r0 => { r0 with pmkR1Pushed := true })
    (g := fun r0 => (r0.spa, r0.pmkR0, r0.pmkR0Name)) (fun _ _ => rfl) ap.pmkR0
  obtain ⟨r0, hmem, rfl, rfl, rfl⟩ := h
  have hold : (r0.spa, r0.pmkR0, r0.pmkR0Name) ∈
      ap.pmkR0.map fun r0 => (r0.spa, r0.pmkR0, r0.pmkR0Name) :=
    mem_map_of_mem hmem
  rw [← hmap] at hold
  obtain ⟨r0', hmem', heq⟩ := mem_map.mp hold
  obtain ⟨hspa, hkey, hname⟩ : _ ∧ _ ∧ _ := by simpa using heq
  exact ⟨r0', hmem', hspa, hkey, hname⟩

/-- A push is wrapped and noted. -/
lemma acts_pushPmkR1 (now : ℕ) (addr : Mac) :
    Acts prims net i ((net i).pushPmkR1 prims now addr) := by
  unfold Ap.pushPmkR1
  split
  · exact .same
  split
  · exact .same
  next r0 hr0 =>
  split
  · exact .same
  obtain rfl : r0.spa = addr := by simpa using find?_some hr0
  refine ⟨rfl, fun _ _ _ => holds_updateFirst, ⟨_, rfl, ?_, ?_⟩, fun _ => .inl⟩
  · intro key plain hwrapped
    obtain ⟨r1kh, hr1kh, heq⟩ := mem_map.mp (mem_reverse.mp hwrapped)
    obtain ⟨rfl, rfl⟩ := KeyEvent.wrapped.inj heq
    have hr0 : Holds (net i) r0.spa r0.pmkR0 r0.pmkR0Name :=
      ⟨r0, mem_of_find?_eq_some hr0, rfl, rfl, rfl⟩
    exact .push ⟨⟨r1kh, hr1kh, rfl, rfl⟩, _, _, holds_updateFirst hr0, rfl⟩
  · intro source r1 hstored
    obtain ⟨r1kh, -, heq⟩ := mem_map.mp (mem_reverse.mp hstored)
    cases heq

variable (hinv : Inv prims net)

include hinv

/-- A pull is answered: it is one that an R1 key holder has sent. -/
lemma acts_rrbRxPull (hknown : ∀ r1kh ∈ (net i).conf.r1khList,
      ∀ plain ∈ prims.aesUnwrap r1kh.key (Ap.crypt PullData.len data), net.Wrapped r1kh.key plain) :
    Acts prims net i ((net i).rrbRxPull prims src data) := by
  unfold Ap.rrbRxPull
  split
  · exact .same
  next hlen =>
  split
  · exact .same
  next r1kh hr1kh =>
  split
  · exact .same
  next plain hplain =>
  dsimp only
  split
  · exact .same
  next r0 hr0 =>
  have hmem : r1kh ∈ (net i).conf.r1khList := mem_of_find?_eq_some hr1kh
  obtain ⟨hspa, hname⟩ : r0.spa = (PullData.decode plain).s1khId ∧
      r0.pmkR0Name = (PullData.decode plain).pmkR0Name := by
    simpa using find?_some hr0
  have hlen := length_unwrapped hlen hplain
  obtain ⟨j, hj⟩ := hknown r1kh hmem plain hplain
  have hpulled : net.Pulled (PullData.decode plain).r1khId (PullData.decode plain).s1khId
      (PullData.decode plain).nonce := by
    cases hinv.made j r1kh.key plain hj with
    | pull hmade =>
      rw [PullData.decode_encode]
      exact ⟨j, hmade.r1khId.symm, hmade.pulled⟩
    | resp _ => simp [RespData.len, PullData.len] at hlen
    | push _ => simp [PushData.len, PullData.len] at hlen
  refine ⟨rfl, fun _ _ _ h => h, ⟨[_], rfl, ?_, by simp⟩, fun _ => .inl⟩
  intro key plain' hwrapped
  obtain ⟨rfl, rfl⟩ := KeyEvent.wrapped.inj (mem_singleton.mp hwrapped)
  refine .resp ⟨⟨r1kh, hmem, rfl⟩, hpulled, r0.pmkR0, r0.pmkR0Name,
    ⟨r0, mem_of_find?_eq_some hr0, hspa, rfl, rfl⟩, ?_⟩
  rw [Supplicant.derivePmkR1, hname]

/-- Data with the length of an answer, with a key shared with an R0 key holder and for this R1 key
holder, is that of an answer to a pull of this R1 key holder. -/
lemma acts_rrbRxResp (hknown : ∀ r0kh ∈ (net i).conf.r0khList,
      ∀ plain ∈ prims.aesUnwrap r0kh.key (Ap.crypt RespData.len data), net.Wrapped r0kh.key plain) :
    Acts prims net i ((net i).rrbRxResp prims src data) := by
  unfold Ap.rrbRxResp
  split
  · exact .same
  next hlen =>
  split
  · exact .same
  next r0kh hr0kh =>
  split
  · exact .same
  next plain hplain =>
  dsimp only
  split
  · exact .same
  next hid =>
  have hmem : r0kh ∈ (net i).conf.r0khList := mem_of_find?_eq_some hr0kh
  obtain rfl : r0kh.addr = src := by simpa using find?_some hr0kh
  have hlen := length_unwrapped hlen hplain
  obtain ⟨j, hj⟩ := hknown r0kh hmem plain hplain
  refine .stored _ ?_
  cases hinv.made j r0kh.key plain hj with
  | pull _ => simp [RespData.len, PullData.len] at hlen
  | push _ => simp [PushData.len, RespData.len] at hlen
  | resp hmade =>
    rw [RespData.decode_encode] at hid ⊢
    obtain ⟨c, hc, hpulled⟩ := hmade.pulled
    obtain rfl : c = i := hinv.distinct c i (hc.trans (not_not.mp hid))
    exact ⟨⟨r0kh, hmem, rfl, j, hj, hmade.shared, hc ▸ hmade.fromHeldKey⟩, hpulled, rfl, hc.symm⟩

/-- Data with the length of a push is that of a push. -/
lemma acts_rrbRxPush (hknown : ∀ r0kh ∈ (net i).conf.r0khList,
      ∀ plain ∈ prims.aesUnwrap r0kh.key (Ap.crypt PushData.len data), net.Wrapped r0kh.key plain) :
    Acts prims net i ((net i).rrbRxPush prims src now data) := by
  unfold Ap.rrbRxPush
  split
  · exact .same
  next hlen =>
  split
  · exact .same
  next r0kh hr0kh =>
  split
  · exact .same
  next plain hplain =>
  dsimp only
  split
  · exact .same
  next htime =>
  split
  · exact .same
  next hid =>
  have hmem : r0kh ∈ (net i).conf.r0khList := mem_of_find?_eq_some hr0kh
  obtain rfl : r0kh.addr = src := by simpa using find?_some hr0kh
  have hlen := length_unwrapped hlen hplain
  obtain ⟨j, hj⟩ := hknown r0kh hmem plain hplain
  refine .stored _ ?_
  cases hinv.made j r0kh.key plain hj with
  | pull _ => simp [PushData.len, PullData.len] at hlen
  | resp _ => simp [PushData.len, RespData.len] at hlen
  | push hmade =>
    rw [PushData.decode_encode] at hid htime ⊢
    obtain ⟨r1kh, hshared, hr1key, -⟩ := hmade.shared
    exact ⟨⟨r0kh, hmem, rfl, j, hj, ⟨r1kh, hshared, hr1key⟩,
      not_not.mp hid ▸ hmade.fromHeldKey⟩, by omega, by omega, rfl, not_not.mp hid⟩

/-- A frame of the distribution system is handled as allowed. -/
lemma acts_rrbRx {ans : Answers}
    (hknown : ∀ key ∈ sharedKeys (net i).conf,
      ∀ len ∈ [PullData.len, RespData.len, PushData.len],
      ∀ plain ∈ prims.aesUnwrap key (Ap.crypt len data), net.Wrapped key plain) :
    Acts prims net i ((net i).rrbRx prims ans src now data) := by
  have hr0kh (r0kh : RemoteR0kh) (h : r0kh ∈ (net i).conf.r0khList) :
      r0kh.key ∈ sharedKeys (net i).conf := mem_append_left _ (mem_map_of_mem h)
  have hr1kh (r1kh : RemoteR1kh) (h : r1kh ∈ (net i).conf.r1khList) :
      r1kh.key ∈ sharedKeys (net i).conf := mem_append_right _ (mem_map_of_mem h)
  unfold Ap.rrbRx
  dsimp only
  split
  · exact .same
  split
  · exact .same
  split
  · exact .same
  split
  · exact acts_rrbRxPull hinv fun r1kh h => hknown r1kh.key (hr1kh r1kh h) _ (by simp)
  split
  · exact acts_rrbRxResp hinv fun r0kh h => hknown r0kh.key (hr0kh r0kh h) _ (by simp)
  split
  · exact acts_rrbRxPush hinv fun r0kh h => hknown r0kh.key (hr0kh r0kh h) _ (by simp)
  unfold Ap.rrbRxAction
  split
  · exact .same
  split
  · exact .same
  split
  · exact acts_authReq .rrbRxRequestCb ans _ _
  · exact .same

/-- What one access point is allowed to do keeps the invariant. -/
lemma Inv.update (h : Acts prims net i ap) : Inv prims (update net i ap) := by
  obtain ⟨new, hhistory, hmade, hgenuine⟩ := h.history
  have hap : Extends (net i) ap :=
    ⟨h.conf, fun e he => hhistory ▸ mem_append_right new he, h.holds⟩
  have hext := extends_update hap
  refine ⟨?_, ?_, ?_, ?_⟩
  · intro j k hid
    rw [(hext j).conf, (hext k).conf] at hid
    exact hinv.distinct j k hid
  · intro j key plain hwrapped
    by_cases hj : j = i
    · subst hj
      rw [update_self] at hwrapped ⊢
      rw [hhistory] at hwrapped
      rcases mem_append.mp hwrapped with hnew | hold
      · exact (hmade key plain hnew).mono hext (.refl ap)
      · exact (hinv.made j key plain hold).mono hext hap
    · rw [update_of_ne hj] at hwrapped ⊢
      exact (hinv.made j key plain hwrapped).mono hext (.refl _)
  · intro j source r1 hstored
    by_cases hj : j = i
    · subst hj
      rw [update_self, hhistory] at hstored
      rcases mem_append.mp hstored with hnew | hold
      · exact (hgenuine source r1 hnew).mono hext
      · exact (hinv.stored j source r1 hold).mono hext
    · rw [update_of_ne hj] at hstored
      exact (hinv.stored j source r1 hstored).mono hext
  · intro j r1 hr1
    by_cases hj : j = i
    · subst hj
      rw [update_self] at hr1 ⊢
      rcases h.cached r1 hr1 with hold | hnew
      · rcases hinv.cached j r1 hold with hlocal | ⟨source, hstored⟩
        · rw [h.conf]
          exact .inl (hlocal.mono hap)
        · exact .inr ⟨source, hap.history _ hstored⟩
      · exact hnew
    · rw [update_of_ne hj] at hr1 ⊢
      exact hinv.cached j r1 hr1

end Acts

/-- Every event keeps the invariant. -/
lemma Inv.step {net net' : Net n} {e : Event n} (hinv : Inv prims net)
    (hcond : Unforged prims net e) (hstep : Net.step prims net e = .ok net') : Inv prims net' := by
  cases e with
  | deriveKeys i spa xxkey pairwise =>
    cases hstep
    exact hinv.update (acts_deriveKeys spa xxkey pairwise)
  | push i now spa =>
    cases hstep
    exact hinv.update (acts_pushPmkR1 now spa)
  | authReq i ans spa ies =>
    cases hstep
    exact hinv.update (acts_authReq .authFtFinish ans spa ies)
  | rrbRx i ans src now data =>
    cases hstep
    exact hinv.update (acts_rrbRx hinv hcond)
  | pullRespFinish i ans spa =>
    cases hstep
    exact hinv.update (acts_pullRespFinish ans spa)

/-- A network before its first event. -/
structure Configured (net : Net n) : Prop where
  distinct : ∀ i j, (net i).conf.r1KeyHolder = (net j).conf.r1KeyHolder → i = j
  history : ∀ i, (net i).history = []
  pmkR1 : ∀ i, (net i).pmkR1 = []

lemma Configured.inv {net : Net n} (h : Configured net) : Inv prims net where
  distinct := h.distinct
  made i key plain hwrapped := by
    rw [h.history i] at hwrapped
    cases hwrapped
  stored i source r1 hstored := by
    rw [h.history i] at hstored
    cases hstored
  cached i r1 hr1 := by
    rw [h.pmkR1 i] at hr1
    cases hr1

/-- In every run of a network of access points in which no frame is forged, a PMK-R1 is stored
because of a frame only if it is genuine, and every key in a cache was derived by the access point
itself or stored because of such a frame. -/
theorem genuine_keys_stored (prims : Prims) {net net' : Net n} {es : List (Event n)}
    (hnet : Configured net) (hcond : Along (Net.step prims) (Unforged prims) net es)
    (hrun : run (Net.step prims) net es = .ok net') (i : Fin n) :
    (∀ source r1, .stored source r1 ∈ (net' i).history → Genuine prims net' i r1 source) ∧
      ∀ r1 ∈ (net' i).pmkR1,
        FromHeldKey prims (net' i) r1.spa (net' i).conf.r1KeyHolder r1.pmkR1 r1.pmkR1Name ∨
          ∃ source, .stored source r1 ∈ (net' i).history := by
  have hinv : Inv prims net' := run_along_induction
    (fun s e s' hs hc hstep => .step hs hc hstep) hnet.inv hcond hrun
  exact ⟨hinv.stored i, hinv.cached i⟩

/-! ## Repeated frames -/

instance (net : Net n) : (e : Event n) → Decidable (Unforged prims net e)
  | .rrbRx i _ _ _ data =>
    inferInstanceAs (Decidable (∀ key ∈ sharedKeys (net i).conf,
      ∀ len ∈ [PullData.len, RespData.len, PushData.len],
      ∀ plain ∈ prims.aesUnwrap key (Ap.crypt len data), net.Wrapped key plain))
  | .deriveKeys .. | .push .. | .authReq .. | .pullRespFinish .. => isTrue trivial

namespace Sample

def apAddr (i : UInt8) : Mac := Octets.ofList 6 [2, 0, 0, 0, 0, i]

def spa : Mac := Octets.ofList 6 [2, 0, 0, 0, 1, 0]

def key : Octets 16 := Octets.ofList 16 [77]

def conf (i : UInt8) : Conf where
  addr := apAddr i
  ssid := [0x66, 0x74]
  mobilityDomain := Octets.ofList 2 [0xa1, 0xb2]
  r0KeyHolder := [i]
  r1KeyHolder := apAddr i

def net : Net 2
  | 0 => { conf := { conf 0 with r1khList := [⟨apAddr 1, apAddr 1, key⟩] } }
  | 1 => { conf := { conf 1 with r0khList := [⟨apAddr 0, [0], key⟩] } }

/-- The station associates with the R0 key holder. -/
def derive : Event 2 := .deriveKeys 0 spa [5] 0x0010

def pmkR0 : Pmk × KeyName :=
  Prims.sample.derivePmkR0 [5] (conf 0).ssid (conf 0).mobilityDomain (conf 0).r0KeyHolder spa

def pmkR1 : Pmk × KeyName := Prims.sample.derivePmkR1 pmkR0.1 pmkR0.2 (apAddr 1) spa

def frame (packetType : UInt8) (len : ℕ) (i : UInt8) (plain : Bytes) : Bytes :=
  rrbHeader packetType len (apAddr i) ++ Prims.sample.aesWrap key plain

def pushData : PushData :=
  { timestamp := 1000, r1khId := apAddr 1, s1khId := spa, pmkR0Name := pmkR0.2, pmkR1 := pmkR1.1,
    pmkR1Name := pmkR1.2, pairwise := 0x0010 }

def pushed (now : ℕ) : Event 2 :=
  .rrbRx 1 {} (apAddr 0) now (frame packetPush 82 0 pushData.encode)

/-- The elements of an FT Authentication Request. -/
def authIes : Bytes :=
  element 48 ([1, 0, 0x00, 0x0f, 0xac, 4, 1, 0, 0x00, 0x0f, 0xac, 4, 1, 0, 0x00, 0x0f, 0xac, 3,
    0, 0, 1, 0] ++ pmkR0.2.val) ++ writeMdie (conf 1).mobilityDomain true ++
    element 55 (replicate 82 0 ++ element 3 (conf 0).r0KeyHolder)

def nonce : Octets 16 := Octets.ofList 16 [42]

def aNonce : Nonce := Octets.ofList 32 [11]

def pullData : PullData := { nonce, pmkR0Name := pmkR0.2, r1khId := apAddr 1, s1khId := spa }

def respData : RespData :=
  { nonce, r1khId := apAddr 1, s1khId := spa, pmkR1 := pmkR1.1, pmkR1Name := pmkR1.2,
    pairwise := 0x0010 }

def answered : Event 2 := .rrbRx 1 {} (apAddr 0) 0 (frame packetResp 78 0 respData.encode)

/-- The station moves to the R1 key holder, which pulls its key. -/
def pull : List (Event 2) :=
  [.authReq 1 { pullNonce := some nonce } spa authIes,
    .rrbRx 0 {} (apAddr 1) 0 (frame packetPull 44 1 pullData.encode), answered,
    .pullRespFinish 1 { aNonce := some aNonce } spa]

def r1 : PmkR1Sa := { pmkR1 := pmkR1.1, pmkR1Name := pmkR1.2, spa, pairwise := 0x0010 }

lemma configured : Configured net where
  distinct := by decide
  history := by decide
  pmkR1 := by decide

end Sample

/-- The hypotheses are met by a network in which a key is pulled and then pushed. -/
theorem genuine_keys_stored_sample : ∃ net',
    run (Net.step Prims.sample) Sample.net
      (Sample.derive :: Sample.pull ++ [.push 0 1000 Sample.spa, Sample.pushed 1030]) = .ok net' ∧
      (net' 1).pmkR1 = [Sample.r1, Sample.r1] ∧
      Genuine Prims.sample net' 1 Sample.r1 (.push (Sample.apAddr 0) Sample.pushData 1030) := by
  have hcond : Along (Net.step Prims.sample) (Unforged Prims.sample) Sample.net
      (Sample.derive :: Sample.pull ++ [.push 0 1000 Sample.spa, Sample.pushed 1030]) := by
    decide +kernel
  refine returns_of (fun net' => (net' 1).pmkR1 = [Sample.r1, Sample.r1] ∧
    .stored (.push (Sample.apAddr 0) Sample.pushData 1030) Sample.r1 ∈ (net' 1).history)
    (by decide +kernel) fun net' hrun ⟨hcache, hstored⟩ => ⟨hcache, ?_⟩
  exact (genuine_keys_stored Prims.sample Sample.configured hcond hrun 1).1 _ _ hstored

/-- An answer is stored again when it is repeated after the request it belongs to was completed, so
that no station waits for it; and a push is stored again when it is repeated within the 60 seconds.
No frame is forged in the two runs. -/
theorem repeated_keys_stored :
    Along (Net.step Prims.sample) (Unforged Prims.sample) Sample.net
      (Sample.derive :: Sample.pull ++ [Sample.answered]) ∧
    Along (Net.step Prims.sample) (Unforged Prims.sample) Sample.net
      [Sample.derive, .push 0 1000 Sample.spa, Sample.pushed 1010, Sample.pushed 1030] ∧
    Returns (run (Net.step Prims.sample) Sample.net
      (Sample.derive :: Sample.pull ++ [Sample.answered])) (fun net' =>
      (net' 1).pmkR1 = [Sample.r1, Sample.r1] ∧ ∃ rest, (net' 1).history =
        .stored (.response (Sample.apAddr 0) Sample.respData false) Sample.r1 :: rest) ∧
    Returns (run (Net.step Prims.sample) Sample.net
      [Sample.derive, .push 0 1000 Sample.spa, Sample.pushed 1010, Sample.pushed 1030]) (fun net' =>
      (net' 1).history =
        [.stored (.push (Sample.apAddr 0) Sample.pushData 1030) Sample.r1,
          .stored (.push (Sample.apAddr 0) Sample.pushData 1010) Sample.r1]) := by
  refine ⟨by decide +kernel, by decide +kernel, ?_, by decide +kernel⟩
  refine returns_of (fun net' => (net' 1).pmkR1 = [Sample.r1, Sample.r1] ∧
    (net' 1).history.head? =
      some (.stored (.response (Sample.apAddr 0) Sample.respData false) Sample.r1))
    (by decide +kernel) fun net' _ ⟨hcache, hhead⟩ => ⟨hcache, ?_⟩
  exact head?_eq_some_iff.mp hhead

end Net

end Hostapd.Ft

import Hostapd.Radius.Client

/-!
# The retransmit queue of the RADIUS client

Every function that takes entries off the list of pending requests also takes them off the count,
except `radius_client_get_id`: an entry whose identifier is given out again leaves the list but is
still counted (`reused_identifier_still_counted`).

`Evolves` says what all of the queue's functions but the addition of an entry have in common. By
`queue_accounting` the count never falls below the length of the list, never rises above the limit,
and is exact as long as no identifier was given out again while it was pending; the identifiers of
pending requests are distinct if each request has the identifier that was fetched just before.
-/

namespace Hostapd.Radius

open Wire Checked Machine List

/-! ## What leaves the list -/

def Client.refs (c : Client) : List ℕ := c.msgs.map (·.ref)

def Client.ids (c : Client) : Bytes := c.msgs.map (·.msg.identifier)

/-- Entries may leave the list; those that leave it and not the count are counted as reuses. -/
structure Evolves (c c' : Client) : Prop where
  refs : c'.refs.Sublist c.refs
  /-- Entries that leave the list leave the count too, or are counted as reuses. -/
  count : c'.numMsgs + c.msgs.length + c.reuses = c.numMsgs + c'.msgs.length + c'.reuses
  numMsgs_le : c'.numMsgs ≤ c.numMsgs
  reuses_le : c.reuses ≤ c'.reuses
  ids : c.ids.Nodup → c'.ids.Nodup
  nextRef_eq : c'.nextRef = c.nextRef

/-- What the queue keeps. -/
structure QueueInv (c : Client) : Prop where
  refs_nodup : c.refs.Nodup
  refs_lt : ∀ ref ∈ c.refs, ref < c.nextRef
  length_le : c.msgs.length ≤ c.numMsgs
  numMsgs_le : c.numMsgs ≤ clientMaxEntries
  exact : c.reuses = 0 → c.numMsgs = c.msgs.length

variable {f : MsgEntry → MsgEntry} {world : World} {c c' c'' : Client} {e : ClientEvent}

lemma Evolves.of_eq (hrefs : c'.refs = c.refs) (hids : c'.ids = c.ids)
    (hcount : (c'.numMsgs, c'.reuses, c'.nextRef) = (c.numMsgs, c.reuses, c.nextRef)) :
    Evolves c c' := by
  obtain ⟨hnum, hcount⟩ := Prod.mk.inj hcount
  obtain ⟨hreuses, hnext⟩ := Prod.mk.inj hcount
  refine ⟨hrefs ▸ .refl _, ?_, hnum.le, hreuses.ge, fun h => hids ▸ h, hnext⟩
  have hlen := congrArg List.length hrefs
  simp only [Client.refs, length_map] at hlen
  omega

lemma Evolves.refl (c : Client) : Evolves c c := .of_eq rfl rfl rfl

lemma Evolves.trans (h : Evolves c c') (h' : Evolves c' c'') : Evolves c c'' where
  refs := h'.refs.trans h.refs
  count := by
    have h₁ := h.count
    have h₂ := h'.count
    omega
  numMsgs_le := h'.numMsgs_le.trans h.numMsgs_le
  reuses_le := h.reuses_le.trans h'.reuses_le
  ids hids := h'.ids (h.ids hids)
  nextRef_eq := h'.nextRef_eq.trans h.nextRef_eq

lemma QueueInv.evolves (h : QueueInv c) (hc : Evolves c c') : QueueInv c' where
  refs_nodup := h.refs_nodup.sublist hc.refs
  refs_lt ref href := hc.nextRef_eq ▸ h.refs_lt ref (hc.refs.subset href)
  length_le := by
    have hcount := hc.count
    have hlen := h.length_le
    have hreuses := hc.reuses_le
    omega
  numMsgs_le := hc.numMsgs_le.trans h.numMsgs_le
  exact hreuses := by
    have hcount := hc.count
    have hle := hc.reuses_le
    have hexact := h.exact (by omega)
    omega

lemma Evolves.map (hf : ∀ e, (f e).ref = e.ref ∧ (f e).msg.identifier = e.msg.identifier) :
    Evolves c { c with msgs := c.msgs.map f } := by
  refine .of_eq ?_ ?_ rfl
  · simp [Client.refs, hf]
  · simp [Client.ids, hf]

lemma Evolves.modify (ref : ℕ)
    (hf : ∀ e, (f e).ref = e.ref ∧ (f e).msg.identifier = e.msg.identifier) :
    Evolves c (c.modify ref f) := by
  refine .map fun e => ?_
  split
  · exact hf e
  · exact ⟨rfl, rfl⟩

/-- Entries leave the list and the count. -/
lemma Evolves.drop (h : c.msgs.length ≤ c.numMsgs) (p : MsgEntry → Bool) :
    Evolves c (c.drop p) := by
  have hsub : (c.drop p).msgs.Sublist c.msgs := filter_sublist
  have hlen : (c.drop p).msgs.length + c.msgs.countP p = c.msgs.length := by
    have hsplit : c.msgs.length = _ := length_eq_length_filter_add p
    simp only [Client.drop, countP_eq_length_filter]
    omega
  exact
    { refs := hsub.map _
      count := by
        simp only [Client.drop] at hlen ⊢
        omega
      numMsgs_le := Nat.sub_le _ _
      reuses_le := le_rfl
      ids := fun hids => hids.sublist (hsub.map _)
      nextRef_eq := rfl }

/-- Entries leave the list but not the count. -/
lemma Evolves.getId : Evolves c (radiusClientGetId c).2 := by
  have hsub : (radiusClientGetId c).2.msgs.Sublist c.msgs := filter_sublist
  have hlen : (radiusClientGetId c).2.msgs.length + (radiusClientGetId c).2.reuses =
      c.msgs.length + c.reuses := by
    have hsplit : c.msgs.length = _ := length_eq_length_filter_add
      fun e => e.msg.identifier == c.nextRadiusIdentifier
    simp only [radiusClientGetId]
    rw [countP_eq_length_filter]
    omega
  exact
    { refs := hsub.map _
      count := by
        simp only [radiusClientGetId] at hlen ⊢
        omega
      numMsgs_le := le_rfl
      reuses_le := Nat.le_add_right _ _
      ids := fun hids => hids.sublist (hsub.map _)
      nextRef_eq := rfl }

lemma getId_notMem : (radiusClientGetId c).1 ∉ (radiusClientGetId c).2.ids := by
  intro hmem
  obtain ⟨e, he, hid⟩ := mem_map.mp hmem
  have hne := (mem_filter.mp he).2
  simp only [Bool.not_eq_true', beq_eq_false_iff_ne, ne_eq] at hne
  exact hne hid

/-! ## What leaves the queue alone -/

def Client.queue (c : Client) : List MsgEntry × ℕ × ℕ × ℕ :=
  (c.msgs, c.numMsgs, c.reuses, c.nextRef)

def SameQueue (c c' : Client) : Prop := c'.queue = c.queue

namespace SameQueue

lemma trans (h : SameQueue c c') (h' : SameQueue c' c'') : SameQueue c c'' := Eq.trans h' h

lemma tick (c : Client) : SameQueue c c.tick := rfl

lemma msgs (h : SameQueue c c') : c'.msgs = c.msgs := congrArg Prod.fst h

lemma evolves (h : SameQueue c c') : Evolves c c' := by
  refine .of_eq ?_ ?_ (congrArg Prod.snd h)
  · rw [Client.refs, Client.refs, h.msgs]
  · rw [Client.ids, Client.ids, h.msgs]

variable (world)

lemma changeServer (n : ℕ) (auth : Bool) (c : Client) :
    SameQueue c (radiusChangeServer world n none auth c).2 := by
  unfold radiusChangeServer
  dsimp only [updateQueue]
  by_cases hconnect : world.connect c.asked
  · rw [if_neg (by simp [hconnect])]
    cases auth <;> rfl
  · rw [if_pos (by simp [hconnect])]
    exact tick c

lemma initAuth (c : Client) : SameQueue c (radiusClientInitAuth world c) := by
  have hclose : SameQueue c { c with authSock := false } := rfl
  unfold radiusClientInitAuth
  dsimp only
  split
  · exact hclose.trans (tick _)
  · exact hclose.trans ((tick _).trans (changeServer world _ true _))

lemma initAcct (c : Client) : SameQueue c (radiusClientInitAcct world c) := by
  have hclose : SameQueue c { c with acctSock := false } := rfl
  unfold radiusClientInitAcct
  dsimp only
  split
  · exact hclose.trans (tick _)
  · exact hclose.trans ((tick _).trans (changeServer world _ false _))

lemma handleSendError (msgType : RadiusType) (c : Client) :
    SameQueue c (radiusClientHandleSendError world msgType c).2 := by
  unfold radiusClientHandleSendError
  split
  · exact initAcct world c
  · exact initAuth world c

lemma openSocket (server : Option ℕ) (isAcct : Bool) (c : Client) :
    SameQueue c (openSocket world server isAcct c) := by
  unfold Radius.openSocket
  split
  · split
    · exact initAcct world c
    · exact initAuth world c
  · rfl

end SameQueue

/-! ## The functions of the queue -/

def Keeps (c c' : Client) : Prop := QueueInv c → Evolves c c'

variable {now ref fuel : ℕ} {entry : MsgEntry} {remove : Bool}

lemma Keeps.trans (h : Keeps c c') (h' : Keeps c' c'') : Keeps c c'' := by
  intro hinv
  exact (h hinv).trans (h' (hinv.evolves (h hinv)))

lemma Evolves.keeps (h : Evolves c c') : Keeps c c' := fun _ => h

lemma Keeps.refl : Keeps c c := (Evolves.refl c).keeps

lemma Keeps.ite {p : Prop} [Decidable p] (h : Keeps c c') : Keeps c (if p then c' else c) := by
  split
  · exact h
  · exact .refl

lemma SameQueue.keeps (h : SameQueue c c') : Keeps c c' := h.evolves.keeps

lemma Keeps.tick : Keeps c c.tick := (SameQueue.tick c).keeps

lemma Keeps.drop (p : MsgEntry → Bool) : Keeps c (c.drop p) :=
  fun hinv => .drop hinv.length_le p

lemma Keeps.resetRetries (msgType : RadiusType) : Keeps c (resetRetries msgType c) :=
  (Evolves.map fun e => by split <;> exact ⟨rfl, rfl⟩).keeps

lemma Keeps.updateAcctMsgs (secret : Bytes) : Keeps c (radiusClientUpdateAcctMsgs secret c) :=
  (Evolves.map fun e => by split <;> exact ⟨rfl, rfl⟩).keeps

lemma Keeps.updateQueue (servers : List Server) (n : ℕ) (o : Option ℕ) (auth : Bool) :
    Keeps c (updateQueue servers n o auth c) := by
  unfold Radius.updateQueue
  split
  · exact .refl
  split
  · exact .ite (.drop _)
  split
  · split
    · exact .trans (.drop _) (.resetRetries _)
    · exact .trans (.updateAcctMsgs _) (.resetRetries _)
  · exact .resetRetries _

lemma Keeps.changeServer (n : ℕ) (o : Option ℕ) (auth : Bool) :
    Keeps c (radiusChangeServer world n o auth c).2 := by
  have hqueue := Keeps.updateQueue (c := c) (if auth then c.authServers else c.acctServers) n o auth
  unfold radiusChangeServer
  dsimp only
  generalize Radius.updateQueue _ n o auth c = d at hqueue ⊢
  split
  · exact hqueue.trans .tick
  · refine hqueue.trans (SameQueue.keeps ?_)
    split <;> rfl

lemma Keeps.initAuth : Keeps c (radiusClientInitAuth world c) :=
  (SameQueue.initAuth world c).keeps

lemma Keeps.initAcct : Keeps c (radiusClientInitAcct world c) :=
  (SameQueue.initAcct world c).keeps

lemma Keeps.authFailover : Keeps c (radiusClientAuthFailover world c) := by
  refine .trans ?_ (.changeServer _ _ _)
  exact SameQueue.keeps rfl

lemma Keeps.acctFailover : Keeps c (radiusClientAcctFailover world c) := by
  refine .trans ?_ (.changeServer _ _ _)
  exact SameQueue.keeps rfl

/-- Going back to the primary server. -/
lemma Keeps.retryPrimary {old : ℕ} {auth : Bool} {g : Client → ℕ → Client}
    (hg : ∀ d n, SameQueue d (g d n)) :
    Keeps c (match radiusChangeServer world 0 (some old) auth (g c 0) with
      | (true, d) => d
      | (false, d) => (radiusChangeServer world old (some old) auth (g d old)).2) := by
  have hfirst : Keeps c (radiusChangeServer world 0 (some old) auth (g c 0)).2 :=
    (hg c 0).keeps.trans (.changeServer _ _ _)
  split
  · next d hd =>
    rw [hd] at hfirst
    exact hfirst
  · next d hd =>
    rw [hd] at hfirst
    exact hfirst.trans ((hg d old).keeps.trans (.changeServer _ _ _))

lemma Keeps.retryPrimaryAuth : Keeps c (retryPrimaryAuth world c) := by
  unfold Radius.retryPrimaryAuth
  split
  · exact .ite (.retryPrimary (g := fun d n => { d with authServer := some n }) fun _ _ => rfl)
  · exact .refl

lemma Keeps.retryPrimaryAcct : Keeps c (retryPrimaryAcct world c) := by
  unfold Radius.retryPrimaryAcct
  split
  · exact .ite (.retryPrimary (g := fun d n => { d with acctServer := some n }) fun _ _ => rfl)
  · exact .refl

lemma Keeps.ensureSocket (isAcct : Bool) : Keeps c (ensureSocket world isAcct c) := by
  unfold Radius.ensureSocket
  split
  · exact .trans (.ite .initAcct) (.ite .acctFailover)
  · exact .trans (.ite .initAuth) (.ite .authFailover)

/-- An entry gets an identifier of its own. -/
lemma ids_modify_nodup {id : UInt8} (hrefs : c.refs.Nodup) (hids : c.ids.Nodup) (hid : id ∉ c.ids)
    (hf : ∀ e, (f e).msg.identifier = id) : (c.modify ref f).ids.Nodup := by
  have hne : ∀ e ∈ c.msgs, e.msg.identifier ≠ id :=
    fun e he heq => hid (heq ▸ mem_map_of_mem he)
  have hmsgs : c.msgs.Nodup := hrefs.of_map
  unfold Client.ids Client.modify
  rw [map_map]
  refine hmsgs.map_on fun x hx y hy hxy => ?_
  simp only [Function.comp_apply] at hxy
  split at hxy <;> split at hxy
  · next hxref hyref => exact inj_on_of_nodup_map hrefs hx hy (hxref.trans hyref.symm)
  · rw [hf] at hxy
    exact absurd hxy.symm (hne y hy)
  · rw [hf] at hxy
    exact absurd hxy (hne x hx)
  · exact inj_on_of_nodup_map hids hx hy hxy

/-- A message gets a new identifier. -/
lemma Keeps.refreshDelayTime (h : refreshDelayTime now entry c = .ok c') : Keeps c c' := by
  unfold Radius.refreshDelayTime at h
  split at h
  · dsimp only at h
    split_ifs at h
    cases h
    intro hinv
    have hget : Evolves c (radiusClientGetId c).2 := .getId
    refine hget.trans ?_
    have hrefs := (hinv.evolves hget).refs_nodup
    refine
      { refs := ?_, count := ?_, numMsgs_le := le_rfl, reuses_le := le_rfl, ids := ?_
        nextRef_eq := rfl }
    · simp only [Client.refs, Client.modify, map_map]
      rw [map_congr_left (g := MsgEntry.ref)]
      intro e _
      simp only [Function.comp_apply]
      split <;> rfl
    · simp only [Client.modify, length_map]
    · intro hids
      exact ids_modify_nodup hrefs hids getId_notMem fun _ => rfl
  · cases h
    exact .refl

/-- Sending a request again takes nothing off the list. -/
lemma Keeps.transmit (h : transmit world now ref c = .ok (c', remove)) : Keeps c c' := by
  unfold Radius.transmit at h
  split at h
  · cases h
  next entry _ =>
  have hattempt : Keeps c (c.modify ref fun e => { e with attempts := e.attempts + 1 }) := by
    refine (Evolves.modify ref fun _ => ?_).keeps
    exact ⟨rfl, rfl⟩
  dsimp only at h
  generalize (c.modify ref fun e => { e with attempts := e.attempts + 1 }) = d at h hattempt
  have hsent : Keeps d (if world.send d.asked = .disconnected then
      radiusClientHandleSendError world entry.msgType d.tick else (false, d.tick)).2 := by
    split
    · exact Keeps.tick.trans (SameQueue.handleSendError world _ _).keeps
    · exact .tick
  generalize (if world.send d.asked = .disconnected then
      radiusClientHandleSendError world entry.msgType d.tick else (false, d.tick)) = r at h hsent
  split at h <;> cases h
  · exact hattempt.trans hsent
  · refine (hattempt.trans hsent).trans (Evolves.modify ref fun _ => ?_).keeps
    exact ⟨rfl, rfl⟩

lemma Keeps.retransmit (h : radiusClientRetransmit world now entry c = .ok (c', remove)) :
    Keeps c c' := by
  have hsocket : Keeps c (Radius.ensureSocket world entry.msgType.isAcct c) := .ensureSocket _
  unfold radiusClientRetransmit at h
  dsimp only at h
  split_ifs at h
  · cases h
    exact hsocket
  · cases h
    exact hsocket
  · cases h
    exact hsocket
  · obtain ⟨d', hrefresh, htransmit⟩ := bind_eq_ok.mp h
    exact hsocket.trans ((Keeps.refreshDelayTime hrefresh).trans (.transmit htransmit))

lemma Keeps.unlink {prev : Option ℕ} (h : unlink prev ref c = .ok c') : Keeps c c' := by
  unfold Radius.unlink at h
  split_ifs at h
  · cases h
    exact .drop _

/-- The loop of the timer loses no entry uncounted. -/
lemma Keeps.timerLoop {prev next : Option ℕ} {f f' : Failovers}
    (h : timerLoop world now fuel prev next f c = .ok (f', c')) : Keeps c c' := by
  -- Induction on the rounds; each one sends an entry, unlinks it, or starts over.
  induction fuel generalizing prev next f c with
  | zero =>
    cases h
    exact .refl
  | succ fuel ih =>
    cases next with
    | none =>
      cases h
      exact .refl
    | some ref =>
      unfold Radius.timerLoop at h
      split at h
      · cases h
      next entry _ =>
      obtain ⟨⟨d, remove⟩, htry, h⟩ := bind_eq_ok.mp h
      have hround : Keeps c d := by
        unfold retransmitDue at htry
        split at htry
        · exact .retransmit htry
        · cases htry
          exact .refl
      dsimp only at h
      split at h
      · obtain ⟨d', hunlink, h⟩ := bind_eq_ok.mp h
        exact hround.trans ((Keeps.unlink hunlink).trans (ih h))
      split at h
      · exact hround.trans (ih h)
      · split at h
        · cases h
        · exact hround.trans (ih h)

lemma Keeps.timer (h : radiusClientTimer world now fuel c = .ok c') : Keeps c c' := by
  obtain ⟨⟨f, d⟩, hloop, h⟩ := bind_eq_ok.mp h
  cases h
  exact (Keeps.timerLoop hloop).trans (Keeps.trans (.ite .authFailover) (.ite .acctFailover))

lemma Keeps.receive (acct : Bool) (identifier : UInt8) :
    Keeps c (radiusClientReceive acct identifier c) := by
  unfold radiusClientReceive
  split
  · exact .refl
  · exact .drop _

/-! ## Adding an entry -/

variable {msg : Request} {msgType : RadiusType} {secret : Bytes} {addr : Octets 6}

/-- What the addition of an entry does: nothing, or the new entry stands before entries that were
there. -/
lemma listAdd_cases :
    radiusClientListAdd world now msg msgType secret addr c = c.tick ∨
      ∃ entry msgs numMsgs, entry.ref = c.nextRef ∧ entry.msg = msg ∧ msgs.Sublist c.msgs ∧
        radiusClientListAdd world now msg msgType secret addr c =
          { c.tick with nextRef := c.nextRef + 1, msgs := entry :: msgs, numMsgs } ∧
        (c.numMsgs < clientMaxEntries ∧ msgs = c.msgs ∧ numMsgs = c.numMsgs + 1 ∨
          clientMaxEntries ≤ c.numMsgs ∧ numMsgs = c.numMsgs ∧
            msgs.length = c.msgs.length - 1) := by
  unfold radiusClientListAdd
  split
  · exact .inl rfl
  right
  dsimp only
  split
  · next hfull =>
    exact ⟨_, c.msgs.dropLast, c.numMsgs, rfl, rfl, dropLast_sublist _, rfl,
      .inr ⟨hfull, rfl, length_dropLast⟩⟩
  · next hfull =>
    exact ⟨_, c.msgs, c.numMsgs + 1, rfl, rfl, .refl _, rfl,
      .inl ⟨Nat.lt_of_not_le hfull, rfl, rfl⟩⟩

/-- Adding an entry keeps the limit. -/
lemma QueueInv.listAdd (h : QueueInv c) :
    QueueInv (radiusClientListAdd world now msg msgType secret addr c) := by
  obtain heq | ⟨entry, msgs, numMsgs, href, -, hsub, heq, hnum⟩ :=
    @listAdd_cases world c now msg msgType secret addr
  · rw [heq]
    exact h.evolves (Keeps.tick h)
  rw [heq]
  have hlt : ∀ ref ∈ msgs.map (·.ref), ref < c.nextRef :=
    fun ref hmem => h.refs_lt ref ((hsub.map _).subset hmem)
  have hlen := h.length_le
  have hmax := h.numMsgs_le
  refine { refs_nodup := ?_, refs_lt := ?_, length_le := ?_, numMsgs_le := ?_, exact := ?_ }
  · refine nodup_cons.mpr ⟨?_, h.refs_nodup.sublist (hsub.map _)⟩
    intro hmem
    exact absurd href (hlt _ hmem).ne
  · intro ref hmem
    obtain rfl | hmem := mem_cons.mp hmem
    · exact Nat.lt_succ_of_le href.le
    · exact Nat.lt_succ_of_lt (hlt ref hmem)
  · show msgs.length + 1 ≤ numMsgs
    have hmin : 0 < clientMaxEntries := by decide
    obtain ⟨-, rfl, rfl⟩ | ⟨hfull, rfl, hdrop⟩ := hnum
    · omega
    · omega
  · show numMsgs ≤ clientMaxEntries
    obtain ⟨hfree, rfl, rfl⟩ | ⟨hfull, rfl, hdrop⟩ := hnum
    · omega
    · omega
  · intro hreuses
    have hexact := h.exact hreuses
    have hmin : 0 < clientMaxEntries := by decide
    show numMsgs = msgs.length + 1
    obtain ⟨hfree, rfl, rfl⟩ | ⟨hfull, rfl, hdrop⟩ := hnum
    · omega
    · omega

lemma ids_listAdd_nodup (hids : c.ids.Nodup) (hid : msg.identifier ∉ c.ids) :
    (radiusClientListAdd world now msg msgType secret addr c).ids.Nodup := by
  obtain heq | ⟨entry, msgs, numMsgs, -, hmsg, hsub, heq, -⟩ :=
    @listAdd_cases world c now msg msgType secret addr
  · rw [heq]
    exact hids
  rw [heq]
  refine nodup_cons.mpr ⟨?_, hids.sublist (hsub.map _)⟩
  intro hmem
  exact hid (hmsg ▸ (hsub.map _).subset hmem)

/-- A message is queued or not. -/
lemma send_cases :
    ∃ d, SameQueue c d ∧
      (radiusClientSend world now msg msgType addr c = d ∨
        ∃ secret, radiusClientSend world now msg msgType addr c =
          radiusClientListAdd world now { msg with finishedWith := secret } msgType secret addr
            d) := by
  have hopen := SameQueue.openSocket world (if msgType.isAcct then c.acctServer else c.authServer)
    msgType.isAcct c
  unfold radiusClientSend
  dsimp only
  generalize Radius.openSocket world _ msgType.isAcct c = d at hopen ⊢
  generalize Option.bind _ _ = server
  cases server with
  | none => exact ⟨d, hopen, .inl rfl⟩
  | some secret =>
    dsimp only
    split
    · exact ⟨d, hopen, .inl rfl⟩
    refine ⟨_, hopen.trans ((SameQueue.tick d).trans ?_), .inr ⟨secret, rfl⟩⟩
    split
    · exact .handleSendError world msgType d.tick
    · rfl

/-! ## Runs -/

/-- What a call does: the queue evolves, or a message that was sent is added to it. -/
lemma call_cases (hcall : c.call world e = .ok c') :
    Keeps c c' ∨ ∃ now msg msgType addr secret d, e = .send now msg msgType addr ∧ SameQueue c d ∧
      c' = radiusClientListAdd world now { msg with finishedWith := secret } msgType secret addr
        d := by
  cases e with
  | getId =>
    cases hcall
    exact .inl Evolves.getId.keeps
  | send now msg msgType addr =>
    cases hcall
    obtain ⟨d, hd, heq | ⟨secret, heq⟩⟩ := @send_cases world c now msg msgType addr
    · rw [heq]
      exact .inl hd.keeps
    · exact .inr ⟨now, msg, msgType, addr, secret, d, rfl, hd, heq⟩
  | receive acct identifier =>
    cases hcall
    exact .inl (.receive acct identifier)
  | timer now fuel => exact .inl (.timer hcall)
  | retryPrimary =>
    cases hcall
    exact .inl (Keeps.retryPrimaryAuth.trans .retryPrimaryAcct)
  | _ =>
    cases hcall
    exact .inl (.drop _)

/-- A request has the identifier that was fetched just before. -/
def UsesGrant (c : Client) : ClientEvent → Prop
  | .send _ msg _ _ => c.granted = some msg.identifier
  | _ => True

instance (c : Client) : ∀ e : ClientEvent, Decidable (UsesGrant c e)
  | .send _ msg _ _ => inferInstanceAs (Decidable (c.granted = some msg.identifier))
  | .getId | .receive _ _ | .timer _ _ | .flush _ | .flushAuth _ | .retryPrimary => isTrue trivial

/-- What holds along runs whose requests have fetched identifiers. -/
structure IdsInv (c : Client) : Prop where
  nodup : c.ids.Nodup
  granted : ∀ id, c.granted = some id → id ∉ c.ids

lemma QueueInv.step (h : QueueInv c) (hstep : c.step world e = .ok c') : QueueInv c' := by
  obtain ⟨d, hcall, heq⟩ := bind_eq_ok.mp hstep
  cases heq
  have hd : QueueInv d := by
    obtain hkeeps | ⟨now, msg, msgType, addr, secret, d', -, hsame, rfl⟩ := call_cases hcall
    · exact h.evolves (hkeeps h)
    · exact (h.evolves hsame.evolves).listAdd
  exact hd.evolves (.of_eq rfl rfl rfl)

/-- One event that uses the identifier fetched. -/
lemma IdsInv.step (hinv : QueueInv c) (h : IdsInv c) (huse : UsesGrant c e)
    (hstep : c.step world e = .ok c') : IdsInv c' := by
  obtain ⟨d, hcall, heq⟩ := bind_eq_ok.mp hstep
  have hd : d.ids.Nodup := by
    obtain hkeeps | ⟨now, msg, msgType, addr, secret, d', rfl, hsame, rfl⟩ := call_cases hcall
    · exact (hkeeps hinv).ids h.nodup
    · refine ids_listAdd_nodup (hsame.evolves.ids h.nodup) ?_
      rw [Client.ids, hsame.msgs]
      exact h.granted _ huse
  cases heq
  refine ⟨hd, ?_⟩
  intro id hid
  cases e with
  | getId =>
    cases hcall
    cases hid
    exact getId_notMem
  | _ => cases hid

/-- A client before its first call (`radius_client_init`). -/
structure Fresh (c : Client) : Prop where
  msgs : c.msgs = []
  numMsgs : c.numMsgs = 0
  granted : c.granted = none

lemma Fresh.queueInv (h : Fresh c) : QueueInv c := by
  constructor <;> simp [Client.refs, h.msgs, h.numMsgs]

lemma Fresh.idsInv (h : Fresh c) : IdsInv c := by
  have hids : c.ids = [] := by rw [Client.ids, h.msgs, map_nil]
  refine ⟨hids ▸ nodup_nil, ?_⟩
  intro id hid
  rw [h.granted] at hid
  cases hid

/-- In every run the count covers the list and respects the limit, and it is the length of the list
as long as no identifier was given out again while it was pending; identifiers of pending requests
are distinct if each request has the identifier fetched just before. -/
theorem queue_accounting {world : World} {c s : Client} {es : List ClientEvent} (hfresh : Fresh c)
    (hrun : run (Client.step world) c es = .ok s) :
    s.msgs.length ≤ s.numMsgs ∧ s.numMsgs ≤ clientMaxEntries ∧
      (s.reuses = 0 → s.numMsgs = s.msgs.length) ∧
      (Along (Client.step world) UsesGrant c es → s.ids.Nodup) := by
  have hstep : ∀ s e s', QueueInv s → Client.step world s e = .ok s' → QueueInv s' :=
    fun s e s' h hs => h.step hs
  have hinv := run_induction hstep hfresh.queueInv hrun
  refine ⟨hinv.length_le, hinv.numMsgs_le, hinv.exact, ?_⟩
  intro halong
  have hboth : ∀ s e s', QueueInv s ∧ IdsInv s → UsesGrant s e →
      Client.step world s e = .ok s' → QueueInv s' ∧ IdsInv s' :=
    fun s e s' h huse hs => ⟨h.1.step hs, h.2.step h.1 huse hs⟩
  exact (run_along_induction hboth ⟨hfresh.queueInv, hfresh.idsInv⟩ halong hrun).2.nodup

/-- Two requests of a station, of which one is answered, and a third one; the timer runs. -/
def exchange : List ClientEvent :=
  [.getId, .send 0 { identifier := 0 } .auth (.zero 6),
    .getId, .send 1 { identifier := 1 } .acct (.zero 6), .receive false 0,
    .getId, .send 2 { identifier := 2 } .auth (.zero 6), .timer 10 10]

/-- The count and the identifiers after such an exchange. -/
theorem queue_accounting_of_exchange :
    ∃ s, run (Client.step .plenty) {} exchange = .ok s ∧
      s.numMsgs = 2 ∧ s.msgs.length ≤ s.numMsgs ∧ s.numMsgs ≤ clientMaxEntries ∧
      (s.reuses = 0 → s.numMsgs = s.msgs.length) ∧ s.ids.Nodup := by
  have halong : Along (Client.step .plenty) UsesGrant {} exchange := by decide +kernel
  refine exists_ok (by decide +kernel) fun s hrun _ => ?_
  obtain ⟨hlength, hmax, hexact, hids⟩ := queue_accounting ⟨rfl, rfl, rfl⟩ hrun
  exact ⟨hlength, hmax, hexact, hids halong⟩

/-- A request whose identifier is given out again, once all others were, leaves the list and is
counted for good. -/
theorem reused_identifier_still_counted :
    ∃ s, run (Client.step .plenty) {}
        ([.getId, .send 0 { identifier := 0 } .auth (.zero 6)] ++ replicate 256 .getId) = .ok s ∧
      s.msgs = [] ∧ s.numMsgs = 1 := by
  decide +kernel

end Hostapd.Radius

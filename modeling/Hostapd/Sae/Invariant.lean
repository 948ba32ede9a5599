import Hostapd.Sae.Auth

/-!
# What an SAE exchange relies on

The data of an exchange are `Ready` when every value of a confirm is there and the KCK is one that
was derived for the values of the peer that are stored. `Exchange.Inv` asks this of every station
that looks at confirms.

For each function there is a statement of what it keeps, and that it stops with the one fault that
the invariant does not exclude: writing a commit from a value that is `NULL`.
-/

namespace Hostapd.Sae

open Wire Machine List Option

variable {El : Type}

/-! ## What the history and the data must have -/

/-- A confirm was checked under a KCK that had been derived for these values of the peer. -/
def CheckedFor (s : ℕ) (e : El) (kck : Octets 32) (log : List (Entry El)) : Prop :=
  ∃ later earlier, log = later ++ .checked (some s) (some e) (some kck) :: earlier ∧
    .derived s e kck ∈ earlier

variable (log : List (Entry El))

/-- Every acceptance in the history was earned by the values that were stored. -/
def Earned : Prop :=
  ∀ later earlier ps pe k, log = later ++ .accepted ps pe k :: earlier →
    ∃ s e kck, ps = some s ∧ pe = some e ∧ k = some kck ∧ CheckedFor s e kck earlier

/-- Every confirm in the history was calculated under a KCK that had been derived. -/
def Keyed : Prop := ∀ k, .computed k ∈ log → k.isSome

def WasAccepted : Prop := ∃ ps pe k, .accepted ps pe k ∈ log

/-- The own values are there. -/
def HasOwn (t : Tmp El) : Prop :=
  ∃ g s e, t.group = some g ∧ t.ownCommitScalar = some s ∧ t.ownCommitElement = some e

/-- The own values are there when there are temporary data. -/
def OwnPresent (d : SaeData El) : Prop := ∀ t, d.tmp = some t → HasOwn t

/-- All values are there, and the KCK is one that was derived for the stored values of the peer. -/
def Ready (d : SaeData El) (t : Tmp El) (log : List (Entry El)) : Prop :=
  HasOwn t ∧ ∃ s e kck, d.peerCommitScalar = some s ∧ t.peerCommitElement = some e ∧
    t.kck = some kck ∧ .derived s e kck ∈ log

/-- The data are ready whenever there are temporary data. -/
def AllReady (d : SaeData El) (log : List (Entry El)) : Prop :=
  ∀ t, d.tmp = some t → Ready d t log

/-- The data are ready whenever a KCK is stored. -/
def KeyReady (d : SaeData El) (log : List (Entry El)) : Prop :=
  ∀ t, d.tmp = some t → t.kck.isSome → Ready d t log

/-- The station looks at the confirms that it receives. -/
def Checks (env : Env El) (d : SaeData El) : Prop :=
  env.mesh = false ∨ d.state = .confirmed ∨ d.state = .accepted

/-- What the history of an exchange says. -/
structure Logged (log : List (Entry El)) : Prop where
  earned : Earned log
  keyed : Keyed log

/-- What an exchange keeps. -/
structure Exchange.Inv (env : Env El) (x : Exchange El) : Prop where
  own : x.sae.state = .committed → OwnPresent x.sae
  /-- An access point checks confirms in every state. -/
  keyed : env.mesh = false → KeyReady x.sae x.log
  ready : x.sae.state = .confirmed ∨ x.sae.state = .accepted → AllReady x.sae x.log
  logged : Logged x.log
  accepted : x.sae.state = .accepted → WasAccepted x.log

/-- The only fault that remains: a commit is written from a value that is `NULL`. -/
def OnlyCommit (f : SaeFault) : Prop := f = .commitFromNull

variable {e : El} {log : List (Entry El)} {d : SaeData El} {env : Env El} {x : Exchange El}
  {ans : Answers El} {t : Tmp El}

lemma CheckedFor.cons {s : ℕ} {kck : Octets 32} (h : CheckedFor s e kck log) (entry : Entry El) :
    CheckedFor s e kck (entry :: log) := by
  obtain ⟨later, earlier, hlog, hderived⟩ := h
  exact ⟨entry :: later, earlier, by rw [hlog, cons_append], hderived⟩

lemma Earned.cons (h : Earned log) {entry : Entry El}
    (hentry : ∀ ps pe k, entry = .accepted ps pe k →
      ∃ s e kck, ps = some s ∧ pe = some e ∧ k = some kck ∧ CheckedFor s e kck log) :
    Earned (entry :: log) := by
  intro later earlier ps pe k hsplit
  cases later with
  | nil =>
    obtain ⟨rfl, rfl⟩ := hsplit
    exact hentry ps pe k rfl
  | cons first later =>
    rw [cons_append, cons.injEq] at hsplit
    exact h later earlier ps pe k hsplit.2

lemma Logged.cons (h : Logged log) {entry : Entry El}
    (haccepted : ∀ ps pe k, entry = .accepted ps pe k →
      ∃ s e kck, ps = some s ∧ pe = some e ∧ k = some kck ∧ CheckedFor s e kck log)
    (hcomputed : ∀ k, entry = .computed k → k.isSome) : Logged (entry :: log) := by
  refine ⟨h.earned.cons haccepted, fun k hk => ?_⟩
  rcases mem_cons.mp hk with rfl | hk
  · exact hcomputed k rfl
  · exact h.keyed k hk

lemma WasAccepted.cons (h : WasAccepted log) (entry : Entry El) : WasAccepted (entry :: log) := by
  obtain ⟨ps, pe, k, hmem⟩ := h
  exact ⟨ps, pe, k, mem_cons_of_mem _ hmem⟩

lemma AllReady.cons (h : AllReady d log) (entry : Entry El) : AllReady d (entry :: log) := by
  intro t ht
  obtain ⟨hown, s, e, kck, hs, he, hk, hmem⟩ := h t ht
  exact ⟨hown, s, e, kck, hs, he, hk, mem_cons_of_mem _ hmem⟩

/-- The key and the values of the peer are the same, and own values that were there still are. -/
structure Tmp.Keeps (t t' : Tmp El) : Prop where
  kck : t'.kck = t.kck
  peerCommitElement : t'.peerCommitElement = t.peerCommitElement
  own : HasOwn t → HasOwn t'

lemma Tmp.Keeps.refl (t : Tmp El) : t.Keeps t := ⟨rfl, rfl, id⟩

lemma Tmp.Keeps.trans {t₁ t₂ t₃ : Tmp El} (h : t₁.Keeps t₂) (h' : t₂.Keeps t₃) : t₁.Keeps t₃ :=
  ⟨h'.kck.trans h.kck, h'.peerCommitElement.trans h.peerCommitElement, h'.own ∘ h.own⟩

/-- The data differ in nothing that readiness is about, except that own values may be new ones. -/
structure Keeps (d d' : SaeData El) : Prop where
  peerCommitScalar : d'.peerCommitScalar = d.peerCommitScalar
  tmp : ∀ t', d'.tmp = some t' → ∃ t, d.tmp = some t ∧ t.Keeps t'

lemma Keeps.of_eq {d' : SaeData El} (htmp : d'.tmp = d.tmp)
    (hpeer : d'.peerCommitScalar = d.peerCommitScalar) : Keeps d d' :=
  ⟨hpeer, fun t' ht' => ⟨t', htmp ▸ ht', .refl t'⟩⟩

section Keeps

variable {d' : SaeData El} (h : Keeps d d')

include h

lemma Keeps.ready {t' : Tmp El} (ht' : d'.tmp = some t')
    (hready : ∀ t, d.tmp = some t → t.kck = t'.kck → Ready d t log) : Ready d' t' log := by
  obtain ⟨t, ht, hkeeps⟩ := h.tmp t' ht'
  obtain ⟨hown, s, e, kck, hs, he, hk, hmem⟩ := hready t ht hkeeps.kck.symm
  exact ⟨hkeeps.own hown, s, e, kck, h.peerCommitScalar.trans hs, hkeeps.peerCommitElement.trans he,
    hkeeps.kck.trans hk, hmem⟩

lemma Keeps.allReady (hready : AllReady d log) : AllReady d' log :=
  fun _ ht' => h.ready ht' fun t ht _ => hready t ht

lemma Keeps.keyReady (hready : KeyReady d log) : KeyReady d' log :=
  fun _ ht' hk => h.ready ht' fun t ht heq => hready t ht (heq ▸ hk)

lemma Keeps.ownPresent (hown : OwnPresent d) : OwnPresent d' := by
  intro t' ht'
  obtain ⟨t, ht, hkeeps⟩ := h.tmp t' ht'
  exact hkeeps.own (hown t ht)

end Keeps

lemma AllReady.own (h : AllReady d log) : OwnPresent d := fun t ht => (h t ht).1

lemma Exchange.Inv.of_ready (hready : AllReady x.sae x.log) (hlog : Logged x.log)
    (haccepted : x.sae.state = .accepted → WasAccepted x.log) : x.Inv env :=
  ⟨fun _ => hready.own, fun _ t ht _ => hready t ht, fun _ => hready, hlog, haccepted⟩

lemma Exchange.Inv.setRetransmitTimer (h : x.Inv env) : (setRetransmitTimer env x).Inv env := by
  rw [Sae.setRetransmitTimer]
  split
  · exact ⟨h.own, h.keyed, h.ready, h.logged, h.accepted⟩
  · exact h

lemma Exchange.Inv.of_keeps {y : Exchange El} (h : x.Inv env) (hkeeps : Keeps x.sae y.sae)
    (hstate : y.sae.state = x.sae.state) (hlog : y.log = x.log) : y.Inv env := by
  refine ⟨?_, ?_, ?_, hlog ▸ h.logged, ?_⟩
  · exact fun hc => hkeeps.ownPresent (h.own (hstate ▸ hc))
  · exact fun hmesh => hlog ▸ hkeeps.keyReady (h.keyed hmesh)
  · exact fun hc => hlog ▸ hkeeps.allReady (h.ready (hstate ▸ hc))
  · exact fun hc => hlog ▸ h.accepted (hstate ▸ hc)

/-- In the first two states a mesh point has nothing to keep but its own values. -/
lemma Exchange.Inv.of_early
    (hstate : x.sae.state = .nothing ∨ x.sae.state = .committed ∧ OwnPresent x.sae)
    (hkeyed : env.mesh = false → KeyReady x.sae x.log) (hlog : Logged x.log) : x.Inv env := by
  have hearly : ¬(x.sae.state = .confirmed ∨ x.sae.state = .accepted) := by
    rcases hstate with hn | ⟨hn, -⟩ <;> rw [hn] <;> decide
  refine ⟨?_, hkeyed, fun hc => absurd hc hearly, hlog, fun hc => absurd (.inr hc) hearly⟩
  intro hcommitted
  rcases hstate with hn | ⟨-, hown⟩
  · cases hn.symm.trans hcommitted
  · exact hown

lemma Exchange.Inv.of_quiet (hmesh : env.mesh)
    (hstate : x.sae.state = .nothing ∨ x.sae.state = .committed ∧ OwnPresent x.sae)
    (hlog : Logged x.log) : x.Inv env :=
  .of_early hstate (fun hm => nomatch hm.symm.trans hmesh) hlog

lemma Exchange.Inv.giveUp (h : x.Inv env) (timer : Bool) :
    Exchange.Inv env { x with timer := timer, sae := giveUp x.sae } :=
  .of_early (.inl rfl) (fun hmesh => Keeps.keyReady (.of_eq rfl rfl) (h.keyed hmesh)) h.logged

/-! ## Confirms -/

lemma Ready.confirmValues (h : Ready d t log) : ∃ v, confirmValues d t = some v := by
  obtain ⟨⟨g, so, eo, hg, hso, heo⟩, s, e, kck, hs, he, -, -⟩ := h
  exact ⟨⟨g, so, eo, s, e⟩, by simp [Sae.confirmValues, hg, hso, heo, hs, he]⟩

lemma computed_logged (hready : AllReady x.sae x.log) (hlog : Logged x.log) :
    Logged x.computed.log := by
  rw [Exchange.computed]
  split
  · rename_i hsome
    obtain ⟨t, ht⟩ := isSome_iff_exists.mp hsome
    obtain ⟨-, s, e, kck, -, -, hk, -⟩ := hready t ht
    refine hlog.cons nofun ?_
    rintro k hentry
    cases hentry
    simp [SaeData.kck, ht, hk]
  · exact hlog

lemma computed_cases (x : Exchange El) :
    x.computed = x ∨ ∃ k, x.computed = { x with log := .computed k :: x.log } := by
  rw [Exchange.computed]
  split
  · exact .inr ⟨_, rfl⟩
  · exact .inl rfl

lemma computed_induction {P : List (Entry El) → Prop} (h : P x.log)
    (hcons : ∀ k, P (.computed k :: x.log)) : P x.computed.log := by
  rcases computed_cases x with heq | ⟨k, heq⟩
  · rw [heq]
    exact h
  · rw [heq]
    exact hcons k

lemma computed_allReady (h : AllReady d x.log) : AllReady d x.computed.log :=
  computed_induction h fun _ => h.cons _

lemma computed_checkedFor {s : ℕ} {kck : Octets 32} (h : CheckedFor s e kck x.log) :
    CheckedFor s e kck x.computed.log :=
  computed_induction h fun _ => h.cons _

lemma computed_wasAccepted (h : WasAccepted x.log) : WasAccepted x.computed.log :=
  computed_induction h fun _ => h.cons _

lemma Exchange.Inv.of_computed {y : Exchange El} (hready : AllReady x.sae x.log)
    (hlog : Logged x.log) (htmp : y.sae.tmp = x.sae.tmp)
    (hpeer : y.sae.peerCommitScalar = x.sae.peerCommitScalar) (hcomputed : y.log = x.computed.log)
    (hstate : y.sae.state ≠ .accepted) : y.Inv env := by
  refine .of_ready ?_ (hcomputed ▸ computed_logged hready hlog) fun hc => absurd hc hstate
  rw [hcomputed]
  exact computed_allReady (Keeps.allReady (.of_eq htmp hpeer) hready)

lemma computed_sae (x : Exchange El) : x.computed.sae = x.sae := by
  rcases computed_cases x with heq | ⟨k, heq⟩ <;> rw [heq]

variable {β : Type} {P : β → Prop}

lemma authSaeSendConfirm_meets {f : Exchange El × Status → Except SaeFault β}
    (hready : AllReady x.sae x.log)
    (hf : ∀ n status, Meets OnlyCommit P
      (f ({ x.computed with sae := { x.sae with sendConfirm := n } }, status))) :
    Meets OnlyCommit P (authSaeSendConfirm env ans x >>= f) := by
  rw [authSaeSendConfirm, saeWriteConfirm]
  cases htmp : x.sae.tmp with
  | none => exact hf x.sae.sendConfirm _
  | some t =>
    obtain ⟨v, hv⟩ := (hready t htmp).confirmValues
    dsimp only
    rw [hv, ← htmp]
    exact hf (x.sae.sendConfirm + 1) _

/-! ## Commits that are sent -/

lemma sendWritten_meets (ans : Answers El) (d : SaeData El) :
    Meets OnlyCommit (fun r => r.1 = d ∧ OwnPresent d) (sendWritten ans d) := by
  rw [sendWritten, saeWriteCommit]
  cases htmp : d.tmp with
  | none => exact ⟨rfl, fun t ht => nomatch htmp.symm.trans ht⟩
  | some t =>
    dsimp only
    split
    · rename_i g s e hg hs he
      refine ⟨rfl, fun t' ht' => ?_⟩
      obtain rfl : t = t' := some.inj (htmp.symm.trans ht')
      exact ⟨g, s, e, hg, hs, he⟩
    · exact rfl

lemma authSaeSendCommit_again {f : SaeData El × Status → Except SaeFault β}
    (hf : ∀ status, (status = .success → OwnPresent d) → Meets OnlyCommit P (f (d, status))) :
    Meets OnlyCommit P (authSaeSendCommit env ans d false >>= f) := by
  rw [authSaeSendCommit]
  split
  · exact hf _ nofun
  · refine (sendWritten_meets ans d).bind ?_
    rintro ⟨_, status⟩ ⟨rfl, hown⟩
    exact hf status fun _ => hown

/-- The loop keeps the keys. -/
lemma deriveCommitLoop_keeps (order : ℕ) (draw : ℕ → Option Bytes) (n i : ℕ) (t : Tmp El) :
    t.Keeps (deriveCommitLoop order draw n i t).1 := by
  induction n generalizing i t with
  | zero => exact .refl t
  | succ n ih =>
    rw [deriveCommitLoop]
    split
    · exact ⟨rfl, rfl, id⟩
    split
    · exact ⟨rfl, rfl, id⟩
    have hscalar : ∀ rand scalar,
        t.Keeps { t with saeRand := some rand, ownCommitScalar := some scalar } :=
      fun _ scalar => ⟨rfl, rfl, fun ⟨g, _, e, hg, _, he⟩ => ⟨g, scalar, e, hg, rfl, he⟩⟩
    dsimp only
    split
    · exact (hscalar _ _).trans (ih _ _)
    · exact hscalar _ _

lemma saeDeriveCommitElement_keeps (g : Group El) (pwe : El) (mask : ℕ) (t : Tmp El) :
    t.Keeps (saeDeriveCommitElement g pwe mask t).1 := by
  have helement : ∀ e, t.Keeps { t with ownCommitElement := some e } :=
    fun e => ⟨rfl, rfl, fun ⟨g, s, _, hg, hs, _⟩ => ⟨g, s, e, hg, hs, rfl⟩⟩
  rw [saeDeriveCommitElement]
  split
  · exact helement _
  · split <;> exact helement _

/-- Preparing a commit keeps the keys. -/
lemma saePrepareCommit_meets (ans : Answers El) (d : SaeData El) :
    Meets OnlyCommit (fun r => r.1.state = d.state ∧ Keeps d r.1) (saePrepareCommit ans d) := by
  rw [saePrepareCommit]
  split
  · exact ⟨rfl, .of_eq rfl rfl⟩
  rename_i t htmp
  -- Whatever is made of the temporary data with the new password element keeps what they have.
  have hkeeps : ∀ t', Tmp.Keeps { t with pwe := ans.pwe.1 <|> t.pwe } t' →
      Keeps d { d with tmp := some t' } := by
    intro t' ht'
    refine ⟨rfl, fun t'' ht'' => ⟨t, htmp, ?_⟩⟩
    cases ht''
    exact ⟨ht'.kck, ht'.peerCommitElement, ht'.own⟩
  dsimp only
  split
  · exact ⟨rfl, hkeeps _ (.refl _)⟩
  rw [saeDeriveCommit]
  split
  · rename_i g pwe hg hpwe
    have hloop :=
      deriveCommitLoop_keeps g.order ans.draw 100 0 { t with pwe := ans.pwe.1 <|> t.pwe }
    split
    · rename_i t' heq
      rw [heq] at hloop
      exact ⟨rfl, hkeeps _ hloop⟩
    · rename_i t' mask heq
      rw [heq] at hloop
      exact ⟨rfl, hkeeps _ (hloop.trans (saeDeriveCommitElement_keeps g pwe mask t'))⟩
  · exact rfl

lemma authSaeSendCommit_new (env : Env El) (ans : Answers El) (d : SaeData El) :
    Meets OnlyCommit (fun r => (r.1.state = d.state ∧ Keeps d r.1) ∧
        (r.2 = .success → OwnPresent r.1))
      (authSaeSendCommit env ans d true) := by
  rw [authSaeSendCommit]
  split
  · exact ⟨⟨rfl, .of_eq rfl rfl⟩, nofun⟩
  refine (saePrepareCommit_meets ans d).bind fun r hr => ?_
  split
  · refine (sendWritten_meets ans r.1).imp fun r' hr' => ?_
    rw [hr'.1]
    exact ⟨hr, fun _ => hr'.2⟩
  · exact ⟨hr, nofun⟩

/-! ## Commits that are processed -/

/-- What `sae_process_commit` has had when it succeeds, and what it stores. -/
structure Processed (d d' : SaeData El) : Prop where
  state : d'.state = d.state
  tmp : ∃ t s e kck, d.tmp = some t ∧ d.peerCommitScalar = some s ∧ t.peerCommitElement = some e ∧
    d'.tmp = some { t with kck := some kck } ∧ d'.peerCommitScalar = some s

/-- Keys are derived for the values of the peer. -/
lemma saeProcessCommit_meets (h : Hashes) (d : SaeData El) :
    Meets OnlyCommit (fun r => ∀ d', r = some d' → Processed d d') (saeProcessCommit h d) := by
  rw [saeProcessCommit]
  have hfailed : Meets OnlyCommit (fun r => ∀ d', r = some d' → Processed d d') (.ok none) :=
    Meets.ok fun d' hd' => nomatch hd'
  cases htmp : d.tmp with
  | none => exact hfailed
  | some t =>
    dsimp only
    split
    · exact rfl
    · exact hfailed
    rename_i k hk
    simp only [deriveK, Option.bind_eq_bind, Option.bind_eq_some_iff, Option.pure_def,
      some.injEq] at hk
    obtain ⟨g, hg, pwe, hpwe, s, hs, e, he, rand, hrand, -⟩ := hk
    rw [deriveKeys]
    split
    · rename_i g own peer hg hown hpeer
      intro d' hd'
      simp only [saeDeriveKeys, Option.bind_eq_bind, Option.bind_eq_some_iff, Option.pure_def,
        some.injEq] at hd'
      obtain ⟨keys, -, rfl⟩ := hd'
      exact ⟨rfl, t, peer, e, _, htmp, hpeer, he, rfl, hpeer⟩
    · exact rfl

/-- Derived keys make the data ready. -/
lemma derived_ready (hown : OwnPresent x.sae) (h : Processed x.sae d) :
    AllReady d (x.derived d).log ∧ (x.derived d).sae = d ∧
      (Logged x.log → Logged (x.derived d).log) := by
  obtain ⟨-, t, s, e, kck, htmp, hs, he, htmp', hs'⟩ := h
  have hlog : x.derived d = { x with sae := d, log := .derived s e kck :: x.log } := by
    simp [Exchange.derived, SaeData.peerElement, SaeData.kck, hs', htmp', he]
  rw [hlog]
  refine ⟨?_, rfl, fun hlog => hlog.cons nofun nofun⟩
  intro t' ht'
  obtain rfl : { t with kck := some kck } = t' := some.inj (htmp'.symm.trans ht')
  obtain ⟨g, so, eo, hg, hso, heo⟩ := hown t htmp
  exact ⟨⟨g, so, eo, hg, hso, heo⟩, s, e, kck, hs', he, rfl, mem_cons_self ..⟩

/-- Up to the call of `sae_process_commit` the invariant is kept, also when the step ends before
it. -/
lemma beforeProcess_meets (hx : x.Inv env) (haccepted : x.sae.state ≠ .accepted) :
    Meets OnlyCommit (fun r => r.1.Inv env ∧
        (r.2 = none → OwnPresent r.1.sae ∧ r.1.sae.state ≠ .accepted))
      (beforeProcess env ans x) := by
  rw [beforeProcess]
  cases hstate : x.sae.state with
  | nothing =>
    refine (authSaeSendCommit_new env ans x.sae).bind fun r ⟨⟨hsame, hkeeps⟩, hown⟩ => ?_
    split
    · rename_i hsuccess
      refine ⟨.of_early (.inr ⟨rfl, hown hsuccess⟩) (fun hmesh => ?_) hx.logged,
        fun _ => ⟨hown hsuccess, nofun⟩⟩
      exact Keeps.keyReady (.of_eq rfl rfl) (hkeeps.keyReady (hx.keyed hmesh))
    · exact ⟨hx.of_keeps hkeeps hsame rfl, nofun⟩
  | committed =>
    exact ⟨hx.of_keeps (.of_eq rfl rfl) rfl rfl, fun _ => ⟨hx.own hstate, haccepted⟩⟩
  | confirmed =>
    dsimp only
    split
    · exact ⟨hx.giveUp false, nofun⟩
    refine (authSaeSendCommit_new env ans _).bind fun r ⟨⟨hsame, hkeeps⟩, hown⟩ => ?_
    have hkept : Exchange.Inv env { x with timer := false, sae := r.1 } :=
      hx.of_keeps ⟨hkeeps.peerCommitScalar, hkeeps.tmp⟩ hsame rfl
    split
    · rename_i hsuccess
      exact ⟨hkept, fun _ => ⟨hown hsuccess, fun hc => haccepted (hsame.symm.trans hc)⟩⟩
    · exact ⟨hkept, nofun⟩
  | accepted => exact absurd hstate haccepted

/-- What follows `sae_process_commit`. -/
lemma afterProcess_meets {start : SaeState} (hready : AllReady x.sae x.log)
    (hlog : Logged x.log) (haccepted : x.sae.state ≠ .accepted) :
    Meets OnlyCommit (fun r => r.1.Inv env) (afterProcess env ans start x) := by
  rw [afterProcess]
  split
  · exact .ok (.of_ready (Keeps.allReady (.of_eq rfl rfl) hready) hlog
      fun hc => absurd hc haccepted)
  refine authSaeSendConfirm_meets hready fun n status => ?_
  split
  · split
    · refine .ok (.setRetransmitTimer ?_)
      exact .of_computed hready hlog rfl rfl rfl haccepted
    · refine .ok (.setRetransmitTimer ?_)
      exact .of_computed hready hlog rfl rfl rfl nofun
  · exact .ok (.of_computed hready hlog rfl rfl rfl haccepted)

lemma processed_meets {start : SaeState} (hlog : Logged x.log) (hown : OwnPresent x.sae)
    (haccepted : x.sae.state ≠ .accepted) (h : Processed x.sae d) :
    Meets OnlyCommit (fun r => r.1.Inv env) (afterProcess env ans start (x.derived d)) := by
  obtain ⟨hready, hsae, hderived⟩ := derived_ready hown h
  refine afterProcess_meets ?_ (hderived hlog) ?_
  · rw [hsae]
    exact hready
  · rw [hsae, h.state]
    exact haccepted

lemma smStepCommit_meets (hx : x.Inv env) (haccepted : x.sae.state ≠ .accepted) :
    Meets OnlyCommit (fun r => r.1.Inv env) (smStepCommit env ans x) := by
  refine (beforeProcess_meets hx haccepted).bind ?_
  rintro ⟨y, stop⟩ ⟨hy, hgoes⟩
  cases stop with
  | some status => exact hy
  | none =>
    obtain ⟨hown, hstate⟩ := hgoes rfl
    refine (saeProcessCommit_meets env.hashes y.sae).bind fun processed hprocess => ?_
    cases processed with
    | none => exact hy
    | some d => exact processed_meets hy.logged hown hstate (hprocess d rfl)

end Hostapd.Sae

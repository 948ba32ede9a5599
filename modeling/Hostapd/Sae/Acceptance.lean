import Hostapd.Sae.Invariant
import Hostapd.Sae.KeyAgreement

/-!
# When a station is accepted

A commit replaces the stored scalar of the peer, and then its element, before everything in it has
been checked, and it may do so while the KCK is one for the values that were stored before. A frame
that is refused half way therefore leaves data behind under which the next confirm is checked all
the same, or calculated with a value that is missing.

`Orderly` says which frames may come in which state. While a station that looks at confirms has a
KCK, a commit for the group in use repeats the values that are stored, or has new ones from which
keys can be derived at once; a confirm does not come while there are temporary data without a KCK.
-/

namespace Hostapd.Sae

open Wire Machine

variable {El : Type}

/-! ## Commits that may come -/

/-- A commit behind its group number that has these values, each of which passes its check. -/
structure Carries (g : Group El) (rest token : Bytes) (s : ℕ) (e : El) : Prop where
  rest : rest = token ++ (toBe g.primeLen s ++ g.toBin e)
  scalar : 1 < s ∧ s < g.order
  element : g.parseElement (g.toBin e) = .stored (some e) true

/-- The commit has the values of the peer that are stored. -/
def Repeats (d : SaeData El) (t : Tmp El) (rest : Bytes) : Prop :=
  ∃ g token s e, t.group = some g ∧ Carries g rest token s e ∧ d.peerCommitScalar = some s ∧
    t.peerCommitElement = some e

/-- The commit has values other than the own ones and the token that is asked for, and the group
operations and the key derivation succeed on its values. -/
def Renews (env : Env El) (ans : Answers El) (t : Tmp El) (rest : Bytes) : Prop :=
  ∃ g token s e pwe rand, t.group = some g ∧ Carries g rest token s e ∧
    ¬(t.ownCommitScalar = some s ∧ t.ownCommitElement = some e) ∧
    (if token = [] then ans.antiClogging = false else ans.tokenOk = true) ∧
    t.pwe = some pwe ∧ t.saeRand = some rand ∧ (saeDeriveK g pwe s e rand).isSome ∧
    ∀ key label data, (env.hashes.sha256Prf key label data).isSome

/-- What is asked of a commit: when it is for the group in use and meets a KCK under which confirms
are looked at, it repeats the values of the peer or, in the committed state, leads to new keys. -/
def CommitExpected (env : Env El) (ans : Answers El) (d : SaeData El) (body : Bytes) : Prop :=
  Checks env d → ∀ lo hi rest t, body = lo :: hi :: rest → getLe16 lo hi = d.group →
    d.tmp = some t → t.kck.isSome →
      Repeats d t rest ∨ d.state = .committed ∧ Renews env ans t rest

/-- What is asked of a confirm that is long enough and looked at: there is a KCK. -/
def ConfirmExpected (env : Env El) (d : SaeData El) (body : Bytes) : Prop :=
  Checks env d → 2 + 32 ≤ body.length → d.tmp.isSome → d.kck.isSome

/-! ## Commits that are received -/

/-- The data of an exchange that begins anew. -/
def Cleared (d : SaeData El) : Prop := d.state = .nothing ∧ ∀ t, d.tmp = some t → t.kck = none

variable {d : SaeData El} {env : Env El} {ans : Answers El} {x : Exchange El} {t : Tmp El}

lemma Cleared.inv (h : Cleared d) (hlog : Logged x.log) : Exchange.Inv env { x with sae := d } :=
  .of_early (.inl h.1) (fun _ t ht hk => nomatch (h.2 t ht) ▸ hk) hlog

variable (lib : Groups El)

lemma saeSetGroup_cleared (d : SaeData El) (group : ℕ) : Cleared (saeSetGroup lib d group).1 := by
  rw [saeSetGroup]
  split
  · exact ⟨rfl, fun t ht => by cases ht; rfl⟩
  · split
    · exact ⟨rfl, nofun⟩
    · exact ⟨rfl, fun t ht => by cases ht; rfl⟩

/-- Another group clears the data. -/
lemma saeGroupAllowed_cases (allowed : Option (List ℕ)) (d : SaeData El) (group : ℕ) :
    (saeGroupAllowed lib allowed d group).1 = d ∧
        ((saeGroupAllowed lib allowed d group).2 = .success → group = d.group) ∨
      Cleared (saeGroupAllowed lib allowed d group).1 := by
  have hset := saeSetGroup_cleared lib d group
  rw [saeGroupAllowed]
  split
  · exact .inl ⟨rfl, fun hc => by cases hc⟩
  split
  · exact .inl ⟨rfl, fun hc => by cases hc⟩
  by_cases hgroup : group = d.group
  · rw [if_pos hgroup]
    left
    dsimp only
    repeat' split
    all_goals exact ⟨rfl, fun _ => hgroup⟩
  · rw [if_neg hgroup]
    right
    dsimp only
    repeat' split
    all_goals exact hset

/-- What a commit does to the state, the KCK and the own values: nothing. -/
lemma parseCommitValues_spec [DecidableEq El] (htmp : d.tmp = some t) (rest : Bytes) :
    (parseCommitValues d t rest).1.state = d.state ∧
      ∃ t', (parseCommitValues d t rest).1.tmp = some t' ∧ t'.kck = t.kck ∧
        (HasOwn t → HasOwn t') := by
  have helement : ∀ rest, (saeParseCommitElement t rest).1.kck = t.kck ∧
      (HasOwn t → HasOwn (saeParseCommitElement t rest).1) := by
    intro rest
    rw [saeParseCommitElement]
    split
    · exact ⟨rfl, id⟩
    · split <;> exact ⟨rfl, id⟩
  rw [parseCommitValues]
  dsimp only
  split
  · exact ⟨rfl, t, htmp, rfl, id⟩
  split
  · exact ⟨rfl, _, rfl, helement _⟩
  · split <;> exact ⟨rfl, _, rfl, helement _⟩

/-- The data with the values of a commit. -/
def withValues (d : SaeData El) (t : Tmp El) (s : ℕ) (e : El) : SaeData El :=
  { d with peerCommitScalar := some s, tmp := some { t with peerCommitElement := some e } }

/-- What a well-formed commit stores. -/
lemma parseCommitValues_carries [DecidableEq El] {g : Group El} {rest token : Bytes} {s : ℕ}
    {e : El} (hg : t.group = some g) (h : Carries g rest token s e) :
    parseCommitValues d t rest =
      if d.state = .accepted ∧ d.peerCommitScalar = some s then
        (d, .unspecifiedFailure, if token = [] then none else some token)
      else
        (withValues d t s e,
          if reflected { t with peerCommitElement := some e } s then .silentlyDiscard else .success,
          if token = [] then none else some token) := by
  have hlen : t.primeLen = g.primeLen := by rw [Tmp.primeLen, hg]; rfl
  have horder : t.order = g.order := by rw [Tmp.order, hg]; rfl
  have hvalid : ¬(s = 0 ∨ s = 1 ∨ t.order ≤ s) := by
    have := h.scalar
    omega
  have hscalar : saeParseCommitScalar d t (toBe g.primeLen s ++ g.toBin e) =
      if d.state = .accepted ∧ d.peerCommitScalar = some s then none else some s := by
    have hlong : ¬(toBe g.primeLen s ++ g.toBin e).length < g.primeLen := by
      rw [List.length_append, length_toBe]
      omega
    rw [saeParseCommitScalar, hlen, if_neg hlong, List.take_left' (length_toBe _ _),
      beNat_toBe_of_lt (h.scalar.2.trans_le g.order_le)]
    dsimp only
    rw [if_neg hvalid]
  have helement : saeParseCommitElement t (g.toBin e) =
      ({ t with peerCommitElement := some e }, true) := by
    rw [saeParseCommitElement, hg]
    dsimp only
    rw [h.element]
  rw [parseCommitValues, h.rest, saeParseCommitToken_append (length_values hg s e)]
  dsimp only
  rw [hscalar]
  by_cases hreused : d.state = .accepted ∧ d.peerCommitScalar = some s
  · rw [if_pos hreused, if_pos hreused]
  · rw [if_neg hreused, if_neg hreused]
    dsimp only
    rw [hlen, List.drop_left' (length_toBe _ _), helement]
    dsimp only
    rw [if_neg (by decide)]
    split <;> rfl

/-- A commit is read: it leaves data in which the invariant holds, or new values in the committed
state with a token that is right. -/
lemma saeParseCommit_expected [DecidableEq El] (hx : x.Inv env) {body : Bytes}
    (h : CommitExpected env ans x.sae body) :
    (Exchange.Inv env { x with sae := (saeParseCommit env.lib env.saeGroups x.sae body).1 } ∧
      ((saeParseCommit env.lib env.saeGroups x.sae body).2.1 = .success →
        (saeParseCommit env.lib env.saeGroups x.sae body).1.state ≠ .accepted)) ∨
    ∃ t rest, x.sae.tmp = some t ∧ x.sae.state = .committed ∧ Renews env ans t rest ∧
      saeParseCommit env.lib env.saeGroups x.sae body = parseCommitValues x.sae t rest := by
  rw [saeParseCommit.eq_def]
  split
  rotate_left
  · exact .inl ⟨hx, fun hc => by cases hc⟩
  rename_i lo hi rest
  have hgroup := saeGroupAllowed_cases env.lib env.saeGroups x.sae (getLe16 lo hi)
  generalize saeGroupAllowed env.lib env.saeGroups x.sae (getLe16 lo hi) = r at hgroup
  obtain ⟨d, status⟩ := r
  have hkept : Exchange.Inv env { x with sae := d } := by
    rcases hgroup with ⟨rfl, -⟩ | hcleared
    · exact hx
    · exact hcleared.inv hx.logged
  split
  rotate_left
  · rename_i hother hpair
    cases hpair
    refine .inl ⟨hkept, fun hc => ?_⟩
    obtain rfl : status = .success := hc
    exact (hother rfl).elim
  rename_i hpair
  cases hpair
  cases htmp : d.tmp with
  | none => exact .inl ⟨hkept, fun hc => by cases hc⟩
  | some t =>
    dsimp only
    obtain ⟨hstate, t', ht', hkck, hown⟩ := parseCommitValues_spec htmp rest
    rcases hgroup with ⟨rfl, hsame⟩ | hcleared
    rotate_left
    · -- Another group: the values are those of a new exchange.
      have hcleared' : Cleared (parseCommitValues d t rest).1 := by
        refine ⟨hstate.trans hcleared.1, fun t'' ht'' => ?_⟩
        cases ht'.symm.trans ht''
        exact hkck.trans (hcleared.2 t htmp)
      exact .inl ⟨hcleared'.inv hx.logged, fun _ hc => by cases hcleared'.1.symm.trans hc⟩
    by_cases hkey : Checks env x.sae ∧ t.kck.isSome
    · -- A KCK that may be used: the values are the same, or new ones that lead to keys.
      rcases h hkey.1 lo hi rest t rfl (hsame rfl) htmp hkey.2 with hrepeats | hrenews
      · obtain ⟨g, token, s, e, hg, hcarries, hs, he⟩ := hrepeats
        have hsameValues : withValues x.sae t s e = x.sae := by
          rw [withValues, ← hs, ← he, ← htmp]
        left
        rw [parseCommitValues_carries hg hcarries, hsameValues]
        split
        · exact ⟨hx, fun hc => by cases hc⟩
        · rename_i hnot
          exact ⟨hx, fun _ hc => hnot ⟨hc, hs⟩⟩
      · exact .inr ⟨t, rest, htmp, hrenews.1, hrenews.2, rfl⟩
    · -- No KCK that could be used: the station is in one of the first two states.
      have hearly : x.sae.state = .nothing ∨ x.sae.state = .committed := by
        by_contra hlate
        have hlate : x.sae.state = .confirmed ∨ x.sae.state = .accepted := by
          cases hc : x.sae.state <;> simp [hc] at hlate ⊢
        obtain ⟨-, s, e, kck, -, -, hk, -⟩ := hx.ready hlate t htmp
        exact hkey ⟨.inr hlate, by rw [hk]; rfl⟩
      left
      refine ⟨.of_early ?_ (fun hmesh t'' ht'' hk => ?_) hx.logged, fun _ => ?_⟩
      · refine hearly.imp hstate.trans fun hc => ⟨hstate.trans hc, fun t'' ht'' => ?_⟩
        cases ht'.symm.trans ht''
        exact hown (hx.own hc t htmp)
      · cases ht'.symm.trans ht''
        exact absurd ⟨.inl hmesh, hkck ▸ hk⟩ hkey
      · rw [hstate]
        rcases hearly with hc | hc <;> rw [hc] <;> decide

/-- A commit is sent again with a token. -/
lemma tokenRequested_meets (hmesh : env.mesh) (hx : x.Inv env) (body : Bytes) :
    Meets OnlyCommit (fun r => r.1.Inv env) (tokenRequested env ans x body) := by
  rw [tokenRequested.eq_def]
  split
  · rename_i lo hi token
    have hgroup := saeGroupAllowed_cases env.lib env.saeGroups x.sae (getLe16 lo hi)
    generalize saeGroupAllowed env.lib env.saeGroups x.sae (getLe16 lo hi) = r at hgroup
    have hkept : Exchange.Inv env { x with sae := r.1 } := by
      rcases hgroup with ⟨heq, -⟩ | hcleared
      · rw [heq]
        exact hx
      · exact hcleared.inv hx.logged
    -- Another token does not matter for anything that the exchange relies on.
    have htoken : Exchange.Inv env { x with sae := { r.1 with
        tmp := r.1.tmp.map fun t => { t with antiCloggingToken := some token } } } := by
      refine hkept.of_keeps ⟨rfl, fun t' ht' => ?_⟩ rfl rfl
      obtain ⟨t, ht, rfl⟩ := Option.map_eq_some_iff.mp ht'
      exact ⟨t, ht, rfl, rfl, id⟩
    dsimp only
    split
    · refine authSaeSendCommit_again fun status hown => ?_
      split
      · rename_i hsuccess
        refine .ok (.setRetransmitTimer ?_)
        exact .of_quiet hmesh (.inr ⟨rfl, hown hsuccess⟩) hx.logged
      · exact .ok htoken
    · exact .ok hkept
  · exact .ok hx

lemma meshRsnSaeGroup_cases (d : SaeData El) (groups : List ℕ) :
    meshRsnSaeGroup lib d groups = (d, false) ∨ Cleared (meshRsnSaeGroup lib d groups).1 := by
  induction groups generalizing d with
  | nil => exact .inl rfl
  | cons group groups ih =>
    have hset := saeSetGroup_cleared lib d group
    right
    rw [meshRsnSaeGroup]
    split
    · exact hset
    rcases ih (saeSetGroup lib d group).1 with heq | hn
    · rw [heq]
      exact hset
    · exact hn

lemma pickGroup_eq (d : SaeData El) (groups : List ℕ) :
    pickGroup lib d groups = (meshRsnSaeGroup lib d groups).1 := by
  induction groups generalizing d with
  | nil => rfl
  | cons group groups ih =>
    rw [pickGroup, meshRsnSaeGroup]
    split
    · rfl
    · exact ih _

lemma saePickNextGroup_cases (env : Env El) (d : SaeData El) :
    saePickNextGroup env d = d ∨ Cleared (saePickNextGroup env d) := by
  rw [saePickNextGroup]
  split
  · split
    · exact .inl rfl
    · rw [pickGroup_eq]
      exact (meshRsnSaeGroup_cases _ _ _).imp_left (congrArg Prod.fst)
  · exact .inl rfl

/-- A commit with new values that is read in the committed state goes on to `sae_process_commit`,
which succeeds. -/
lemma smStepCommit_renews (hx : x.Inv env) (htmp : x.sae.tmp = some t)
    (hstate : x.sae.state = .committed) {g : Group El} {s rand : ℕ} {e pwe : El}
    (hg : t.group = some g) (hpwe : t.pwe = some pwe) (hrand : t.saeRand = some rand)
    (hk : (saeDeriveK g pwe s e rand).isSome)
    (hprf : ∀ key label data, (env.hashes.sha256Prf key label data).isSome) :
    Meets OnlyCommit (fun r => r.1.Inv env)
      (smStepCommit env ans { x with sae := withValues x.sae t s e }) := by
  have hown := hx.own hstate t htmp
  obtain ⟨k, hk⟩ := Option.isSome_iff_exists.mp hk
  have hsucceeds : ∃ d, saeProcessCommit env.hashes (withValues x.sae t s e) = .ok (some d) := by
    obtain ⟨g', own, e', hg', hscalar, -⟩ := hown
    cases hg.symm.trans hg'
    obtain ⟨keys, hkeys⟩ := Option.isSome_iff_exists.mp (hprf
      (env.hashes.hmacSha256 (List.replicate 32 0) k).val "SAE KCK and PMK"
      (toBe g.primeLen ((own + s) % g.order)))
    have hprocess : saeProcessCommit env.hashes (withValues x.sae t s e) =
        .ok (saeDeriveKeys env.hashes g (withValues x.sae t s e)
          { t with peerCommitElement := some e } own s k) := by
      simp [saeProcessCommit, withValues, deriveK, deriveKeys, hg, hpwe, hrand, hscalar, hk]
    rw [hprocess, saeDeriveKeys, hkeys]
    exact ⟨_, rfl⟩
  obtain ⟨d, hd⟩ := hsucceeds
  have hbefore : beforeProcess env ans { x with sae := withValues x.sae t s e } =
      .ok ({ x with timer := false, sae := withValues x.sae t s e }, none) := by
    rw [beforeProcess, withValues]
    dsimp only
    rw [hstate]
  rw [smStepCommit, hbefore]
  show Meets _ _ (saeProcessCommit env.hashes (withValues x.sae t s e) >>= _)
  rw [hd]
  refine processed_meets hx.logged ?_ ?_ ((saeProcessCommit_meets _ _).of_ok hd d rfl)
  · intro t' ht'
    cases ht'
    exact hown
  · rw [withValues, hstate]
    decide

/-- An expected commit keeps the invariant. -/
lemma handleCommit_meets [DecidableEq El] (hx : x.Inv env) {status : Status} {body : Bytes}
    (h : status = .success → CommitExpected env ans x.sae body) :
    Meets OnlyCommit (fun r => r.1.Inv env) (handleCommit env ans x status body) := by
  rw [handleCommit]
  split
  · rename_i htoken
    simp only [Bool.and_eq_true] at htoken
    exact tokenRequested_meets htoken.1.1 hx body
  split
  · rcases saePickNextGroup_cases env x.sae with heq | hcleared
    · rw [heq]
      exact .ok hx
    · exact .ok (hcleared.inv hx.logged)
  split
  · exact .ok hx
  rename_i hstatus
  rw [commitReceived]
  rcases saeParseCommit_expected hx (h (not_not.mp hstatus)) with ⟨hinv, hstate⟩ | hrenews
  · generalize saeParseCommit env.lib env.saeGroups x.sae body = parsed at hinv hstate
    dsimp only
    split_ifs with hdiscard htoken hfailed hclog hmesh
    · exact .ok hinv
    · exact .ok hinv
    · exact .ok hinv
    · exact .ok (.of_quiet hmesh (.inl rfl) hx.logged)
    · exact .ok hinv
    · exact (smStepCommit_meets hinv (hstate (not_not.mp hfailed))).bind fun _ hr => .ok hr
  · obtain ⟨t, rest, htmp, hcommitted, hrenews, hparse⟩ := hrenews
    obtain ⟨g, token, s, e, pwe, rand, hg, hcarries, hother, htoken, hpwe, hrand, hk, hprf⟩ :=
      hrenews
    have hnot : ¬(x.sae.state = .accepted ∧ x.sae.peerCommitScalar = some s) := by
      rw [hcommitted]
      exact fun hc => nomatch hc.1
    have hreflected : reflected { t with peerCommitElement := some e } s = false := by
      have hother : t.ownCommitScalar = some s → ¬t.ownCommitElement = some e :=
        fun hs he => hother ⟨hs, he⟩
      simp only [reflected, Bool.and_eq_false_iff, decide_eq_false_iff_not]
      by_cases hs : t.ownCommitScalar = some s
      · exact .inr (hother hs)
      · exact .inl (.inl hs)
    rw [hparse, parseCommitValues_carries hg hcarries, if_neg hnot, hreflected]
    have hstep :=
      @smStepCommit_renews _ env ans x t hx htmp hcommitted _ _ _ _ _ hg hpwe hrand hk hprf
    by_cases hnil : token = []
    · rw [if_pos hnil] at htoken
      simp only [hnil, htoken]
      exact hstep.bind fun _ hr => .ok hr
    · rw [if_neg hnil] at htoken
      simp only [hnil, htoken]
      exact hstep.bind fun _ hr => .ok hr

/-! ## Confirms that are received -/

lemma saeCheckConfirm_meets (h : Hashes) {log : List (Entry El)} (hready : AllReady d log)
    (data : Bytes) :
    Meets OnlyCommit (fun verified => verified = true → ∃ t, d.tmp = some t)
      (saeCheckConfirm h d data) := by
  rw [saeCheckConfirm]
  split
  · exact .ok (by simp)
  cases htmp : d.tmp with
  | none => exact .ok (by simp)
  | some t =>
    obtain ⟨v, hv⟩ := (hready t htmp).confirmValues
    dsimp only
    rw [hv]
    exact .ok fun _ => ⟨t, rfl⟩

/-- The last confirm was checked under a KCK that had been derived for the values that are
stored. -/
def Verified (x : Exchange El) : Prop :=
  ∃ s e kck, x.sae.peerCommitScalar = some s ∧ x.sae.peerElement = some e ∧
    x.sae.kck = some kck ∧ CheckedFor s e kck x.log

lemma checked_verified (hready : AllReady x.sae x.log) (ht : x.sae.tmp = some t) :
    Verified x.checked := by
  obtain ⟨-, s, e, kck, hs, he, hk, hmem⟩ := hready t ht
  have he' : x.sae.peerElement = some e := by simp [SaeData.peerElement, ht, he]
  have hk' : x.sae.kck = some kck := by simp [SaeData.kck, ht, hk]
  exact ⟨s, e, kck, hs, he', hk', [], x.log, by simp [Exchange.checked, hs, he', hk'], hmem⟩

lemma Verified.computed (h : Verified x) (d : SaeData El) (htmp : d.tmp = x.sae.tmp)
    (hpeer : d.peerCommitScalar = x.sae.peerCommitScalar) :
    Verified { x.computed with sae := d } := by
  obtain ⟨s, e, kck, hs, he, hk, hchecked⟩ := h
  refine ⟨s, e, kck, hpeer.trans hs, ?_, ?_, computed_checkedFor hchecked⟩
  · rw [← he, SaeData.peerElement, SaeData.peerElement, htmp]
  · rw [← hk, SaeData.kck, SaeData.kck, htmp]

lemma saeAcceptSta_inv (hready : AllReady x.sae x.log) (hlog : Logged x.log)
    (hverified : Verified x) : (saeAcceptSta x).Inv env := by
  obtain ⟨s, e, kck, hs, he, hk, hchecked⟩ := hverified
  refine .of_ready (Keeps.allReady (.of_eq rfl rfl) (hready.cons _)) (hlog.cons ?_ nofun)
    fun _ => ⟨_, _, _, List.mem_cons_self ..⟩
  rintro ps pe k hentry
  cases hentry
  exact ⟨s, e, kck, hs, he, hk, hchecked⟩

/-- A confirm that was verified, or is not looked at. -/
lemma smStepConfirm_meets (hx : x.Inv env)
    (hverified : Checks env x.sae → AllReady x.sae x.log ∧ Verified x) :
    Meets OnlyCommit (fun r => r.1.Inv env) (smStepConfirm env ans x) := by
  rw [smStepConfirm]
  cases hstate : x.sae.state with
  | nothing => exact .ok hx
  | committed =>
    have hown := hx.own hstate
    dsimp only
    split
    · rename_i hmesh
      split
      · exact .ok (.of_quiet hmesh (.inl rfl) hx.logged)
      refine authSaeSendCommit_again fun status _ => ?_
      have hquiet : Exchange.Inv env { x with
          timer := false, sae := { x.sae with sync := x.sae.sync + 1 } } :=
        .of_quiet hmesh (.inr ⟨hstate, hown⟩) hx.logged
      split
      · exact .ok hquiet.setRetransmitTimer
      · exact .ok hquiet
    · rename_i hmesh
      have hchecks : Checks env x.sae := .inl (Bool.not_eq_true _ ▸ hmesh)
      obtain ⟨hready, hver⟩ := hverified hchecks
      have hver : Verified { x with timer := false } := hver
      refine authSaeSendConfirm_meets (x := { x with timer := false }) hready fun n status => ?_
      have hcount : AllReady { x.sae with sendConfirm := n } x.log :=
        Keeps.allReady (.of_eq rfl rfl) hready
      split
      · exact .ok (saeAcceptSta_inv (computed_allReady (x := { x with timer := false }) hcount)
          (computed_logged (x := { x with timer := false }) hready hx.logged)
          (hver.computed _ rfl rfl))
      · exact .ok (.of_computed (x := { x with timer := false }) hready hx.logged rfl rfl rfl
          fun hc => nomatch hstate.symm.trans hc)
  | confirmed =>
    obtain ⟨hready, hver⟩ := hverified (.inr (.inl hstate))
    exact .ok (saeAcceptSta_inv hready hx.logged hver)
  | accepted =>
    have hready : AllReady { x.sae with sync := x.sae.sync + 1 } x.log :=
      Keeps.allReady (.of_eq rfl rfl) (hx.ready (.inr hstate))
    dsimp only
    split
    · exact .ok (hx.giveUp x.timer)
    refine authSaeSendConfirm_meets (x := { x with sae := _ }) hready fun n status => ?_
    refine .ok (.of_ready nofun ?_ fun _ => ?_)
    · exact computed_logged (x := { x with sae := _ }) hready hx.logged
    · exact computed_wasAccepted (x := { x with sae := _ }) (hx.accepted hstate)

lemma ConfirmExpected.allReady {body : Bytes} (h : ConfirmExpected env x.sae body)
    (hx : x.Inv env) (hchecks : Checks env x.sae) (hlong : 2 + 32 ≤ body.length) :
    AllReady x.sae x.log := by
  intro t ht
  have hkey := h hchecks hlong (ht ▸ rfl)
  rw [SaeData.kck, ht] at hkey
  rcases hchecks with hmesh | hlate
  · exact hx.keyed hmesh t ht hkey
  · exact hx.ready hlate t ht

/-- An expected confirm keeps the invariant. -/
lemma handleConfirm_meets (hx : x.Inv env) {status : Status} {body : Bytes}
    (h : status = .success → ConfirmExpected env x.sae body) :
    Meets OnlyCommit (fun r => r.1.Inv env) (handleConfirm env ans x status body) := by
  rw [handleConfirm]
  split
  · exact .ok hx
  rename_i hstatus
  split
  · rename_i hstate
    have hchecks : Checks env x.sae := by
      rcases hstate with h | h | h
      · exact .inr (.inl h)
      · exact .inr (.inr h)
      · exact .inl h
    by_cases hshort : body.length < 2 + 32
    · rw [saeCheckConfirm, if_pos hshort, if_pos hshort]
      exact .ok hx
    have hready := (h (not_not.mp hstatus)).allReady hx hchecks (not_lt.mp hshort)
    refine (saeCheckConfirm_meets env.hashes hready body).bind fun verified hverified => ?_
    have hcomputed : AllReady x.computed.sae x.computed.log := by
      rw [computed_sae]
      exact computed_allReady hready
    have hlog := computed_logged hready hx.logged
    have haccepted : x.computed.sae.state = .accepted → WasAccepted x.computed.log := by
      rw [computed_sae]
      exact fun hc => computed_wasAccepted (hx.accepted hc)
    rw [if_neg hshort]
    split
    · rename_i hv
      obtain ⟨t, ht⟩ := hverified hv
      rw [← computed_sae] at ht
      have hchecked : AllReady x.computed.checked.sae x.computed.checked.log := hcomputed.cons _
      have hlogged : Logged x.computed.checked.log :=
        hlog.cons (fun _ _ _ hc => by cases hc) fun _ hc => by cases hc
      refine smStepConfirm_meets (.of_ready hchecked hlogged fun hc => (haccepted hc).cons _)
        fun _ => ⟨hchecked, checked_verified hcomputed ht⟩
    · exact .ok (.of_ready hcomputed hlog haccepted)
  · rename_i hstate
    refine smStepConfirm_meets hx fun hchecks => absurd ?_ hstate
    rcases hchecks with h | h | h
    · exact .inr (.inr h)
    · exact .inl h
    · exact .inr (.inl h)

/-! ## Timer and start -/

/-- The retransmission timer keeps the invariant. -/
lemma authSaeRetransmitTimer_meets (hx : x.Inv env) :
    Meets OnlyCommit (Exchange.Inv env) (authSaeRetransmitTimer env ans x) := by
  rw [authSaeRetransmitTimer]
  split
  · exact .ok (hx.giveUp false)
  dsimp only
  have hsame : ∀ timer, Exchange.Inv env { x with
      timer := timer, sae := { x.sae with sync := x.sae.sync + 1 } } :=
    fun timer => hx.of_keeps (.of_eq rfl rfl) rfl rfl
  split
  · exact authSaeSendCommit_again fun _ _ => .ok (hsame true)
  · rename_i hstate
    have hconfirmed := (hsame false).ready (.inl hstate)
    refine authSaeSendConfirm_meets (x := { x with timer := false, sae := _ }) hconfirmed
      fun n status => ?_
    exact .ok (.of_computed (x := { x with timer := false, sae := _ }) hconfirmed hx.logged
      rfl rfl rfl fun hc => nomatch hstate.symm.trans hc)
  · exact .ok (hsame false)

/-- A mesh point starts an exchange. -/
lemma meshRsnAuthSaeSta_meets (hmesh : env.mesh) (hx : x.Inv env) (groups : List ℕ) :
    Meets OnlyCommit (Exchange.Inv env) (meshRsnAuthSaeSta env ans x groups) := by
  have hquiet : ∀ d : SaeData El, d.state = .nothing → Exchange.Inv env { x with sae := d } :=
    fun d hd => .of_quiet hmesh (.inl hd) hx.logged
  rw [meshRsnAuthSaeSta]
  split
  · exact .ok hx
  rcases meshRsnSaeGroup_cases env.lib x.sae groups with heq | ⟨hnothing, -⟩
  · rw [heq]
    exact .ok hx
  dsimp only
  generalize meshRsnSaeGroup env.lib x.sae groups = r at hnothing
  split
  · exact .ok (hquiet _ hnothing)
  refine (saePrepareCommit_meets ans r.1).bind fun prepared ⟨hprepared, _⟩ => ?_
  split
  · rw [authSaeInitCommitted]
    split
    · exact .ok (hquiet _ (hprepared.trans hnothing))
    refine authSaeSendCommit_again fun status hown => ?_
    split
    · rename_i hsuccess
      refine .ok (.setRetransmitTimer ?_)
      exact .of_quiet hmesh (.inr ⟨rfl, hown hsuccess⟩) (hquiet _ (hprepared.trans hnothing)).logged
    · exact .ok (hquiet _ (hprepared.trans hnothing))
  · exact .ok (hquiet _ (hprepared.trans hnothing))

/-! ## Runs -/

/-- The commits and confirms that a station receives are expected ones. -/
def Orderly (env : Env El) (sta : Sta El) : Event El → Prop
  | .frame transaction status body ans =>
    status = .success →
      (transaction = 1 → CommitExpected env ans sta.exchange.sae body) ∧
      (transaction = 2 → ConfirmExpected env sta.exchange.sae body)
  | _ => True

/-- An expected event keeps the invariant. -/
lemma step_meets [DecidableEq El] (env : Env El) (sta : Sta El) (event : Event El)
    (hinv : sta.exchange.Inv env) (horderly : Orderly env sta event) :
    Meets OnlyCommit (fun sta' => sta'.exchange.Inv env) (step env sta event) := by
  have hremove : ∀ (sta' : Sta El) (resp status : Status), sta'.exchange.Inv env →
      (removeSta sta' resp status).exchange.Inv env := by
    intro sta' resp status h
    rw [removeSta]
    split <;> exact h
  cases event with
  | frame transaction status body ans =>
    rw [step, handleAuthSae]
    split
    · exact .ok (hremove _ _ _ hinv)
    split
    · rename_i hone
      refine (handleCommit_meets hinv fun hs => (horderly hs).1 hone).bind fun r hr => ?_
      cases hresp : r.2 with
      | none => exact .ok hr
      | some resp => exact .ok (hremove _ resp status hr)
    · split
      · rename_i htwo
        refine (handleConfirm_meets hinv fun hs => (horderly hs).2 htwo).bind fun r hr => ?_
        exact .ok (hremove _ _ _ hr)
      · exact .ok (hremove _ _ _ hinv)
  | timer ans =>
    rw [step]
    split
    · exact (authSaeRetransmitTimer_meets hinv).bind fun x hx => .ok hx
    · exact .ok hinv
  | start groups ans =>
    rw [step]
    split
    · rename_i hmesh
      exact (meshRsnAuthSaeSta_meets hmesh hinv groups).bind fun x hx => .ok hx
    · exact .ok hinv

lemma inv_new (env : Env El) : Exchange.Inv env ({} : Exchange El) := by
  refine .of_ready nofun ⟨?_, nofun⟩ nofun
  intro later earlier ps pe k hsplit
  simp at hsplit

lemma run_orderly_meets [DecidableEq El] (env : Env El) (addedUnassoc : Bool)
    {events : List (Event El)}
    (h : Along (step env) (Orderly env) { addedUnassoc := addedUnassoc } events) :
    Meets OnlyCommit (fun sta => sta.exchange.Inv env)
      (run (step env) { addedUnassoc := addedUnassoc } events) :=
  run_meets (step_meets env) (inv_new env) h

/-- Acceptance is earned in every run of a station that receives expected frames only. -/
theorem acceptance_earned [DecidableEq El] (env : Env El) (addedUnassoc : Bool)
    (events : List (Event El)) (sta : Sta El)
    (h : Along (step env) (Orderly env) { addedUnassoc := addedUnassoc } events)
    (hrun : run (step env) { addedUnassoc := addedUnassoc } events = .ok sta) :
    Earned sta.exchange.log ∧
      (sta.exchange.sae.state = .accepted → WasAccepted sta.exchange.log) := by
  have hinv := (run_orderly_meets env addedUnassoc h).of_ok hrun
  exact ⟨hinv.logged.earned, hinv.accepted⟩

/-! ## Small exchanges -/

/-- An access point with one group. -/
def sampleEnv : Env ℕ where
  lib group := if group = 22 then some sampleField.toGroup else none
  hashes := sampleHashes
  mesh := false
  saeGroups := some [22]
  passphrase := true

def sampleAnswers : Answers ℕ where
  pwe := (some 2, true)
  draw := sampleDraw 5 3
  antiClogging := false
  tokenOk := true
  commitSent := true
  confirmSent := true

def sampleCommit (scalar : ℕ) (element : Bytes) : Event ℕ :=
  .frame 1 .success (le16 22 ++ (toBe 16 scalar ++ element)) sampleAnswers

/-- The KCK that the access point derives for the scalar 7 and the element 13. -/
def sampleKck : Octets 32 := .ofList 32 (toBe 16 16)

def sampleConfirm (scalar : ℕ) : Event ℕ :=
  .frame 2 .success ([1, 0] ++ (saeCnConfirm sampleHashes sampleField.toGroup (some sampleKck)
    [1, 0] scalar 13 8 3).val) sampleAnswers

/-- A commit while the other stations make a token necessary. -/
def sampleClogged (token : Bytes) : Event ℕ :=
  .frame 1 .success (le16 22 ++ (token ++ (toBe 16 7 ++ toBe 16 13)))
    { sampleAnswers with antiClogging := true }

/-- The first commit is answered by a request for a token. -/
def sampleRun : List (Event ℕ) := [sampleClogged [], sampleClogged [1, 2, 3], sampleConfirm 7]

/-- The sample run has expected frames only. -/
lemma sampleRun_orderly : Along (step sampleEnv) (Orderly sampleEnv) {} sampleRun := by
  have hcommit : ∀ (sta : Sta ℕ) token, sta.exchange.sae.kck = none →
      Orderly sampleEnv sta (sampleClogged token) := by
    intro sta token hkck _
    refine ⟨fun _ _ lo hi rest t _ _ ht hk => ?_, fun hc => absurd hc (by decide)⟩
    rw [SaeData.kck, ht] at hkck
    rw [show t.kck = none from hkck] at hk
    cases hk
  obtain ⟨sta₁, sta₂, h₁, h₂, hnone, hsome⟩ :
      ∃ sta₁ sta₂, step sampleEnv {} (sampleClogged []) = .ok sta₁ ∧
        step sampleEnv sta₁ (sampleClogged [1, 2, 3]) = .ok sta₂ ∧
        sta₁.exchange.sae.kck = none ∧ sta₂.exchange.sae.kck.isSome := by
    decide +kernel
  refine (along_cons h₁).mpr ⟨hcommit _ _ rfl, (along_cons h₂).mpr ⟨hcommit _ _ hnone, ?_⟩⟩
  refine ⟨fun _ => ⟨fun hc => absurd hc (by decide), fun _ _ _ _ => hsome⟩, ?_⟩
  split <;> trivial

/-- The sample run leads to acceptance. -/
theorem acceptance_earned_of_sampleRun :
    ∃ sta, run (step sampleEnv) {} sampleRun = .ok sta ∧ sta.exchange.sae.state = .accepted ∧
      Earned sta.exchange.log := by
  refine exists_ok (by decide +kernel) fun sta hrun _ => ?_
  exact (acceptance_earned sampleEnv false sampleRun sta sampleRun_orderly hrun).1

/-- A second commit whose element is missing is refused and leaves its scalar behind; a confirm over
this scalar under the KCK of the first commit makes the station accepted. -/
theorem refused_commit_still_accepted :
    ∃ sta, run (step sampleEnv) {}
        [sampleCommit 7 (toBe 16 13), sampleCommit 9 [], sampleConfirm 9] = .ok sta ∧
      sta.exchange.sae.state = .accepted ∧ ¬ Earned sta.exchange.log := by
  refine returns_of (fun sta => sta.exchange.sae.state = .accepted ∧
    .accepted (some 9) (some 13) (some sampleKck) ∈ sta.exchange.log ∧
    .derived 9 13 sampleKck ∉ sta.exchange.log) (by decide +kernel)
    fun sta _ ⟨hstate, hmem, hnot⟩ => ⟨hstate, fun hearned => hnot ?_⟩
  obtain ⟨later, earlier, hlog⟩ := List.append_of_mem hmem
  obtain ⟨s, e, kck, hs, he, hk, before, after, hearlier, hderived⟩ :=
    hearned later earlier _ _ _ hlog
  cases hs
  cases he
  cases hk
  rw [hlog, hearlier]
  simp [hderived]

/-- In every run of a station that receives expected frames only, confirms are calculated with all
of their values and under a derived KCK, and the station is not used after it was freed. -/
theorem confirms_complete [DecidableEq El] (env : Env El) (addedUnassoc : Bool)
    (events : List (Event El))
    (h : Along (step env) (Orderly env) { addedUnassoc := addedUnassoc } events) :
    (∀ f, run (step env) { addedUnassoc := addedUnassoc } events = .error f →
      f ≠ .confirmFromNull ∧ f ≠ .useAfterFree) ∧
    (∀ sta, run (step env) { addedUnassoc := addedUnassoc } events = .ok sta →
      Keyed sta.exchange.log) := by
  have hmeets := run_orderly_meets env addedUnassoc h
  refine ⟨fun f hf => ?_, fun sta hrun => (hmeets.of_ok hrun).logged.keyed⟩
  have hcommit : f = .commitFromNull := hmeets.of_error hf
  rw [hcommit]
  decide

/-- The sample run calculates confirms. -/
theorem confirms_complete_of_sampleRun :
    ∃ sta, run (step sampleEnv) {} sampleRun = .ok sta ∧
      .computed (some sampleKck) ∈ sta.exchange.log ∧ Keyed sta.exchange.log := by
  refine exists_ok (by decide +kernel) fun sta hrun _ => ?_
  exact (confirms_complete sampleEnv false sampleRun sampleRun_orderly).2 sta hrun

def faultOf {α : Type} : Except SaeFault α → Option SaeFault
  | .ok _ => none
  | .error f => some f

/-- A confirm after a commit that was answered by a request for a token is calculated from values
that are `NULL`, and a commit of an accepted station reads the station after it has freed it. -/
theorem incomplete_and_freed_state_used :
    faultOf (run (step sampleEnv) {}
      [sampleClogged [], sampleConfirm 7]) = some .confirmFromNull ∧
    faultOf (run (step sampleEnv) {} (sampleRun ++ [sampleCommit 5 (toBe 16 13)])) =
      some .useAfterFree := by
  decide +kernel

end Hostapd.Sae

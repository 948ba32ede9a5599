import Hostapd.Tls.Pkcs1

/-!
# The RSA key exchange of the server

`tls_process_client_key_exchange` with a pre-master secret that is encrypted under the key of the
server (`src/tls/tlsv1_server_read.c`). A message whose secret cannot be used goes on with a random
one. `key_exchange_uniform`: the answers to two messages are the same exactly if each decrypted
block has a delimiter or an octet of the buffer behind it and, where there are no random octets,
both secrets or none of them can be used.
-/

namespace Hostapd.Tls

open Wire Checked List

/-- The message that is waited for. -/
inductive ServerState
  | clientKeyExchange
  | certificateVerify

/-- The part of `struct tlsv1_server` that the key exchange is about. -/
structure TlsServer where
  key : RsaPrivateKey
  clientVersion : ℕ
  state : ServerState := .clientKeyExchange
  alert : Option (UInt8 × UInt8) := none
  masterSecret : Option Bytes := none

/-- Memory, random octets, and the derivation of the master secret. -/
structure KeyExchangeEnv where
  alloc : Bool
  random : Option (Octets 48)
  prf : Bytes → Bytes

variable (env : KeyExchangeEnv) (conn : TlsServer) (ct : UInt8) (inData pos : Bytes)

/-- A fatal alert (`tlsv1_server_alert`), and the return value -1. -/
def TlsServer.fatal {α : Type} (description : UInt8) : Checked (TlsServer × Option α) :=
  .ok ({ conn with alert := some (2, description) }, none)

/-- A write of `n` octets to a buffer of `size` octets. -/
def writeTo (size n : ℕ) : Checked Unit := if n ≤ size then .ok () else .error .overrun

/-- The body of a message is too short for its length field. -/
abbrev Short : Prop := pos.length < 2 ∨ pos.length - 2 < beNat (pos.take 2)

/-- What the client has encrypted, if it is of the right length and version. -/
def TlsServer.usable (plain : Option Bytes) : Option Bytes :=
  plain.filter fun out => out.length = 48 ∧ beNat (out.take 2) = conn.clientVersion

/-- What is decrypted of the body of a message, in a buffer for it and for a secret. -/
def TlsServer.decrypted : Checked (Option Bytes) :=
  pkcs1V15PrivateKeyDecrypt conn.key ((pos.drop 2).take (beNat (pos.take 2))) (pos.length - 2)
    (max (pos.length - 2) 48)

/-- `tls_process_client_key_exchange_rsa`; the buffer is cleared in the end. -/
def tlsProcessClientKeyExchangeRsa : Checked (TlsServer × Option Unit) :=
  if Short pos then conn.fatal 50
  else if env.alloc = false then conn.fatal 80
  else do
    let size := max (pos.length - 2) 48
    let plain ← conn.decrypted pos
    let secret ← match conn.usable plain with
      | some out => pure (some out)
      | none => do
        writeTo size 48
        pure (env.random.map (·.val))
    match secret with
    | none => conn.fatal 80
    | some out => do
      writeTo size (pos.length - 2)
      .ok ({ conn with masterSecret := some (env.prf out) }, some ())

def handshakeBody : Bytes := (inData.drop 4).take (beNat ((inData.drop 1).take 3))

/-- `tls_process_client_key_exchange` under a suite with RSA key exchange; the result is the number
of octets used. -/
def tlsProcessClientKeyExchange : Checked (TlsServer × Option ℕ) :=
  if ct ≠ 22 then conn.fatal 10
  else if inData.length < 4 then conn.fatal 50
  else
    let len := beNat ((inData.drop 1).take 3)
    if inData.length - 4 < len then conn.fatal 50
    else if inData.getD 0 0 ≠ 16 then conn.fatal 10
    else do
      let (conn, res) ← tlsProcessClientKeyExchangeRsa env conn (handshakeBody inData)
      match res with
      | none => .ok (conn, none)
      | some () => .ok ({ conn with state := .certificateVerify }, some (4 + len))

/-- The decrypted block of the body of a message has a delimiter, or there is an octet of the buffer
behind it. -/
def TlsServer.Delimited : Prop :=
  ∀ body, conn.key.exptmod true ((pos.drop 2).take (beNat (pos.take 2))) (pos.length - 2) =
      some (0x00 :: 0x02 :: body) →
    0x00 ∈ body ∨ body.length + 2 < max (pos.length - 2) 48

/-- The body of a message holds a secret that can be used: its block is decrypted, is padded, and
consists of 48 octets of which the first two are the version of the client. -/
def TlsServer.Encrypts (out : Bytes) : Prop :=
  (∃ ps, 8 ≤ ps.length ∧ 0x00 ∉ ps ∧
    conn.key.exptmod true ((pos.drop 2).take (beNat (pos.take 2))) (pos.length - 2) =
      some (0x00 :: 0x02 :: (ps ++ 0x00 :: out))) ∧
  out.length = 48 ∧ beNat (out.take 2) = conn.clientVersion

/-- A message is a ClientKeyExchange whose length fields agree with its length, and there is memory
to decrypt it. -/
structure ReachesDecryption : Prop where
  contentType : ct = 22
  header : 4 ≤ inData.length
  length : beNat ((inData.drop 1).take 3) ≤ inData.length - 4
  handshakeType : inData.getD 0 0 = 16
  body : ¬ Short (handshakeBody inData)
  alloc : env.alloc = true

/-- Two messages have the same length and the same length fields. -/
structure SameLengths (msg msg' : Bytes) : Prop where
  length : msg.length = msg'.length
  header : msg.take 4 = msg'.take 4
  encrypted : 2 ≤ (handshakeBody msg).length →
    (handshakeBody msg).take 2 = (handshakeBody msg').take 2

/-- Two messages are decrypted without an access beyond the buffer, and if there are no random
octets, both or none of them hold a secret that can be used. -/
structure TlsServer.Alike (msg msg' : Bytes) : Prop where
  delimited : conn.Delimited (handshakeBody msg)
  delimited' : conn.Delimited (handshakeBody msg')
  usable : env.random = none →
    ((∃ out, conn.Encrypts (handshakeBody msg) out) ↔ ∃ out, conn.Encrypts (handshakeBody msg') out)

/-! ## The decrypted secret -/

variable {env conn ct pos} {msg msg' : Bytes}

lemma safe_decrypted : (conn.decrypted pos).Safe ↔ conn.Delimited pos := by
  rw [TlsServer.decrypted, pkcs1V15PrivateKeyDecrypt, TlsServer.Delimited]
  split
  · rename_i hnone
    exact iff_of_true (safe_ok _) fun body hsome => by simp [hnone] at hsome
  · rename_i out hout
    rw [safe_pkcs1V15Unpad]
    simp only [hout, Option.some.injEq]
    refine forall_congr' fun body => imp_congr_right ?_
    rintro rfl
    rw [length_cons, length_cons, or_comm, Nat.sub_ne_zero_iff_lt]

/-- Which secrets can be used. -/
lemma usable_eq_some {plain : Option Bytes} {out : Bytes}
    (hplain : conn.decrypted pos = .ok plain) :
    conn.usable plain = some out ↔ conn.Encrypts pos out := by
  rw [TlsServer.usable, Option.filter_eq_some_iff, TlsServer.Encrypts, decide_eq_true_iff]
  refine and_congr_left fun _ => ?_
  rw [TlsServer.decrypted, pkcs1V15PrivateKeyDecrypt] at hplain
  split at hplain
  · next hnone =>
    cases hplain
    simp [hnone]
  · next block hblock =>
    have hiff := @pkcs1V15Unpad_eq_some (max (pos.length - 2) 48 - block.length) block out
    rw [hplain, Except.ok.injEq] at hiff
    rw [hiff, hblock]
    simp only [Option.some.injEq]

/-- The secret is the one of the client or a random one, and the answer tells only whether there is
one. -/
lemma keyExchangeRsa_eq {plain : Option Bytes} (hshort : ¬ Short pos)
    (halloc : env.alloc = true) (hplain : conn.decrypted pos = .ok plain) :
    tlsProcessClientKeyExchangeRsa env conn pos =
      match (conn.usable plain).or (env.random.map (·.val)) with
      | none => conn.fatal 80
      | some out => .ok ({ conn with masterSecret := some (env.prf out) }, some ()) := by
  have hwrite : writeTo (max (pos.length - 2) 48) 48 = .ok () := if_pos (le_max_right _ _)
  have hclear : writeTo (max (pos.length - 2) 48) (pos.length - 2) = .ok () :=
    if_pos (le_max_left _ _)
  rw [tlsProcessClientKeyExchangeRsa, if_neg hshort, if_neg (by simp [halloc])]
  simp only [hplain, ok_bind, hclear]
  cases conn.usable plain with
  | some out => rfl
  | none =>
    simp only [hwrite, ok_bind, Option.none_or]
    cases env.random <;> rfl

/-- A message that reaches decryption. -/
lemma keyExchange_of_reaches (h : ReachesDecryption env ct msg) :
    tlsProcessClientKeyExchange env conn ct msg =
      tlsProcessClientKeyExchangeRsa env conn (handshakeBody msg) >>= fun (conn, res) =>
        match res with
        | none => .ok (conn, none)
        | some () => .ok ({ conn with state := .certificateVerify },
            some (4 + beNat ((msg.drop 1).take 3))) := by
  have hheader := h.header
  have hlength := h.length
  rw [tlsProcessClientKeyExchange, if_neg (by simp [h.contentType]), if_neg (by omega)]
  dsimp only
  rw [if_neg (by omega), if_neg (not_not.mpr h.handshakeType)]

/-- The answer to a message that is decrypted. -/
lemma keyExchange_of_decrypted (h : ReachesDecryption env ct msg) {plain : Option Bytes}
    (hplain : conn.decrypted (handshakeBody msg) = .ok plain) :
    tlsProcessClientKeyExchange env conn ct msg = .ok
      (match (conn.usable plain).or (env.random.map (·.val)) with
      | none => ({ conn with alert := some (2, 80) }, none)
      | some out =>
        ({ conn with masterSecret := some (env.prf out), state := .certificateVerify },
          some (4 + beNat ((msg.drop 1).take 3)))) := by
  rw [keyExchange_of_reaches h, keyExchangeRsa_eq h.body h.alloc hplain]
  cases (conn.usable plain).or (env.random.map (·.val)) <;> rfl

lemma delimited_of_ok (h : ReachesDecryption env ct msg) {r : TlsServer × Option ℕ}
    (hr : tlsProcessClientKeyExchange env conn ct msg = .ok r) :
    conn.Delimited (handshakeBody msg) := by
  rw [keyExchange_of_reaches h] at hr
  obtain ⟨res, hrsa, -⟩ := bind_eq_ok.mp hr
  rw [tlsProcessClientKeyExchangeRsa, if_neg h.body, if_neg (by simp [h.alloc])] at hrsa
  obtain ⟨plain, hplain, -⟩ := bind_eq_ok.mp hrsa
  exact safe_decrypted.mp ⟨plain, hplain⟩

/-! ## Messages of the same lengths -/

namespace SameLengths

lemma handshakeType (h : SameLengths msg msg') : msg.getD 0 0 = msg'.getD 0 0 := by
  have hget : ∀ l : Bytes, (l.take 4).getD 0 0 = l.getD 0 0 := fun l => by cases l <;> rfl
  rw [← hget, h.header, hget]

lemma size (h : SameLengths msg msg') : (msg.drop 1).take 3 = (msg'.drop 1).take 3 := by
  simpa [drop_take] using congrArg (List.drop 1) h.header

lemma short (h : SameLengths msg msg') :
    Short (handshakeBody msg) ↔ Short (handshakeBody msg') := by
  have hbody : (handshakeBody msg).length = (handshakeBody msg').length := by
    rw [handshakeBody, handshakeBody, h.size, length_take, length_take, length_drop, length_drop,
      h.length]
  by_cases htwo : 2 ≤ (handshakeBody msg).length
  · rw [Short, h.encrypted htwo, hbody]
  · exact iff_of_true (.inl (not_le.mp htwo)) (.inl (hbody ▸ not_le.mp htwo))

lemma reaches (h : SameLengths msg msg') (hr : ReachesDecryption env ct msg) :
    ReachesDecryption env ct msg' :=
  { contentType := hr.contentType
    header := h.length ▸ hr.header
    length := h.size ▸ h.length ▸ hr.length
    handshakeType := h.handshakeType ▸ hr.handshakeType
    body := h.short.not.mp hr.body
    alloc := hr.alloc }

/-- Messages that are not decrypted get the same alert. -/
lemma answer_of_not_reaches (h : SameLengths msg msg') (hr : ¬ ReachesDecryption env ct msg) :
    ∃ description, tlsProcessClientKeyExchange env conn ct msg = conn.fatal description ∧
      tlsProcessClientKeyExchange env conn ct msg' = conn.fatal description := by
  simp only [tlsProcessClientKeyExchange, tlsProcessClientKeyExchangeRsa, h.handshakeType, h.size,
    h.length, h.short]
  split_ifs with hct hheader hlength htype hshort halloc
  · exact ⟨10, rfl, rfl⟩
  · exact ⟨50, rfl, rfl⟩
  · exact ⟨50, rfl, rfl⟩
  · exact ⟨10, rfl, rfl⟩
  · exact ⟨50, rfl, rfl⟩
  · exact ⟨80, rfl, rfl⟩
  · refine absurd ⟨not_not.mp hct, ?_, ?_, ?_, h.short.not.mpr hshort, by simpa using halloc⟩ hr
    · exact h.length ▸ not_lt.mp hheader
    · exact h.size ▸ h.length ▸ not_lt.mp hlength
    · exact h.handshakeType ▸ not_not.mp htype

end SameLengths

lemma exists_encrypts {plain : Option Bytes} (hplain : conn.decrypted pos = .ok plain) :
    (∃ out, conn.Encrypts pos out) ↔ (conn.usable plain).isSome := by
  simp only [← usable_eq_some hplain, Option.isSome_iff_exists]

/-- For two messages that are decrypted, a client gets the same answer exactly if they are alike. -/
lemma answers_eq_iff (h : SameLengths msg msg') (hr : ReachesDecryption env ct msg) :
    (∃ r r', tlsProcessClientKeyExchange env conn ct msg = .ok r ∧
      tlsProcessClientKeyExchange env conn ct msg' = .ok r' ∧ r.2 = r'.2 ∧
      r.1.state = r'.1.state ∧ r.1.alert = r'.1.alert) ↔ conn.Alike env msg msg' := by
  have hr' := h.reaches hr
  constructor
  · rintro ⟨r, r', hrun, hrun', hres, -, -⟩
    have hdel := delimited_of_ok hr hrun
    have hdel' := delimited_of_ok hr' hrun'
    refine ⟨hdel, hdel', fun hrandom => ?_⟩
    obtain ⟨plain, hplain⟩ := safe_decrypted.mpr hdel
    obtain ⟨plain', hplain'⟩ := safe_decrypted.mpr hdel'
    rw [exists_encrypts hplain, exists_encrypts hplain']
    cases (keyExchange_of_decrypted hr hplain).symm.trans hrun
    cases (keyExchange_of_decrypted hr' hplain').symm.trans hrun'
    cases husable : conn.usable plain <;> cases husable' : conn.usable plain' <;>
      simp_all
  · rintro ⟨hdel, hdel', husable⟩
    obtain ⟨plain, hplain⟩ := safe_decrypted.mpr hdel
    obtain ⟨plain', hplain'⟩ := safe_decrypted.mpr hdel'
    rw [exists_encrypts hplain, exists_encrypts hplain'] at husable
    refine ⟨_, _, keyExchange_of_decrypted hr hplain, keyExchange_of_decrypted hr' hplain', ?_⟩
    rw [h.size]
    cases henv : env.random <;> cases hout : conn.usable plain <;>
      cases hout' : conn.usable plain' <;> simp_all

/-- The key exchange is no oracle: for two messages of one length and with the same length fields,
no access is made beyond the buffer and a client gets the same answer exactly if the messages are
not decrypted at all or are alike.  After a successful key exchange the master secret comes from
what was decrypted, if that can be used, and from the random octets otherwise. -/
theorem key_exchange_uniform (h : SameLengths msg msg') :
    ((∃ r r', tlsProcessClientKeyExchange env conn ct msg = .ok r ∧
      tlsProcessClientKeyExchange env conn ct msg' = .ok r' ∧ r.2 = r'.2 ∧
      r.1.state = r'.1.state ∧ r.1.alert = r'.1.alert) ↔
        (ReachesDecryption env ct msg → conn.Alike env msg msg')) ∧
    ∀ r, tlsProcessClientKeyExchange env conn ct msg = .ok r → r.2.isSome →
      (∀ out, conn.Encrypts (handshakeBody msg) out → r.1.masterSecret = some (env.prf out)) ∧
      ((¬ ∃ out, conn.Encrypts (handshakeBody msg) out) →
        ∃ octets, env.random = some octets ∧ r.1.masterSecret = some (env.prf octets.val)) := by
  by_cases hr : ReachesDecryption env ct msg
  · refine ⟨(answers_eq_iff h hr).trans (by simp [hr]), fun r hrun hsome => ?_⟩
    obtain ⟨plain, hplain⟩ := safe_decrypted.mpr (delimited_of_ok hr hrun)
    cases (keyExchange_of_decrypted hr hplain).symm.trans hrun
    rw [exists_encrypts hplain]
    simp only [← usable_eq_some hplain]
    cases hout : conn.usable plain <;> cases henv : env.random <;> simp_all
  · obtain ⟨description, hrun, hrun'⟩ := h.answer_of_not_reaches hr
    refine ⟨iff_of_true ⟨_, _, hrun, hrun', rfl, rfl, rfl⟩ fun hyes => absurd hyes hr, ?_⟩
    intro r hrun₂ hsome
    cases hrun.symm.trans hrun₂
    cases hsome

def sampleServer : TlsServer where
  key := identityKey (256 ^ 48 - 1)
  clientVersion := 0x0303

/-- A message with an encrypted secret of 48 octets, for a key of 64 octets that changes nothing. -/
def sampleMessage (version : UInt8) : Bytes :=
  [16, 0, 0, 66, 0, 64, 0x00, 0x02] ++ replicate 13 0x01 ++ [0x00, 0x03, version] ++
    replicate 46 0x05

/-- A secret with another version than that of the client is not told from one that can be used. -/
theorem key_exchange_uniform_of_versions :
    SameLengths (sampleMessage 3) (sampleMessage 1) ∧
      ((∃ r r', tlsProcessClientKeyExchange ⟨true, some (.zero 48), id⟩
          ⟨identityKey (256 ^ 64 - 1), 0x0303, .clientKeyExchange, none, none⟩ 22
            (sampleMessage 3) = .ok r ∧
        tlsProcessClientKeyExchange ⟨true, some (.zero 48), id⟩
          ⟨identityKey (256 ^ 64 - 1), 0x0303, .clientKeyExchange, none, none⟩ 22
            (sampleMessage 1) = .ok r' ∧ r.2 = r'.2 ∧
        r.1.state = r'.1.state ∧ r.1.alert = r'.1.alert) ↔
          (ReachesDecryption ⟨true, some (.zero 48), id⟩ 22 (sampleMessage 3) →
            TlsServer.Alike ⟨true, some (.zero 48), id⟩
              ⟨identityKey (256 ^ 64 - 1), 0x0303, .clientKeyExchange, none, none⟩
              (sampleMessage 3) (sampleMessage 1))) := by
  have hlengths : SameLengths (sampleMessage 3) (sampleMessage 1) :=
    ⟨by decide, by decide, fun _ => by decide⟩
  exact ⟨hlengths, (key_exchange_uniform hlengths).1⟩

/-- A block without a delimiter that fills the buffer is read beyond it, and without random octets a
message whose secret cannot be used is answered with an alert. -/
theorem key_exchange_apart :
    (tlsProcessClientKeyExchange ⟨true, none, id⟩ sampleServer 22
        ([16, 0, 0, 50, 0, 48, 0x00, 0x02] ++ replicate 46 0x01)).map (·.1.alert) =
          .error .overread ∧
      (tlsProcessClientKeyExchange ⟨true, none, id⟩ sampleServer 22
        ([16, 0, 0, 50, 0, 48] ++ replicate 48 0x01)).map (·.1.alert) =
          .ok (some (2, 80)) := by
  decide +kernel

end Hostapd.Tls

import Hostapd.EapTls.Common
import Hostapd.Erp.PacketSafety
import Mathlib.Data.List.GetD

/-!
# The TLS randoms that the authenticator overhears

`ieee802_1x_send` and `handle_eap_response` of `src/ap/ieee802_1x.c` look into the frames that pass
through them for a ServerHello and a ClientHello and keep their Randoms, from which
`ieee802_1x_finished` makes the Session-Id and the CKN. They look at fixed offsets: that of the
ServerHello is right for a packet with a length field, that of the ClientHello for one without.
-/

namespace Hostapd.Ap.TlsRandoms

open Wire Checked Machine List
open EapTls (has flagLengthIncluded flagMoreFragments)
open Erp (octet octet_of_lt)

/-! ## What the authenticator does -/

/-- The two Randoms in `struct sta_info`. -/
structure Sta where
  clientRandom : Bytes := replicate 32 0
  serverRandom : Bytes := replicate 32 0

/-- Look for a hello at the offset `off` of the data: its Random, or the one there was. -/
def overhear (hello : UInt8) (off : ℕ) (data old : Bytes) : Checked Bytes := do
  if (← octet data off) = 0x16 then
    if (← octet data (off + 5)) = hello then readAt data (off + 11) 32 else return old
  else return old

/-- What `ieee802_1x_send` keeps of the data that it sends. -/
def ieee8021xSend (sta : Sta) (data : Bytes) : Checked Sta := do
  return { sta with serverRandom := ← overhear 2 10 data sta.serverRandom }

/-- What `handle_eap_response` keeps of an EAP packet at the beginning of `buf`. -/
def handleEapResponse (sta : Sta) (eap buf : Bytes) : Checked Sta := do
  if 5 ≤ eap.length ∧ eap.getD 4 0 = 13 then
    return { sta with clientRandom := ← overhear 1 6 buf sta.clientRandom }
  else return sta

/-- The EAP packet in the data of a frame, if its length field is right. -/
def eapPacket (buf : Bytes) : Bytes :=
  let eapLen := (ofBe16 (buf.drop 2)).toNat
  if 4 ≤ buf.length ∧ 4 ≤ eapLen ∧ eapLen ≤ buf.length then buf.take eapLen else []

/-- `handle_eap`: only responses matter here. -/
def handleEap (sta : Sta) (buf : Bytes) : Checked Sta :=
  if (eapPacket buf).headD 0 = 2 then handleEapResponse sta (eapPacket buf) buf else .ok sta

/-- The Session-Id of EAP-TLS, as `ieee802_1x_finished` and the supplicant make it. -/
def sessionId (clientRandom serverRandom : Bytes) : Bytes :=
  13 :: (clientRandom ++ serverRandom)

/-! ## Key names -/

section Ckn

variable (omac1Aes128 : Bytes → Bytes → Bytes) (msk : Bytes)

/-- `aes_kdf_128`: each round is a MAC, of 16 octets, over its number, the label, a zero, the
context and the number of bits. -/
def aesKdf128 (kdk : Bytes) (label : String) (context : Bytes) (retBits : ℕ) :
    Bytes :=
  (range ((retBits + 127) / 128)).flatMap fun i =>
    omac1Aes128 (kdk.take 16)
      (UInt8.ofNat (i + 1) :: label.toUTF8.data.toList ++ 0 :: context ++
        be16 (UInt16.ofNat retBits))

/-- `ieee802_1x_ckn_128bits_aes_cmac`, with `joint_two_mac` for the addresses. -/
def ckn128bitsAesCmac (mac1 mac2 : Octets 6) (sid : Bytes) : Bytes :=
  aesKdf128 omac1Aes128 msk "IEEE8021 EAP CKN" (sid ++ minMax mac1.val mac2.val) 128

/-- The CKN that `ieee802_1x_finished` makes for a station. -/
def Sta.ckn (sta : Sta) (ownAddr staAddr : Octets 6) : Bytes :=
  ckn128bitsAesCmac omac1Aes128 msk ownAddr staAddr (sessionId sta.clientRandom sta.serverRandom)

/-- `ieee802_1x_auth_get_session_id` of the supplicant, on what its EAPOL state machines have. -/
def authGetSessionId (id : Bytes) : Option Bytes :=
  if id.length < 1 + 2 * 32 then none else some (id.take (1 + 2 * 32))

/-- The CKN of the supplicant (`ieee802_1x_notify_create_actor`), which keeps 16 octets of the
MSK. -/
def notifyCreateActorCkn (ownAddr peerAddr : Octets 6) (id : Bytes) : Option Bytes :=
  (authGetSessionId id).map (ckn128bitsAesCmac omac1Aes128 (msk.take 16) ownAddr peerAddr)

end Ckn

/-! ## What the packets carry -/

/-- The TLS octets in an EAP-TLS packet, and whether more fragments follow. -/
def tlsData (code : UInt8) : Bytes → Option (Bytes × Bool)
  | c :: _ :: _ :: _ :: 13 :: flags :: rest =>
    if c = code then
      some (if has flags flagLengthIncluded then rest.drop 4 else rest, has flags flagMoreFragments)
    else none
  | _ => none

/-- The handshake messages in the records of a TLS message; they are encrypted once
ChangeCipherSpec has come. -/
def handshakes : ℕ → Bytes → Bytes
  | 0, _ => []
  | fuel + 1, l =>
    if l.length < 5 ∨ l.headD 0 = 0x14 then []
    else
      let len := (ofBe16 (l.drop 3)).toNat
      (if l.headD 0 = 0x16 then (l.drop 5).take len else []) ++ handshakes fuel (l.drop (5 + len))

/-- The Randoms of the hellos among the messages. -/
def helloRandoms (hello : UInt8) : ℕ → Bytes → List Bytes
  | 0, _ => []
  | fuel + 1, l =>
    if l.length < 4 then []
    else
      (if l.headD 0 = hello ∧ 38 ≤ l.length then [(l.drop 6).take 32] else []) ++
        helloRandoms hello fuel (l.drop (4 + beNat ((l.drop 1).take 3)))

/-- The Random of the last hello in a message. -/
def lastHello (hello : UInt8) (msg : Bytes) : Option Bytes :=
  let l := handshakes msg.length msg
  (helloRandoms hello l.length l).getLast?

/-- The Random of a hello at the beginning. -/
def helloRandom (hello : UInt8) (msg : Bytes) : Option Bytes :=
  if msg.getD 0 0 = 0x16 ∧ msg.getD 5 0 = hello ∧ 43 ≤ msg.length then
    some ((msg.drop 11).take 32)
  else none

/-- What one side has sent: the TLS message under way, and the Random of its last hello. -/
structure Carried where
  message : Bytes := []
  random : Bytes := replicate 32 0

/-- Put a packet to those that came before. -/
def Carried.take (code hello : UInt8) (c : Carried) (packet : Bytes) : Carried :=
  match tlsData code packet with
  | none => c
  | some (tls, more) =>
    { message := if more then c.message ++ tls else []
      random := (lastHello hello (c.message ++ tls)).getD c.random }

/-! ## An exchange -/

/-- An EAPOL frame that is sent, with its type, or one with an EAP packet that is received. -/
inductive Frame where
  | sent (type : UInt8) (data : Bytes)
  | received (data : Bytes)

/-- What the authenticator has overheard, and what the two sides have sent. -/
structure Exchange where
  sta : Sta := {}
  client : Carried := {}
  server : Carried := {}

/-- The EAP packet that the authenticator sends in a frame. -/
def sentPacket (type : UInt8) (data : Bytes) : Bytes :=
  if type = 0 then eapPacket data else []

/-- The authenticator sees a frame. -/
def step (s : Exchange) : Frame → Checked Exchange
  | .sent type data => do
    return { s with
      sta := ← ieee8021xSend s.sta data, server := s.server.take 1 2 (sentPacket type data) }
  | .received data => do
    return { s with sta := ← handleEap s.sta data, client := s.client.take 2 1 (eapPacket data) }

/-- The data are long enough to be looked at.  If a hello is seen at the offset `off`, a TLS message
begins there with all of its Random.  A message has a hello at its beginning only, and the packet
with which its Random becomes complete is such a one. -/
def Legible (code hello : UInt8) (off : ℕ) (c : Carried) (packet data : Bytes) : Prop :=
  off < data.length ∧ (data.getD off 0 = 0x16 → off + 5 < data.length) ∧
  (data.getD off 0 = 0x16 ∧ data.getD (off + 5) 0 = hello →
    43 ≤ (packet.drop off).length ∧ c.message = [] ∧
      (tlsData code packet).map Prod.fst = some (packet.drop off)) ∧
  ∀ p ∈ tlsData code packet,
    lastHello hello (c.message ++ p.1) = helloRandom hello (c.message ++ p.1) ∧
    (helloRandom hello (c.message ++ p.1) ≠ none →
      c.message = [] ∧ p.1 = packet.drop off ∨ helloRandom hello c.message ≠ none)

instance {code hello : UInt8} {off : ℕ} {c : Carried} {packet data : Bytes} :
    Decidable (Legible code hello off c packet data) := inferInstanceAs (Decidable (_ ∧ _))

/-- An EAP packet with this code and the type of EAP-TLS. -/
def IsTls (code : UInt8) (packet : Bytes) : Prop :=
  packet.headD 0 = code ∧ 5 ≤ packet.length ∧ packet.getD 4 0 = 13

/-- The frame is legible in its direction. -/
def Regular (s : Exchange) : Frame → Prop
  | .sent type data => Legible 1 2 10 s.server (sentPacket type data) data
  | .received data =>
    IsTls 2 (eapPacket data) → Legible 2 1 6 s.client (eapPacket data) data

instance (s : Exchange) : (f : Frame) → Decidable (Regular s f)
  | .sent .. => inferInstanceAs (Decidable (Legible ..))
  | .received _ => inferInstanceAs (Decidable (_ ∧ _ → Legible ..))

variable {code hello : UInt8} {off : ℕ} {c : Carried} {msg packet data : Bytes}

lemma helloRandom_append (h : 43 ≤ msg.length) (rest : Bytes) :
    helloRandom hello (msg ++ rest) = helloRandom hello msg := by
  have hlen : 43 ≤ (msg ++ rest).length := by
    rw [length_append]
    omega
  rw [helloRandom, helloRandom, getD_append _ _ _ _ (by omega), getD_append _ _ _ _ (by omega),
    drop_append_of_le_length (by omega), take_append_of_le_length (by rw [length_drop]; omega)]
  simp only [h, hlen]

lemma helloRandom_drop : helloRandom hello (data.drop off) =
    if data.getD off 0 = 0x16 ∧ data.getD (off + 5) 0 = hello ∧ 43 ≤ (data.drop off).length then
      some ((data.drop (off + 11)).take 32) else none := by
  simp only [helloRandom, getD_eq_getElem?_getD, getElem?_drop, drop_drop, Nat.add_zero]

lemma length_of_helloRandom (h : helloRandom hello msg ≠ none) : 43 ≤ msg.length := by
  rw [helloRandom] at h
  split at h
  · rename_i hmsg
    exact hmsg.2.2
  · exact absurd rfl h

lemma helloRandom_drop_append (h : 43 ≤ (packet.drop off).length) (rest : Bytes) :
    helloRandom hello ((packet ++ rest).drop off) = helloRandom hello (packet.drop off) := by
  rw [drop_append_of_le_length (by rw [length_drop] at h; omega), helloRandom_append h]

/-- The Random kept is that of the hello. -/
def Carried.Ok (hello : UInt8) (c : Carried) : Prop :=
  ∀ r, helloRandom hello c.message = some r → c.random = r

lemma Legible.ok_take (h : Legible code hello off c packet data) (hc : c.Ok hello) :
    (c.take code hello packet).Ok hello := by
  unfold Carried.take
  split
  · exact hc
  rename_i hdata
  intro r hr
  split at hr
  · rw [(h.2.2.2 _ hdata).1, hr]
    rfl
  · cases hr

/-- A packet of a legible frame in which no hello is seen does not change the Random. -/
lemma Legible.random_take {rest : Bytes} (h : Legible code hello off c packet (packet ++ rest))
    (hc : c.Ok hello)
    (hnot : ¬((packet ++ rest).getD off 0 = 0x16 ∧ (packet ++ rest).getD (off + 5) 0 = hello)) :
    (c.take code hello packet).random = c.random := by
  unfold Carried.take
  split
  · rfl
  rename_i tls more hdata
  obtain ⟨hlast, hcarried⟩ := h.2.2.2 _ hdata
  dsimp only at hlast hcarried ⊢
  rw [hlast]
  cases hrandom : helloRandom hello (c.message ++ tls) with
  | none => rfl
  | some r =>
    have hcomplete : helloRandom hello (c.message ++ tls) ≠ none := by simp [hrandom]
    rcases hcarried hcomplete with ⟨hmsg, htls⟩ | hold
    · rw [hmsg, nil_append, htls] at hrandom hcomplete
      rw [← helloRandom_drop_append (length_of_helloRandom hcomplete) rest, helloRandom_drop]
        at hrandom
      split at hrandom
      · rename_i hseen
        exact absurd ⟨hseen.1, hseen.2.1⟩ hnot
      · cases hrandom
    · rw [helloRandom_append (length_of_helloRandom hold)] at hrandom
      exact (hc r hrandom).symm

/-- What is overheard in a legible packet is what it carries. -/
lemma Legible.overhear_eq (h : Legible code hello off c packet data)
    (hdata : ∃ rest, data = packet ++ rest) (hc : c.Ok hello) :
    overhear hello off data c.random = .ok (c.take code hello packet).random := by
  obtain ⟨rest, rfl⟩ := hdata
  obtain ⟨hoff, hfive, hseen, hcarried⟩ := id h
  rw [overhear, octet_of_lt hoff, ok_bind]
  by_cases hlooks : (packet ++ rest).getD off 0 = 0x16 ∧ (packet ++ rest).getD (off + 5) 0 = hello
  · obtain ⟨hlen, hmsg, htls⟩ := hseen hlooks
    obtain ⟨⟨tls, more⟩, hdata, rfl⟩ := Option.map_eq_some_iff.mp htls
    have hlen' : 43 ≤ ((packet ++ rest).drop off).length := by
      rw [length_drop] at hlen ⊢
      rw [length_append]
      omega
    have hrandom : helloRandom hello _ = _ := helloRandom_drop_append hlen rest
    rw [helloRandom_drop, if_pos ⟨hlooks.1, hlooks.2, hlen'⟩] at hrandom
    rw [length_drop] at hlen'
    rw [if_pos hlooks.1, octet_of_lt (hfive hlooks.1), ok_bind, if_pos hlooks.2,
      readAt_of_le (by omega), Carried.take, hdata]
    dsimp only
    rw [(hcarried _ hdata).1, hmsg, nil_append, ← hrandom]
    rfl
  · rw [h.random_take hc hlooks]
    split
    · rename_i htype
      rw [octet_of_lt (hfive htype), ok_bind, if_neg fun hhello => hlooks ⟨htype, hhello⟩]
      rfl
    · rfl

lemma length_overhear {old r : Bytes} (h : overhear hello off data old = .ok r)
    (hold : old.length = 32) : r.length = 32 := by
  obtain ⟨first, -, h⟩ := bind_eq_ok.mp h
  split at h
  · obtain ⟨second, -, h⟩ := bind_eq_ok.mp h
    split at h
    · obtain ⟨hle, rfl⟩ := readAt_eq_ok.mp h
      rw [length_take, length_drop]
      omega
    · cases h
      exact hold
  · cases h
    exact hold

/-- A supplicant whose Session-Id is that of the authenticator derives the same CKN. -/
lemma notifyCreateActorCkn_eq {sta : Sta} (hclient : sta.clientRandom.length = 32)
    (hserver : sta.serverRandom.length = 32) (omac1Aes128 : Bytes → Bytes → Bytes)
    (msk : Bytes) (ownAddr staAddr : Octets 6) :
    notifyCreateActorCkn omac1Aes128 msk staAddr ownAddr
        (sessionId sta.clientRandom sta.serverRandom) =
      some (sta.ckn omac1Aes128 msk ownAddr staAddr) := by
  have hlen : (sessionId sta.clientRandom sta.serverRandom).length = 1 + 2 * 32 := by
    simp [sessionId, hclient, hserver]
  have haddr : minMax staAddr.val ownAddr.val = minMax ownAddr.val staAddr.val :=
    minMax_comm (by simp)
  rw [notifyCreateActorCkn, authGetSessionId, if_neg (by omega), take_of_length_le hlen.le]
  simp only [Option.map_some, Sta.ckn, ckn128bitsAesCmac, aesKdf128, haddr, take_take, min_self]

/-- The Randoms kept are those that were carried. -/
structure Exchange.Inv (s : Exchange) : Prop where
  client : s.sta.clientRandom = s.client.random
  server : s.sta.serverRandom = s.server.random
  clientLength : s.sta.clientRandom.length = 32
  serverLength : s.sta.serverRandom.length = 32
  clientOk : s.client.Ok 1
  serverOk : s.server.Ok 2

variable {s : Exchange}

lemma eapPacket_append (data : Bytes) : ∃ rest, data = eapPacket data ++ rest := by
  unfold eapPacket
  dsimp only
  split
  · exact ⟨_, (take_append_drop _ data).symm⟩
  · exact ⟨data, rfl⟩

lemma sentPacket_append (type : UInt8) (data : Bytes) :
    ∃ rest, data = sentPacket type data ++ rest := by
  unfold sentPacket
  split
  · exact eapPacket_append data
  · exact ⟨data, rfl⟩

lemma Carried.take_of_not {code hello : UInt8} {c : Carried} {packet : Bytes}
    (h : ¬IsTls code packet) : c.take code hello packet = c := by
  unfold Carried.take tlsData
  split
  · rfl
  rename_i hdata
  split at hdata
  · split at hdata
    · rename_i hcode
      simp [IsTls, hcode] at h
    · cases hdata
  · cases hdata

/-- A legible frame is read inside and keeps the Randoms in step. -/
lemma Exchange.Inv.step {f : Frame} (h : s.Inv) (hf : Regular s f) :
    ∃ s', TlsRandoms.step s f = .ok s' ∧ s'.Inv := by
  cases f with
  | sent type data =>
    have hkept := Legible.overhear_eq hf (sentPacket_append type data) h.serverOk
    rw [← h.server] at hkept
    rw [TlsRandoms.step, ieee8021xSend, hkept]
    exact ⟨_, rfl, h.client, rfl, h.clientLength, length_overhear hkept h.serverLength, h.clientOk,
      Legible.ok_take hf h.serverOk⟩
  | received data =>
    rw [TlsRandoms.step, handleEap, handleEapResponse]
    by_cases htls : IsTls 2 (eapPacket data)
    · have hkept := (hf htls).overhear_eq (eapPacket_append data) h.clientOk
      rw [← h.client] at hkept
      rw [if_pos htls.1, if_pos htls.2, hkept]
      exact ⟨_, rfl, rfl, h.server, length_overhear hkept h.clientLength, h.serverLength,
        (hf htls).ok_take h.clientOk, h.serverOk⟩
    rw [Carried.take_of_not htls]
    refine ⟨s, ?_, h⟩
    split
    · rename_i hcode
      rw [if_neg fun hrest => htls ⟨hcode, hrest⟩]
      rfl
    · rfl

/-- In an exchange whose frames are legible nothing is read beyond a frame, and the Randoms kept are
those of the last ClientHello and ServerHello carried.  So a supplicant that takes its Session-Id
from these hellos derives the CKN of the authenticator, from whatever MSK and addresses. -/
theorem overheard_randoms {frames : List Frame} (h : Along step Regular {} frames) :
    ∃ s, run step {} frames = .ok s ∧ s.sta.clientRandom = s.client.random ∧
      s.sta.serverRandom = s.server.random ∧
      ∀ omac1Aes128 msk ownAddr staAddr,
        notifyCreateActorCkn omac1Aes128 msk staAddr ownAddr
            (sessionId s.client.random s.server.random) =
          some (s.sta.ckn omac1Aes128 msk ownAddr staAddr) := by
  have hinit : Exchange.Inv {} := ⟨rfl, rfl, rfl, rfl, nofun, nofun⟩
  obtain ⟨s, hrun, hs⟩ := run_along_returns (fun s f hs hf => hs.step hf) hinit h
  refine ⟨s, hrun, hs.client, hs.server, ?_⟩
  rw [← hs.client, ← hs.server]
  exact notifyCreateActorCkn_eq hs.clientLength hs.serverLength

/-- An EAP-TLS packet with 43 octets of a hello. -/
def helloPacket (code : UInt8) (flags : Bytes) (hello : UInt8) (random : Bytes) :
    Bytes :=
  [code, 0, 0, UInt8.ofNat (48 + flags.length), 13] ++ flags ++
    [0x16, 3, 1, 0, 38, hello, 0, 0, 34, 3, 3] ++ random

/-- A ClientHello without a length field and a ServerHello with one. -/
def helloFrames : List Frame :=
  [.received (helloPacket 2 [0] 1 (replicate 32 7)),
    .sent 0 (helloPacket 1 [0x80, 0, 0, 0, 43] 2 (replicate 32 8))]

/-- An exchange with both hellos. -/
theorem overheard_randoms_hello :
    ∃ s, run step {} helloFrames = .ok s ∧ s.sta.clientRandom = s.client.random ∧
      s.sta.serverRandom = s.server.random ∧
      ∀ omac1Aes128 msk ownAddr staAddr,
        notifyCreateActorCkn omac1Aes128 msk staAddr ownAddr
            (sessionId s.client.random s.server.random) =
          some (s.sta.ckn omac1Aes128 msk ownAddr staAddr) := overheard_randoms (by decide)

/-- A ClientHello with a length field is not seen, and an Identity request is too short. -/
theorem overheard_randoms_missed :
    (∃ s, run step {} [.received (helloPacket 2 [0x80, 0, 0, 0, 43] 1 (replicate 32 7))] = .ok s ∧
      s.sta.clientRandom = replicate 32 0 ∧ s.client.random = replicate 32 7) ∧
    run step {} [.sent 0 [1, 0, 0, 5, 1]] = .error .overread :=
  ⟨⟨_, rfl, by decide, by decide⟩, rfl⟩

end Hostapd.Ap.TlsRandoms

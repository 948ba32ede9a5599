import Hostapd.Pae.Steps

/-!
# Participants and their key names

`ieee802_1x_kay_get_participant` compares as many octets as a participant's own CKN has, so it finds
the first participant whose CKN is a prefix of what it is given.  Exactly where that one has the
whole CKN does `ieee802_1x_kay_delete_mka` delete the participant with the CKN and no other one, and
is an MKPDU attributed to the participant with the CKN in its basic parameter set.
-/

namespace Hostapd.Pae

open Wire FirstMatch Machine List

/-- A basic parameter set carries a CKN, padded to a multiple of four octets. -/
def CarriesCkn (mka ckn : Bytes) : Prop :=
  (mka.drop sizeofBasicBody).take (paramSetLen mka - sizeofBasicBody) =
    ckn ++ replicate ((4 - ckn.length % 4) % 4) 0

instance (mka ckn : Bytes) : Decidable (CarriesCkn mka ckn) := inferInstanceAs (Decidable (_ = _))

variable {ps : List Participant} {octets ckn : Bytes}

/-- The lookup in 32 octets reads nothing behind them, and ends without a participant only if no CKN
begins them. -/
lemma getParticipant_of_le (hlen : 32 ≤ octets.length) :
    ∃ p?, getParticipant ps octets = .ok p? ∧
      (p? = none → ∀ p ∈ ps, ¬ p.ckn.octets <+: octets) := by
  induction ps with
  | nil => exact ⟨none, rfl, fun _ p hp => absurd hp not_mem_nil⟩
  | cons q ps ih =>
    obtain ⟨p?, hp, hnone⟩ := ih
    rw [getParticipant_cons (q.ckn.len_le.trans hlen)]
    split_ifs with hq
    · exact ⟨some q, rfl, nofun⟩
    · exact ⟨p?, hp, fun hp' => forall_mem_cons.mpr ⟨hq, hnone hp'⟩⟩

/-- Deleting the participant that is found by the CKN removes exactly those with this CKN if and
only if it has it. -/
lemma deleteParticipant_iff {s : System} {p : Participant}
    (hids : (s.participants.map Participant.id).Nodup)
    (hckns : (s.participants.map fun p => p.ckn.octets).Nodup) (hp : p ∈ s.participants) :
    ((deleteParticipant s p).participants = s.participants.filter fun q => q.ckn.octets != ckn) ↔
      p.ckn.octets = ckn := by
  rw [deleteParticipant, eraseP_key hids]
  dsimp only
  constructor
  · intro hsame
    by_contra hne
    have hkept : p ∈ s.participants.filter fun q => q.id != p.id := by
      rw [hsame]
      exact mem_filter.mpr ⟨hp, bne_iff_ne.mpr hne⟩
    simp at hkept
  · -- the addresses of participants are as different as their CKNs
    rintro rfl
    refine filter_congr fun q hq => ?_
    rw [Bool.eq_iff_iff, bne_iff_ne, bne_iff_ne, not_iff_not]
    exact ⟨fun hid => congrArg (·.ckn.octets) (inj_on_of_nodup_map hids hq hp hid),
      fun heq => congrArg Participant.id (inj_on_of_nodup_map hckns hq hp heq)⟩

/-- For a KaY whose participants have different CKNs and any CKN, `ieee802_1x_kay_delete_mka`
removes the participant that has the CKN and no other one if and only if the one found in the 32
octets of the name has it; and an MKPDU that carries a CKN is attributed only to a participant that
has it if and only if the one found in the octets from the CKN on does. -/
theorem participants_identified_by_ckn {s : System}
    (hids : (s.participants.map Participant.id).Nodup)
    (hckns : (s.participants.map fun p => p.ckn.octets).Nodup) :
    (∀ ckn : MkaKeyName,
      (∃ s', deleteMka s ckn = .ok s' ∧
        s'.participants = s.participants.filter fun p => p.ckn.octets != ckn.octets) ↔
      ∀ p, FoundByCkn s.participants ckn.name.val p → p.ckn.octets = ckn.octets) ∧
    ∀ mka ckn, CarriesCkn mka ckn →
      ((∀ p, getParticipant s.participants (mka.drop sizeofBasicBody) = .ok (some p) →
        p.ckn.octets = ckn) ↔
      ∀ p, FoundByCkn s.participants (mka.drop sizeofBasicBody) p → p.ckn.octets = ckn) := by
  refine ⟨fun ckn => ?_, fun mka ckn _ => by simp only [getParticipant_eq_some]⟩
  obtain ⟨p?, hfound, hnone⟩ := @getParticipant_of_le s.participants ckn.name.val (by simp)
  rw [deleteMka, hfound, Checked.ok_bind]
  cases p? with
  | none =>
    refine ⟨fun _ p hp => absurd hp.mem.2 (hnone rfl p hp.mem.1), fun _ => ⟨s, rfl, ?_⟩⟩
    refine (filter_eq_self.mpr fun p hp => bne_iff_ne.mpr fun heq => hnone rfl p hp ?_).symm
    exact heq ▸ take_prefix ckn.len ckn.name.val
  | some p =>
    have hp := getParticipant_eq_some.mp hfound
    have hunique : ∀ q, FoundByCkn s.participants ckn.name.val q → q = p := fun q hq =>
      Option.some.inj (Except.ok.inj ((getParticipant_eq_some.mpr hq).symm.trans hfound))
    have hexact := @deleteParticipant_iff ckn.octets s p hids hckns hp.mem.1
    refine ⟨?_, fun hall => ⟨_, rfl, hexact.mpr (hall p hp)⟩⟩
    rintro ⟨s', hs', hsame⟩ q hq
    cases hs'
    exact hunique q hq ▸ hexact.mp hsame

/-- A KaY with a participant for each of these CKNs. -/
def namedSystem (ckns : List MkaKeyName) : System :=
  let m := sampleMember (Octets.zero 6) (Octets.zero 12)
  { kay := m.kay
    cp := m.cp
    participants := ckns.mapIdx fun i ckn => { m.self with id := i, ckn := ckn } }

def shortName (a : UInt8) : MkaKeyName :=
  { sampleName with name := ⟨a :: replicate 31 0, rfl⟩ }

def longName (a b : UInt8) : MkaKeyName := ⟨⟨a :: b :: replicate 30 0, rfl⟩, 2, by decide⟩

/-- A participant with a CKN that begins like another one is deleted if it comes first. -/
theorem participants_identified_by_ckn_of_two :
    ∃ s', deleteMka (namedSystem [longName 1 2, shortName 1]) (longName 1 2) = .ok s' ∧
      s'.participants = (namedSystem [longName 1 2, shortName 1]).participants.filter
        fun p => p.ckn.octets != (longName 1 2).octets := by
  have hfound : Returns (getParticipant (namedSystem [longName 1 2, shortName 1]).participants
      (longName 1 2).name.val) fun p? => ∀ p ∈ p?, p.ckn.octets = (longName 1 2).octets := by
    decide +kernel
  obtain ⟨p?, hp?, hall⟩ := hfound
  refine ((participants_identified_by_ckn (by decide) (by decide)).1 _).mpr fun p hp => ?_
  exact hall p (Except.ok.inj (hp?.symm.trans (getParticipant_eq_some.mpr hp)) ▸ rfl)

/-- The participant whose CKN is a prefix of the one to delete is deleted in place of the
participant that has it. -/
theorem other_participant_deleted :
    ((namedSystem [shortName 1, longName 1 2]).participants.map fun p => p.ckn.octets).Nodup ∧
    ∃ s', deleteMka (namedSystem [shortName 1, longName 1 2]) (longName 1 2) = .ok s' ∧
      s'.participants.map (fun p => p.ckn.octets) = [(longName 1 2).octets] := by
  decide +kernel

end Hostapd.Pae

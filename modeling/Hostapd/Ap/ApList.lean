import Hostapd.Foundation.Index
import Hostapd.Foundation.Ring
import Hostapd.Utils.Time
import Hostapd.Wpa.Common

/-!
# The table of neighbouring access points

`src/ap/ap_list.c` remembers the access points whose beacons are received: on a doubly linked list
with the one seen last in front, and in hash chains for the search by address. `neighbour_table`
says that list, chains and count always agree and that the table is the bounded list of the
addresses last seen.

A beacon sets the flags for overlapping networks without ERP and without HT under conditions on the
channel; the timer, which clears them, repeats the one for ERP but not the one for HT.
`olbc_flags_justified` says exactly when the second flag is right.
-/

namespace Hostapd.Ap

open Wire Wpa Ring Index List Function

/-! ## Data -/

def wlanSuppRatesMax : ℕ := 32

/-- The mode of the hardware. -/
inductive HwMode | ieee80211b | ieee80211g | ieee80211a | ieee80211ad | any
deriving DecidableEq

/-- What is configured (`struct hostapd_config`), with the mode in use. -/
structure ApListConf where
  channel : UInt8
  secondaryChannel : ℤ := 0
  apTableMaxSize : ℤ := 255
  apTableExpirationTime : ℤ := 60
  currentMode : Option HwMode := some .ieee80211g

/-- What is known of an access point from its last beacon (`struct ap_info`); an ERP element that is
missing (-1) is none. -/
structure ApInfo where
  supportedRates : Bytes := replicate wlanSuppRatesMax 0
  erp : Option UInt8 := some 0
  channel : ℤ := 0
  htSupport : Bool := false
  lastBeacon : OsReltime := .ofSec 0

/-- The part of `struct hostapd_iface` about other access points. `live` are the addresses of
entries in use. -/
structure ApTable where
  links : Links ℕ := {}
  apHash : UInt8 → List ℕ := fun _ => []
  addr : ℕ → Mac := fun _ => .ofList 6 []
  info : ℕ → ApInfo := fun _ => {}
  numAp : ℤ := 0
  olbc : Bool := false
  olbcHt : Bool := false
  live : ℕ → Bool := fun _ => false
  clock : ℕ := 0

/-- A beacon: its elements, the channel it was received on, and the memory there is for a new
entry. -/
structure Beacon where
  bssid : Mac
  suppRates : Option Bytes := none
  extSuppRates : Option Bytes := none
  erpInfo : Option UInt8 := none
  dsParams : Option UInt8 := none
  htOperation : Option UInt8 := none
  htCapabilities : Bool := false
  fi : Option ℤ := none
  alloc : Option ℕ := none

def staHash (addr : Mac) : UInt8 := addr.val.getD 5 0

/-- Two arrays put together in one of `n` octets (`merge_byte_arrays`). -/
def mergeByteArrays (n : ℕ) (src₁ src₂ : Option Bytes) : Bytes :=
  let res := (src₁.getD [] ++ src₂.getD []).take n
  res ++ replicate (n - res.length) 0

/-- The access point needs protection of frames (`ap_list_beacon_olbc`). -/
def apListBeaconOlbc (conf : ApListConf) (ap : ApInfo) : Bool :=
  if conf.currentMode ≠ some .ieee80211g ∨ (conf.channel.toNat : ℤ) ≠ ap.channel then false
  else if ap.erp.any (· &&& 1 ≠ 0) then true
  else !ap.supportedRates.any fun r =>
    let rate := (r &&& 0x7f).toNat * 5
    rate == 60 || rate == 90 || 110 < rate

/-- The access point has no HT support and disturbs this one, as far as is known. -/
def apListBeaconOlbcHt (conf : ApListConf) (ap : ApInfo) : Bool :=
  !ap.htSupport &&
    (ap.channel == 0 || ap.channel == conf.channel.toNat ||
      ap.channel == conf.channel.toNat + conf.secondaryChannel * 4)

namespace ApTable

variable (conf : ApListConf) (s : ApTable)

/-! ## The table -/

def apGetAp (addr : Mac) : Option ℕ := (s.apHash (staHash addr)).find? (s.addr · == addr)

/-- Take an entry out of its chain, by its address, and off the list (`ap_free_ap`). -/
def apFreeAp (ap : ℕ) : ApTable :=
  let hash := staHash (s.addr ap)
  { s with
    apHash := update s.apHash hash ((s.apHash hash).eraseP (s.addr · == s.addr ap))
    links := s.links.remove ap
    numAp := s.numAp - 1
    live := update s.live ap false }

/-- Put a new entry on the list and in its chain: `ap_ap_add` before it looks at the size. -/
def apApLink (ap : ℕ) (addr : Mac) : ApTable :=
  { s with
    addr := update s.addr ap addr
    info := update s.info ap {}
    links := s.links.push ap
    numAp := s.numAp + 1
    apHash := update s.apHash (staHash addr) (ap :: s.apHash (staHash addr))
    live := update s.live ap true }

/-- Memory that is not in use (`os_zalloc`). -/
def osZalloc (alloc : Option ℕ) : Option ℕ := alloc.filter (!s.live ·)

/-- Add an entry; if the table is too large then, free the last one on the list (`ap_ap_add`). -/
def apApAdd (ap : ℕ) (addr : Mac) : ApTable :=
  let s := s.apApLink ap addr
  match s.links.prev ap with
  | some last => if conf.apTableMaxSize < s.numAp ∧ ap ≠ last then s.apFreeAp last else s
  | none => s

/-- The part of `ap_list_process_beacon` that fills an entry. -/
def noteBeacon (b : Beacon) (ap : ApInfo) : ApInfo where
  supportedRates := mergeByteArrays wlanSuppRatesMax b.suppRates b.extSuppRates
  erp := b.erpInfo
  channel :=
    match b.dsParams, b.htOperation, b.fi with
    | some channel, _, _ | none, some channel, _ => channel.toNat
    | none, none, some channel => channel
    | none, none, none => ap.channel
  htSupport := b.htCapabilities
  lastBeacon := osGetReltime s.clock

/-- What is done with the entry of a beacon, be it new or not. -/
def seen (b : Beacon) (ap : ℕ) : ApTable :=
  let info := s.noteBeacon b (s.info ap)
  { s with
    info := update s.info ap info
    -- a new entry is in front already
    links := if s.links.head = some ap then s.links else (s.links.remove ap).push ap
    olbc := s.olbc || apListBeaconOlbc conf info
    olbcHt := s.olbcHt || apListBeaconOlbcHt conf info }

/-- `ap_list_process_beacon`. -/
def apListProcessBeacon (b : Beacon) : ApTable :=
  if conf.apTableMaxSize < 1 then s
  else
    match s.apGetAp b.bssid, s.osZalloc b.alloc with
    | some ap, _ => s.seen conf b ap
    | none, some ap => (s.apApAdd conf ap b.bssid).seen conf b ap
    | none, none => s

/-- The entry is too old. -/
def expired (ap : ℕ) : Bool :=
  osReltimeExpired (osGetReltime s.clock) (s.info ap).lastBeacon conf.apTableExpirationTime

/-- Free the last entry as long as it has expired, at most `fuel` times. -/
def expire : ℕ → ApTable → ApTable
  | 0, s => s
  | fuel + 1, s =>
    match s.links.head.bind s.links.prev with
    | none => s
    | some ap => if s.expired conf ap then expire fuel (s.apFreeAp ap) else s

/-- Look along the list for reasons to keep the flags, at most `fuel` entries far. -/
def detect : ℕ → Option ℕ → Bool × Bool → Bool × Bool
  | fuel + 1, some ap, (olbc, olbcHt) =>
    if olbc && olbcHt then (olbc, olbcHt)
    else
      detect fuel (s.links.next ap)
        (olbc || apListBeaconOlbc conf (s.info ap), olbcHt || !(s.info ap).htSupport)
  | _, _, flags => flags

/-- Clear the flags that there is no reason for any more. -/
def clearFlags : ApTable :=
  if s.olbc || s.olbcHt then
    let flags := s.detect conf s.numAp.toNat s.links.head (false, false)
    { s with olbc := s.olbc && flags.1, olbcHt := s.olbcHt && flags.2 }
  else s

/-- `ap_list_timer`. -/
def apListTimer : ApTable :=
  if s.links.head = none then s else (expire conf s.numAp.toNat s).clearFlags conf

/-! ## Runs -/

/-- Time passes, a beacon is received, or the timer runs. -/
inductive Event
  | elapse (micros : ℕ)
  | beacon (b : Beacon)
  | timer

/-- One event. -/
def step : Event → ApTable
  | .elapse micros => { s with clock := s.clock + micros }
  | .beacon b => s.apListProcessBeacon conf b
  | .timer => s.apListTimer conf

def run (es : List Event) : ApTable := es.foldl (step conf) {}

def aps : List ℕ := s.links.elements s.numAp.toNat s.links.head

def addrs : List Mac := s.aps.map s.addr

/-! ## List, chains and count -/

/-- The list, the chains, the count and the memory in use are those of the entries `l`. -/
structure Linked (s : ApTable) (l : List ℕ) : Prop where
  links : s.links.Holds l
  registered : Registered staHash s.addr l s.apHash s.numAp s.live

section Linked

variable {conf s} {l : List ℕ} {ap : ℕ} {addr : Mac}

section

variable (h : Linked s l)

include h

lemma Linked.length_eq : s.numAp.toNat = l.length := by
  rw [h.registered.count_eq, Int.toNat_natCast]

lemma Linked.aps_eq : s.aps = l := by
  rw [aps, h.length_eq]
  exact h.links.forward.elements_eq

lemma Linked.free (hap : ap ∈ l) : Linked (s.apFreeAp ap) (l.erase ap) :=
  ⟨h.links.remove hap, h.registered.unlink hap⟩

/-- Adding an entry drops what there is no room for any more. -/
lemma Linked.add (hap : ap ∉ l) (haddr : addr ∉ l.map s.addr) (hpos : 1 ≤ conf.apTableMaxSize)
    (hsize : l.length ≤ conf.apTableMaxSize.toNat) :
    Linked (s.apApAdd conf ap addr) ((ap :: l).take conf.apTableMaxSize.toNat) := by
  have hlink : Linked (s.apApLink ap addr) (ap :: l) :=
    ⟨h.links.push hap, h.registered.link hap haddr⟩
  have hlast : (s.apApLink ap addr).links.prev ap = (ap :: l).getLast? := hlink.links.backward.1
  obtain rfl | ⟨l, last, rfl⟩ := eq_nil_or_concat' l
  · rw [take_of_length_le (by simp; omega)]
    simpa [apApAdd, hlast] using hlink
  have hne : ap ≠ last := fun heq => hap (heq ▸ by simp)
  have hcount := hlink.registered.count_eq
  rw [← cons_append] at hlink hlast hcount ⊢
  rw [getLast?_concat] at hlast
  simp only [apApAdd, hlast, hne, ne_eq, not_false_eq_true, and_true, hcount]
  split_ifs with hfull
  · have hnot : last ∉ ap :: l := fun hmem =>
      disjoint_of_nodup_append hlink.links.nodup hmem mem_cons_self
    have hfree := hlink.free (mem_append_right (ap :: l) (mem_singleton_self last))
    rw [erase_append_right _ hnot, erase_cons_head, append_nil] at hfree
    rw [take_left' (by simp_all; omega)]
    exact hfree
  · rw [take_of_length_le (by omega)]
    exact hlink

lemma Linked.seen (hap : ap ∈ l) (b : Beacon) : Linked (s.seen conf b ap) (ap :: l.erase ap) := by
  refine ⟨?_, h.registered.perm (perm_cons_erase hap).symm⟩
  show Links.Holds (if _ then _ else _) _
  split_ifs with hhead
  · rw [h.links.head_eq] at hhead
    obtain ⟨t, rfl⟩ := head?_eq_some_iff.mp hhead
    rw [erase_cons_head]
    exact h.links
  · exact (h.links.remove hap).push h.links.nodup.not_mem_erase

end

/-! ## Order and size -/

/-- The entries `l` are in order, the ones seen last first. -/
structure Recent (s : ApTable) (l : List ℕ) : Prop where
  sorted : l.Pairwise fun a b => (s.info b).lastBeacon.micros ≤ (s.info a).lastBeacon.micros
  past : ∀ ap ∈ l, (s.info ap).lastBeacon.micros ≤ s.clock

lemma Recent.sublist {l' : List ℕ} (h : Recent s l) (hsub : l'.Sublist l) : Recent s l' :=
  ⟨h.sorted.sublist hsub, fun ap hap => h.past ap (hsub.subset hap)⟩

lemma Recent.congr {s' : ApTable} (h : Recent s l) (hinfo : ∀ ap ∈ l, s'.info ap = s.info ap)
    (hclock : s.clock ≤ s'.clock) : Recent s' l where
  sorted := h.sorted.imp_of_mem fun ha hb hle => by rwa [hinfo _ ha, hinfo _ hb]
  past ap hap := by
    rw [hinfo ap hap]
    exact (h.past ap hap).trans (Int.ofNat_le.mpr hclock)

/-- The table is in order and no larger than configured; without entries no flag is set. -/
structure Consistent (conf : ApListConf) (s : ApTable) (l : List ℕ) : Prop
    extends Linked s l, Recent s l where
  size : l.length ≤ conf.apTableMaxSize.toNat
  flags : l = [] → s.olbc = false ∧ s.olbcHt = false

/-- What a beacon does if the entries other than its own are in order. -/
lemma Linked.consistent_seen (h : Linked s l) (hap : ap ∈ l) (b : Beacon)
    (hsize : l.length ≤ conf.apTableMaxSize.toNat) (hrecent : Recent s (l.erase ap)) :
    Consistent conf (s.seen conf b ap) (ap :: l.erase ap) := by
  have hrest : Recent (s.seen conf b ap) (l.erase ap) := hrecent.congr (fun a ha =>
    update_of_ne (ne_of_mem_of_not_mem ha h.links.nodup.not_mem_erase) ..) le_rfl
  have hclock : ((s.seen conf b ap).info ap).lastBeacon.micros = s.clock := by
    simp [ApTable.seen, noteBeacon]
  refine ⟨h.seen hap b, ⟨pairwise_cons.mpr ⟨fun a ha => ?_, hrest.sorted⟩, ?_⟩, ?_, nofun⟩
  · rw [hclock]
    exact hrest.past a ha
  · exact forall_mem_cons.mpr ⟨hclock.le, hrest.past⟩
  · rwa [(perm_cons_erase hap).symm.length_eq]

variable (conf s ap addr) in
lemma apApAdd_frame : (s.apApAdd conf ap addr).addr = update s.addr ap addr ∧
    (s.apApAdd conf ap addr).info = update s.info ap {} ∧
    (s.apApAdd conf ap addr).clock = s.clock := by
  unfold apApAdd
  dsimp only
  split
  · split_ifs <;> exact ⟨rfl, rfl, rfl⟩
  · exact ⟨rfl, rfl, rfl⟩

/-- The beacon of an access point that is new to the table. -/
lemma Consistent.beacon_new (h : Consistent conf s l) {b : Beacon} (hap : ap ∉ l)
    (haddr : b.bssid ∉ l.map s.addr) (hpos : 1 ≤ conf.apTableMaxSize) :
    ∃ l', Consistent conf ((s.apApAdd conf ap b.bssid).seen conf b ap) l' ∧
      l'.map ((s.apApAdd conf ap b.bssid).seen conf b ap).addr =
        (b.bssid :: l.map s.addr).take conf.apTableMaxSize.toNat := by
  obtain ⟨n, hn⟩ : ∃ n, conf.apTableMaxSize.toNat = n + 1 :=
    Nat.exists_eq_succ_of_ne_zero (by omega)
  have hadd := h.add hap haddr hpos h.size
  obtain ⟨haddrs, hinfo, hclock⟩ := apApAdd_frame conf s ap b.bssid
  rw [hn, take_succ_cons] at hadd
  have hne : ∀ a ∈ l.take n, a ≠ ap := fun a ha => ne_of_mem_of_not_mem (mem_of_mem_take ha) hap
  have hrecent : Recent (s.apApAdd conf ap b.bssid) (l.take n) :=
    (h.toRecent.sublist (take_sublist n l)).congr
      (fun a ha => by rw [hinfo, update_of_ne (hne a ha)]) hclock.ge
  rw [← erase_cons_head ap (l.take n)] at hrecent
  have hlength : (ap :: l.take n).length ≤ conf.apTableMaxSize.toNat := by simp [hn]
  refine ⟨_, hadd.consistent_seen mem_cons_self b hlength hrecent, ?_⟩
  show map (s.apApAdd conf ap b.bssid).addr _ = _
  rw [hn, take_succ_cons, erase_cons_head, map_cons, haddrs, update_self, ← map_take]
  exact congrArg _ (map_congr_left fun a ha => update_of_ne (hne a ha) ..)

/-- A beacon puts its address in front, and drops the last one if there is no room for all. -/
lemma Consistent.beacon (h : Consistent conf s l) (b : Beacon) :
    ∃ l', Consistent conf (s.apListProcessBeacon conf b) l' ∧
      l'.map (s.apListProcessBeacon conf b).addr =
        if b.bssid ∉ l.map s.addr ∧ s.osZalloc b.alloc = none then l.map s.addr
        else (b.bssid :: (l.map s.addr).erase b.bssid).take conf.apTableMaxSize.toNat := by
  have hsize := h.size
  rw [apListProcessBeacon]
  by_cases hmax : conf.apTableMaxSize < 1
  · rw [if_pos hmax]
    rw [Int.toNat_of_nonpos (by omega)] at hsize ⊢
    exact ⟨l, h, by simp [length_eq_zero_iff.mp (Nat.le_zero.mp hsize)]⟩
  rw [if_neg hmax]
  cases hget : s.apGetAp b.bssid with
  | some ap =>
    obtain ⟨hap, haddr⟩ := h.registered.find?_eq_some.mp hget
    have hmem : b.bssid ∈ l.map s.addr := mem_map.mpr ⟨ap, hap, haddr⟩
    refine ⟨_, h.consistent_seen hap b h.size (h.toRecent.sublist erase_sublist), ?_⟩
    show (ap :: l.erase ap).map s.addr = _
    rw [if_neg (by simp [hmem]), map_cons, map_erase_of_nodup h.registered.names hap, haddr,
      take_of_length_le]
    rwa [(perm_cons_erase hmem).symm.length_eq, length_map]
  | none =>
    have haddr : b.bssid ∉ l.map s.addr := h.registered.find?_eq_none hget
    cases hz : s.osZalloc b.alloc with
    | none => exact ⟨l, h, by simp [haddr]⟩
    | some ap =>
      rw [if_neg (by simp), erase_of_not_mem haddr]
      exact h.beacon_new (h.registered.not_mem_of_alloc hz) haddr (by omega)

/-! ## Expiry -/

/-- What has expired is at the end of the list and is freed. -/
lemma Linked.expire {fuel : ℕ} (h : Linked s l) (hrecent : Recent s l) (hfuel : l.length ≤ fuel) :
    Linked (expire conf fuel s) (l.filter (!s.expired conf ·)) := by
  induction l using reverseRecOn generalizing s fuel with
  | nil =>
    have hhead : s.links.head = none := h.links.forward
    cases fuel <;> simpa [ApTable.expire, hhead] using h
  | append_singleton l last ih =>
    obtain ⟨fuel, rfl⟩ : ∃ n, fuel = n + 1 := Nat.exists_eq_succ_of_ne_zero (by simp_all; omega)
    have hlast : s.links.head.bind s.links.prev = some last := by
      rw [h.links.prev_head, getLast?_concat]
    rw [ApTable.expire, hlast]
    dsimp only
    split_ifs with hexp
    · have hnot : last ∉ l := fun hmem =>
        disjoint_of_nodup_append h.links.nodup hmem mem_cons_self
      have hfree := h.free (mem_append_right l (mem_singleton_self last))
      rw [erase_append_right _ hnot, erase_cons_head, append_nil] at hfree
      have hrest : Linked (expire conf fuel (s.apFreeAp last)) (l.filter (!s.expired conf ·)) :=
        ih hfree ((hrecent.sublist (sublist_append_left l _)).congr (fun _ _ => rfl) le_rfl)
          (by simpa using hfuel)
      simpa [hexp] using hrest
    · have hkept : ∀ ap ∈ l ++ [last], !s.expired conf ap := fun ap hap => by
        have hle : (s.info last).lastBeacon.micros ≤ (s.info ap).lastBeacon.micros := by
          obtain hap | rfl := (mem_append.mp hap).imp_right mem_singleton.mp
          · exact (pairwise_append.mp hrecent.sorted).2.2 ap hap last (mem_singleton_self last)
          · exact le_rfl
        simp only [expired, Bool.not_eq_true', ← Bool.not_eq_true, osReltimeExpired_iff] at hexp ⊢
        omega
      rwa [filter_eq_self.mpr hkept]

/-- The loop of the timer over the flags. -/
lemma detect_eq {fuel : ℕ} {p : Option ℕ} {x y : Bool} (h : Links.Forward s.links.next p l)
    (hfuel : l.length ≤ fuel) :
    s.detect conf fuel p (x, y) =
      (x || l.any fun ap => apListBeaconOlbc conf (s.info ap),
        y || l.any fun ap => !(s.info ap).htSupport) := by
  induction l generalizing fuel p x y with
  | nil =>
    rw [show p = none from h]
    cases fuel <;> simp [detect]
  | cons ap l ih =>
    obtain ⟨fuel, rfl⟩ : ∃ n, fuel = n + 1 := Nat.exists_eq_succ_of_ne_zero (by simp_all; omega)
    rw [h.1, detect]
    split_ifs with hboth
    · simp_all
    · rw [ih h.2 (by simpa using hfuel)]
      simp [Bool.or_assoc]

variable (conf s) in
lemma expire_frame (fuel : ℕ) :
    (expire conf fuel s).info = s.info ∧ (expire conf fuel s).clock = s.clock ∧
      (expire conf fuel s).olbc = s.olbc ∧ (expire conf fuel s).olbcHt = s.olbcHt := by
  induction fuel generalizing s with
  | zero => exact ⟨rfl, rfl, rfl, rfl⟩
  | succ fuel ih =>
    unfold expire
    split
    · exact ⟨rfl, rfl, rfl, rfl⟩
    · split_ifs
      · exact ih _
      · exact ⟨rfl, rfl, rfl, rfl⟩

lemma Linked.clearFlags_eq (h : Linked s l) : s.clearFlags conf =
    { s with
      olbc := s.olbc && l.any fun ap => apListBeaconOlbc conf (s.info ap)
      olbcHt := s.olbcHt && l.any fun ap => !(s.info ap).htSupport } := by
  rw [clearFlags, detect_eq h.links.forward h.length_eq.ge]
  split_ifs with hset
  · rfl
  · obtain ⟨holbc, hht⟩ : s.olbc = false ∧ s.olbcHt = false := by simpa using hset
    cases s
    simp_all

variable (conf s) in
lemma apListTimer_frame :
    (s.apListTimer conf).info = s.info ∧ (s.apListTimer conf).clock = s.clock := by
  unfold apListTimer clearFlags
  split_ifs
  · exact ⟨rfl, rfl⟩
  all_goals
    obtain ⟨hinfo, hclock, -⟩ := expire_frame conf s s.numAp.toNat
    exact ⟨hinfo, hclock⟩

/-- The timer removes the entries that have expired and leaves the flags that the others ask for. -/
lemma Consistent.timer_eq (h : Consistent conf s l) :
    ∃ t, Linked t (l.filter (!s.expired conf ·)) ∧ t.info = s.info ∧ t.olbc = s.olbc ∧
      t.olbcHt = s.olbcHt ∧ s.apListTimer conf = t.clearFlags conf := by
  rw [apListTimer]
  split_ifs with hnone
  · rw [h.links.head_eq, head?_eq_none_iff] at hnone
    subst hnone
    refine ⟨s, h.toLinked, rfl, rfl, rfl, ?_⟩
    rw [clearFlags, (h.flags rfl).1, (h.flags rfl).2]
    rfl
  · obtain ⟨hinfo, -, holbc, hht⟩ := expire_frame conf s s.numAp.toNat
    exact ⟨_, h.toLinked.expire h.toRecent h.length_eq.ge, hinfo, holbc, hht, rfl⟩

lemma Consistent.timer (h : Consistent conf s l) :
    Consistent conf (s.apListTimer conf) (l.filter (!s.expired conf ·)) := by
  obtain ⟨hinfo, hclock⟩ := apListTimer_frame conf s
  have hrecent : Recent (s.apListTimer conf) (l.filter (!s.expired conf ·)) :=
    (h.toRecent.sublist filter_sublist).congr (fun ap _ => congrFun hinfo ap) hclock.ge
  obtain ⟨t, hlinked, -, -, -, heq⟩ := h.timer_eq
  rw [heq, hlinked.clearFlags_eq] at hrecent ⊢
  refine ⟨{ hlinked with }, hrecent, (length_filter_le ..).trans h.size, fun hnil => ?_⟩
  simp [hnil]

/-- The flags after the timer: those there were, as far as an entry that has not expired keeps
them. -/
lemma Consistent.timer_flags (h : Consistent conf s l) :
    (s.apListTimer conf).olbc =
        (s.olbc && l.any fun ap => !s.expired conf ap && apListBeaconOlbc conf (s.info ap)) ∧
      (s.apListTimer conf).olbcHt =
        (s.olbcHt && l.any fun ap => !s.expired conf ap && !(s.info ap).htSupport) := by
  obtain ⟨t, hlinked, hinfo, holbc, hht, heq⟩ := h.timer_eq
  rw [heq, hlinked.clearFlags_eq]
  simp only [hinfo, holbc, hht, any_filter, and_self]

/-! ## Runs -/

lemma Consistent.step (h : Consistent conf s l) (e : Event) :
    ∃ l', Consistent conf (s.step conf e) l' := by
  cases e with
  | elapse micros =>
    have hrecent : Recent (s.step conf (.elapse micros)) l :=
      h.toRecent.congr (fun _ _ => rfl) (Nat.le_add_right ..)
    exact ⟨l, { h.toLinked, hrecent with size := h.size, flags := h.flags }⟩
  | beacon b => exact (h.beacon b).imp fun _ => And.left
  | timer => exact ⟨_, h.timer⟩

variable (conf) in
lemma consistent_run (es : List Event) : ∃ l, Consistent conf (run conf es) l := by
  have hinit : Consistent conf {} [] :=
    ⟨⟨.nil, .nil⟩, ⟨.nil, nofun⟩, Nat.zero_le _, fun _ => ⟨rfl, rfl⟩⟩
  refine foldlRecOn (motive := fun s => ∃ l, Consistent conf s l) es _ ⟨[], hinit⟩ ?_
  exact fun _ ⟨_, hs⟩ e _ => hs.step e

end Linked

/-- After any sequence of events the links, the chains and the count are those of the entries in the
order in which they were last seen. A beacon puts its address in front; what there is no room for
then is the oldest. The timer removes exactly the entries that are too old. -/
theorem neighbour_table (es : List Event) :
    let s := run conf es
    s.Consistent conf s.aps ∧ s.links.head.bind s.links.prev = s.aps.getLast? ∧
      (∀ b, (s.step conf (.beacon b)).addrs =
        if b.bssid ∉ s.addrs ∧ s.osZalloc b.alloc = none then s.addrs
        else (b.bssid :: s.addrs.erase b.bssid).take conf.apTableMaxSize.toNat) ∧
      let t := s.step conf .timer
      t.aps = s.aps.filter (!s.expired conf ·) ∧
        ∀ ap ∈ t.aps,
          t.clock - (t.info ap).lastBeacon.micros ≤ conf.apTableExpirationTime * 1000000 := by
  intro s
  obtain ⟨l, h⟩ : ∃ l, Consistent conf s l := consistent_run conf es
  have haps := h.aps_eq
  subst haps
  refine ⟨h, h.links.prev_head, fun b => ?_, h.timer.aps_eq, fun ap hap => ?_⟩
  · obtain ⟨l', hl', hmap⟩ := h.beacon b
    rw [show (s.step conf (.beacon b)).addrs = _ from congrArg (map _) hl'.aps_eq]
    exact hmap
  obtain ⟨hinfo, hclock⟩ := apListTimer_frame conf s
  have hkept := (mem_filter.mp (h.timer.aps_eq ▸ hap)).2
  rw [expired, Bool.not_eq_true', ← Bool.not_eq_true, osReltimeExpired_iff] at hkept
  rw [show (s.step conf .timer).info = s.info from hinfo,
    show (s.step conf .timer).clock = s.clock from hclock]
  simpa using hkept

/-- An access point in the table that has not expired, with this property of its last beacon. -/
def Left (p : ApInfo → Bool) : Prop := ∃ ap ∈ s.aps, s.expired conf ap = false ∧ p (s.info ap)

/-- After the timer has run the flag for networks without ERP is set only if some access point in
the table asks for it.  So is the flag for networks without HT exactly if, with the flag set and an
access point without HT support that has not expired, there is such a one on a channel of this
network or on an unknown one. -/
theorem olbc_flags_justified (es : List Event) :
    let s := run conf es
    let t := run conf (es ++ [.timer])
    (t.olbc → ∃ ap ∈ t.aps, apListBeaconOlbc conf (t.info ap)) ∧
      ((t.olbcHt → ∃ ap ∈ t.aps, apListBeaconOlbcHt conf (t.info ap)) ↔
        (s.olbcHt → s.Left conf (fun ap => !ap.htSupport) →
          s.Left conf (apListBeaconOlbcHt conf))) := by
  intro s t
  obtain ⟨l, h⟩ : ∃ l, Consistent conf s l := consistent_run conf es
  have ht : t = s.apListTimer conf := by simp [s, t, run, step]
  have hleft : ∀ p : ApInfo → Bool,
      (∃ ap ∈ t.aps, p (t.info ap)) ↔ s.Left conf p := by
    intro p
    rw [ht, h.timer.aps_eq, (apListTimer_frame conf s).1, Left, h.aps_eq]
    simp only [mem_filter, Bool.not_eq_true', and_assoc]
  obtain ⟨holbc, hht⟩ := h.timer_flags
  rw [← ht] at holbc hht
  have hkept : t.olbcHt ↔ s.olbcHt ∧ s.Left conf fun ap => !ap.htSupport := by
    rw [hht, Bool.and_eq_true, any_eq_true, Left, h.aps_eq]
    simp only [Bool.and_eq_true, Bool.not_eq_true']
  refine ⟨fun hset => ?_, ?_⟩
  · rw [holbc, Bool.and_eq_true, any_eq_true] at hset
    obtain ⟨ap, hap, hasks⟩ := hset.2
    rw [hleft, Left, h.aps_eq]
    exact ⟨ap, hap, by simpa using hasks⟩
  · rw [hleft, hkept, and_imp]

def sampleBeacon : Beacon := { bssid := .ofList 6 [1], dsParams := some 1, alloc := some 0 }

/-- A beacon on the channel, and the timer. -/
theorem olbc_flags_justified_once :
    let conf : ApListConf := { channel := 1 }
    let s := run conf ([.beacon sampleBeacon] ++ [.timer])
    s.olbcHt ∧ ∃ ap ∈ s.aps, apListBeaconOlbcHt conf (s.info ap) :=
  ⟨by decide, (olbc_flags_justified { channel := 1 } [.beacon sampleBeacon]).2.mpr
    (fun _ _ => ⟨0, by decide, by decide, by decide⟩) (by decide)⟩

/-- The only access point on the channel has expired; one on another channel, which would not have
set the flag, keeps it. -/
theorem olbc_ht_kept_for_other_channel :
    let conf : ApListConf := { channel := 1 }
    let other := { sampleBeacon with bssid := .ofList 6 [2], dsParams := some 11, alloc := some 1 }
    let s := run conf [.beacon sampleBeacon, .elapse 61000000, .beacon other, .timer]
    s.olbcHt ∧ s.aps = [1] ∧ ∀ ap ∈ s.aps, apListBeaconOlbcHt conf (s.info ap) = false := by
  decide

end ApTable

end Hostapd.Ap

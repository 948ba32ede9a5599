import Hostapd.Foundation.Octets

/-!
# Escaped strings

`printf_encode`, `printf_decode`, `utf8_escape` and `utf8_unescape` (`src/utils/common.c`).  A text
ends with its terminator or where its octets end.
-/

namespace Hostapd.Utils

open Wire List

/-- A hexadecimal digit, in lower case. -/
def hexDigit (n : UInt8) : UInt8 := if n < 10 then 48 + n else 87 + n

/-- The characters for an octet in `printf_encode`. -/
def printfEscape (b : UInt8) : Bytes :=
  if b = 0x22 then [0x5c, 0x22]
  else if b = 0x5c then [0x5c, 0x5c]
  else if b = 0x1b then [0x5c, 0x65]
  else if b = 0x0a then [0x5c, 0x6e]
  else if b = 0x0d then [0x5c, 0x72]
  else if b = 0x09 then [0x5c, 0x74]
  else if 32 ≤ b ∧ b ≤ 126 then [b]
  else [0x5c, 0x78, hexDigit (b / 16), hexDigit (b % 16)]

/-- What `printf_encode` writes when `room` octets are left. -/
def printfEncode (room : ℕ) : Bytes → Bytes
  | [] => [0]
  | b :: data =>
    if room ≤ 4 then [0]
    else printfEscape b ++ printfEncode (room - (printfEscape b).length) data

/-- `hex2num`. -/
def hex2num (c : UInt8) : Option UInt8 :=
  if 48 ≤ c ∧ c ≤ 57 then some (c - 48)
  else if 97 ≤ c ∧ c ≤ 102 then some (c - 87)
  else if 65 ≤ c ∧ c ≤ 70 then some (c - 55)
  else none

/-- `hex2byte`. -/
def hex2byte (hex : Bytes) : Option UInt8 := do
  let a ← hex2num (hex.getD 0 0)
  let b ← hex2num (hex.getD 1 0)
  return a <<< 4 ||| b

/-- At most `n` octal digits behind others with the value `val`. -/
def octalDigits : ℕ → UInt8 → Bytes → UInt8 × Bytes
  | n + 1, val, c :: pos =>
    if 48 ≤ c ∧ c ≤ 55 then octalDigits n (val * 8 + (c - 48)) pos else (val, c :: pos)
  | _, val, pos => (val, pos)

/-- The octet for the characters behind a backslash, if they are an escape sequence, and those
behind them. -/
def printfUnescape : Bytes → Bytes × Bytes
  | [] => ([], [])
  | c :: pos =>
    if c = 0x5c ∨ c = 0x22 then ([c], pos)
    else if c = 0x6e then ([0x0a], pos)
    else if c = 0x72 then ([0x0d], pos)
    else if c = 0x74 then ([0x09], pos)
    else if c = 0x65 then ([0x1b], pos)
    else if c = 0x78 then
      match hex2byte pos, hex2num (pos.getD 0 0) with
      | some val, _ => ([val], pos.drop 2)
      | none, some val => ([val], pos.drop 1)
      | none, none => ([], pos)
    else if 48 ≤ c ∧ c ≤ 55 then
      let r := octalDigits 2 (c - 48) pos
      ([r.1], r.2)
    else ([], c :: pos)

lemma length_octalDigits (n : ℕ) (val : UInt8) (pos : Bytes) :
    (octalDigits n val pos).2.length ≤ pos.length := by
  fun_induction octalDigits n val pos <;> grind

lemma length_printfUnescape (pos : Bytes) : (printfUnescape pos).2.length ≤ pos.length := by
  fun_cases printfUnescape pos <;> grind [length_octalDigits]

/-- What `printf_decode` stores when there is room for `room` octets. -/
def printfDecode (room : ℕ) : Bytes → Bytes
  | [] => []
  | c :: pos =>
    if c = 0 ∨ room ≤ 1 then []
    else if c = 0x5c then
      (printfUnescape pos).1 ++
        printfDecode (room - (printfUnescape pos).1.length) (printfUnescape pos).2
    else c :: printfDecode (room - 1) pos
termination_by str => str.length
decreasing_by
  · exact Nat.lt_succ_of_le (length_printfUnescape pos)
  · exact Nat.lt_succ_self _

/-- The characters that the arguments of `utf8_escape` and `utf8_unescape` stand for. -/
def given (inp : Bytes) (inSize : ℕ) : Bytes :=
  if inSize = 0 then inp.takeWhile (· ≠ 0) else inp.take inSize

/-- What a call has done to its output buffer: the octets that it stored, and the size that it
returned. -/
structure Filled where
  stored : Bytes
  size : ℕ

/-- The octets that the returned size covers. -/
def Filled.text (out : Filled) : Bytes := out.stored.take out.size

/-- The end of `utf8_escape` and of `utf8_unescape`, with what their loop stored and whether it came
to an end: a terminator is stored if space allows; a loop that gave up returns 0. -/
def finish (outSize : ℕ) (loop : Bytes × Bool) : Filled :=
  if loop.2 then ⟨if loop.1.length < outSize then loop.1 ++ [0] else loop.1, loop.1.length⟩
  else ⟨loop.1, 0⟩

/-- The loop of `utf8_escape`, with `room` octets left: what it stores, and whether there is room
for all characters. -/
def escapeLoop (room : ℕ) : Bytes → Bytes × Bool
  | [] => ([], true)
  | c :: inp =>
    if room = 0 then ([], false)
    else if c = 0x5c ∨ c = 0x27 then
      if room = 1 then ([], false) else (escapeLoop (room - 2) inp).map ([0x5c, c] ++ ·) id
    else (escapeLoop (room - 1) inp).map (c :: ·) id

/-- `utf8_escape`. -/
def utf8Escape (inp : Bytes) (inSize outSize : ℕ) : Filled :=
  finish outSize (escapeLoop outSize (given inp inSize))

/-- The loop of `utf8_unescape`.  It ends at a bare quote, and gives up at a backslash behind which
there is nothing. -/
def unescapeLoop (room : ℕ) : Bytes → Bytes × Bool
  | [] => ([], true)
  | c :: inp =>
    if room = 0 then ([], false)
    else if c = 0x27 then ([], true)
    else if c = 0x5c then
      match inp with
      | [] => ([], false)
      | c :: inp => (unescapeLoop (room - 1) inp).map (c :: ·) id
    else (unescapeLoop (room - 1) inp).map (c :: ·) id

/-- `utf8_unescape`, which skips a quote in front. -/
def utf8Unescape (inp : Bytes) (inSize outSize : ℕ) : Filled :=
  let inp := given inp inSize
  finish outSize (unescapeLoop outSize (if inp.head? = some 0x27 then inp.tail else inp))

lemma length_printfEscape (b : UInt8) :
    1 ≤ (printfEscape b).length ∧ (printfEscape b).length ≤ 4 := by
  unfold printfEscape
  split_ifs <;> simp

lemma length_printfEncode {room : ℕ} (hroom : 1 ≤ room) (data : Bytes) :
    (printfEncode room data).length ≤ room := by
  fun_induction printfEncode room data with
  | case1 => simpa
  | case2 => simpa
  | case3 room b data hfull ih =>
    have hlen := length_printfEscape b
    have hrest := ih (by omega)
    rw [length_append]
    omega

/-- All 256 octets are read back from their two digits. -/
lemma hex2byte_hexDigit (b : UInt8) (rest : Bytes) :
    hex2byte (hexDigit (b / 16) :: hexDigit (b % 16) :: rest) = some b := by
  have hall : ∀ n < 256, hex2byte [hexDigit (UInt8.ofNat n / 16), hexDigit (UInt8.ofNat n % 16)] =
      some (UInt8.ofNat n) := by decide +kernel
  have hb := hall b.toNat b.toNat_lt
  rwa [UInt8.ofNat_toNat] at hb

lemma printfDecode_printfEscape {room : ℕ} (hroom : 1 < room) (b : UInt8) (rest : Bytes) :
    printfDecode room (printfEscape b ++ rest) = b :: printfDecode (room - 1) rest := by
  have hstop : ¬ room ≤ 1 := by omega
  unfold printfEscape
  split_ifs with hquote hslash hesc hnl hcr htab hplain
  all_goals
    rw [cons_append, printfDecode]
    simp_all [printfUnescape, hex2byte_hexDigit]
  rintro rfl
  exact absurd hplain.1 (by decide)

/-- What is read back of a text that was cut is the beginning of what was written. -/
lemma printfDecode_printfEncode (room room' : ℕ) (data : Bytes) (hroom' : data.length < room') :
    ∃ n, printfDecode room' (printfEncode room data) = data.take n ∧
      (4 * data.length < room → data.take n = data) := by
  induction data generalizing room room' with
  | nil => exact ⟨0, by simp [printfEncode, printfDecode]⟩
  | cons b data ih =>
    rw [length_cons] at hroom'
    rw [printfEncode]
    split
    · exact ⟨0, by simp [printfDecode], by rw [length_cons]; omega⟩
    · obtain ⟨n, hn, hall⟩ := ih (room - (printfEscape b).length) (room' - 1) (by omega)
      have hlen := length_printfEscape b
      refine ⟨n + 1, by rw [printfDecode_printfEscape (by omega), hn, take_succ_cons], fun h => ?_⟩
      rw [take_succ_cons, hall (by rw [length_cons] at h; omega)]

lemma length_escapeLoop (room : ℕ) (s : Bytes) : (escapeLoop room s).1.length ≤ room := by
  fun_induction escapeLoop room s <;> grind

lemma length_unescapeLoop (room : ℕ) (s : Bytes) : (unescapeLoop room s).1.length ≤ room := by
  fun_induction unescapeLoop room s <;> grind

/-- The terminator is stored only where there is room for it. -/
lemma length_stored_finish {outSize : ℕ} {loop : Bytes × Bool} (h : loop.1.length ≤ outSize) :
    (finish outSize loop).stored.length ≤ outSize := by
  unfold finish
  split_ifs with hdone hroom
  · simpa using hroom
  · exact h
  · exact h

lemma text_finish {outSize : ℕ} {loop : Bytes × Bool} (h : loop.2) :
    (finish outSize loop).text = loop.1 := by
  rw [finish, if_pos h, Filled.text]
  split_ifs <;> simp

lemma escapeLoop_done {room : ℕ} {s : Bytes} (hroom : 2 * s.length ≤ room) :
    (escapeLoop room s).2 := by
  fun_induction escapeLoop room s <;> grind

lemma le_length_escapeLoop {room : ℕ} {s : Bytes} (h : (escapeLoop room s).2) :
    s.length ≤ (escapeLoop room s).1.length := by
  fun_induction escapeLoop room s <;> grind

/-- The loops invert each other. -/
lemma unescapeLoop_escapeLoop {room room' : ℕ} {s : Bytes} (h : (escapeLoop room s).2)
    (hroom' : s.length ≤ room') :
    unescapeLoop room' (escapeLoop room s).1 = (s, true) ∧
      (escapeLoop room s).1.head? ≠ some 0x27 := by
  fun_induction escapeLoop room s generalizing room' with
  | case1 => simp [unescapeLoop]
  | case2 => cases h
  | case3 => cases h
  | case4 room c s hfull hspecial hlast ih =>
    rw [length_cons] at hroom'
    have hpos : room' ≠ 0 := by omega
    obtain ⟨hloop, -⟩ := @ih (room' - 1) h (by omega)
    exact ⟨by simp [unescapeLoop, hpos, hloop], by simp⟩
  | case5 room c s hfull hplain ih =>
    rw [length_cons] at hroom'
    have hpos : room' ≠ 0 := by omega
    obtain ⟨hloop, -⟩ := @ih (room' - 1) h (by omega)
    rw [not_or] at hplain
    refine ⟨?_, by simp [hplain]⟩
    rw [Prod.map_fst, unescapeLoop.eq_def]
    simp [hpos, hloop, hplain]

/-- `printf_encode` keeps to its buffer, and what is decoded again is the beginning of the data, all
of it if there was room for four characters an octet. -/
theorem printf_inverted (d : Bytes) (maxlen : ℕ) :
    1 ≤ maxlen → (printfEncode maxlen d).length ≤ maxlen ∧
      ∀ room, d.length < room → printfDecode room (printfEncode maxlen d) <+: d ∧
        (4 * d.length < maxlen → printfDecode room (printfEncode maxlen d) = d) := by
  intro hmax
  refine ⟨length_printfEncode hmax d, fun room hroom => ?_⟩
  obtain ⟨n, hn, hall⟩ := printfDecode_printfEncode maxlen room d hroom
  rw [hn]
  refine ⟨?_, hall⟩
  exact take_prefix n d

/-- A text with a quote in it. -/
theorem printf_inverted_of_quote : printfDecode 3 (printfEncode 9 [0x61, 0x22]) = [0x61, 0x22] :=
  ((printf_inverted [0x61, 0x22] 9 (by decide)).2 3 (by decide)).2 (by decide)

/-- Neither `utf8_escape` nor `utf8_unescape` stores more than its buffer holds, whether or not it
gives up.  Escaping does not give up if there is room for two characters for each one, and whenever
it does not, what it made of a string is unescaped to this string. -/
theorem utf8_inverted (inp : Bytes) (inSize outSize : ℕ) :
    (utf8Escape inp inSize outSize).stored.length ≤ outSize ∧
    (utf8Unescape inp inSize outSize).stored.length ≤ outSize ∧
    (2 * (given inp inSize).length ≤ outSize →
      (given inp inSize).length ≤ (utf8Escape inp inSize outSize).size) ∧
    ((given inp inSize).length ≤ (utf8Escape inp inSize outSize).size →
      ∀ inp' inSize' outSize', given inp' inSize' = (utf8Escape inp inSize outSize).text →
        (given inp inSize).length ≤ outSize' →
        (utf8Unescape inp' inSize' outSize').text = given inp inSize) := by
  refine ⟨length_stored_finish (length_escapeLoop _ _),
    length_stored_finish (length_unescapeLoop _ _), fun hroom => ?_, ?_⟩
  · have hdone := escapeLoop_done hroom
    rw [utf8Escape, finish, if_pos hdone]
    exact le_length_escapeLoop hdone
  intro hsize inp' inSize' outSize' hgiven hout
  -- A loop that gave up has a character of the string left, but returns 0.
  have hdone : (escapeLoop outSize (given inp inSize)).2 := by
    by_contra hgaveUp
    rw [utf8Escape, finish, if_neg hgaveUp] at hsize
    rw [length_eq_zero_iff.mp (Nat.le_zero.mp hsize)] at hgaveUp
    exact hgaveUp rfl
  obtain ⟨hloop, hhead⟩ := unescapeLoop_escapeLoop hdone hout
  rw [utf8Escape, text_finish hdone] at hgiven
  rw [utf8Unescape, hgiven, if_neg hhead, hloop, text_finish rfl]

end Hostapd.Utils

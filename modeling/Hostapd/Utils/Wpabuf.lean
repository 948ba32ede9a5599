import Hostapd.Foundation.Checked

/-!
# Buffers and allocations

`struct wpabuf` of `src/utils/wpabuf.c`: a buffer of a fixed size of which a first part is in use.
Writing past its size is a fault (`wpabuf_put` ends the program there).  Octets that are put and not
written are zero, as `wpabuf_alloc` left them.

Whether an allocation succeeds is not for the program to say: a function that allocates takes a
`Heap`, which answers for each of the allocations of one call.
-/

namespace Hostapd

open Wire

/-- Which of the allocations of a call succeed, in the order the source makes them. -/
abbrev Heap := ℕ → Bool

def Heap.plenty : Heap := fun _ => true

/-- The allocations after the first `n`. -/
def Heap.after (heap : Heap) (n : ℕ) : Heap := fun i => heap (n + i)

@[simp] lemma Heap.plenty_apply (n : ℕ) : Heap.plenty n := rfl

@[simp] lemma Heap.after_plenty (n : ℕ) : Heap.plenty.after n = Heap.plenty := rfl

/-- A buffer and the octets in use. -/
structure Wpabuf where
  size : ℕ
  octets : Bytes
deriving DecidableEq

/-- `wpabuf_put` of `length` octets, the first of which are then written. -/
def Wpabuf.put (b : Wpabuf) (length : ℕ) (content : Bytes) : Checked Wpabuf :=
  if content.length ≤ length ∧ b.octets.length + length ≤ b.size then
    .ok { b with octets := b.octets ++ (content ++ List.replicate (length - content.length) 0) }
  else .error .overrun

variable (buf : Wpabuf) (octets : Bytes)

def Wpabuf.append : Wpabuf :=
  { buf with octets := buf.octets ++ octets }

lemma Wpabuf.put_full {buf : Wpabuf} {n : ℕ} {octets : Bytes} (hn : octets.length = n)
    (hroom : buf.octets.length + octets.length ≤ buf.size) :
    buf.put n octets = .ok (buf.append octets) := by
  subst hn
  simp [Wpabuf.put, Wpabuf.append, hroom]

@[simp] lemma Wpabuf.append_nil : buf.append [] = buf := by
  simp [Wpabuf.append]

@[simp] lemma Wpabuf.append_append (as bs : Bytes) :
    (buf.append as).append bs = buf.append (as ++ bs) := by
  simp [Wpabuf.append]

@[simp] lemma Wpabuf.size_append : (buf.append octets).size = buf.size := rfl

@[simp] lemma Wpabuf.octets_append : (buf.append octets).octets = buf.octets ++ octets := rfl

def Wpabuf.putData (b : Wpabuf) (data : Bytes) : Checked Wpabuf := b.put data.length data

lemma Wpabuf.putData_of_le {b : Wpabuf} {data : Bytes}
    (h : b.octets.length + data.length ≤ b.size) : b.putData data = .ok (b.append data) :=
  Wpabuf.put_full rfl h

/-- `wpabuf_resize`: room for `addLen` more octets, in a buffer of its own if there is none yet. -/
def Wpabuf.resize (heap : Heap) (b : Option Wpabuf) (addLen : ℕ) : Option Wpabuf :=
  match b with
  | none => if heap 0 then some ⟨addLen, []⟩ else none
  | some b =>
    if b.size < b.octets.length + addLen then
      if heap 0 then some { b with size := b.octets.length + addLen } else none
    else some b

end Hostapd

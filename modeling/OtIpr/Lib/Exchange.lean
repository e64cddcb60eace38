/-
  A buffer exchanged in place with a peer.

  A reader takes the items of the buffer from the front and queues them for the wire. The wire
  sends the oldest of them against an item of the peer, which is queued for the writer. The
  writer stores what arrives in the same buffer, again from the front.

  The three work in any order (`Duplex.load`, `Duplex.swap`, `Duplex.store`). Since nothing
  arrives before it was sent for, the writer never overtakes the reader
  (`Exchanges.written_le`): the peer is sent the old content, and in the end the buffer holds
  what the peer sent (`Exchanges.finished`).
-/
import Mathlib.Data.List.Basic

namespace OtIpr.Lib

variable {α : Type*}

/-- An exchange under way. -/
structure Duplex (α : Type*) where
  buffer : List α
  read : ℕ
  outgoing : List α
  incoming : List α
  written : ℕ
deriving Repr, DecidableEq

namespace Duplex

/-- The reader takes the next item. -/
def load (x : Duplex α) : Duplex α :=
  match x.buffer[x.read]? with
  | some a => { x with outgoing := x.outgoing ++ [a], read := x.read + 1 }
  | none => x

/-- The wire sends the oldest queued item, against `b`: what it sent, if anything. -/
def swap (b : α) (x : Duplex α) : Duplex α × Option α :=
  match x.outgoing with
  | a :: rest => ({ x with outgoing := rest, incoming := x.incoming ++ [b] }, some a)
  | [] => (x, none)

/-- The writer stores the oldest item that has arrived. -/
def store (x : Duplex α) : Duplex α :=
  match x.incoming with
  | b :: rest =>
    { x with buffer := x.buffer.set x.written b, incoming := rest, written := x.written + 1 }
  | [] => x

@[simp] theorem load_written (x : Duplex α) : x.load.written = x.written := by
  unfold load
  split <;> rfl

theorem load_read {x : Duplex α} (h : x.read < x.buffer.length) :
    x.load.read = x.read + 1 := by
  unfold load
  rw [List.getElem?_eq_getElem h]

@[simp] theorem swap_read (b : α) (x : Duplex α) : (x.swap b).1.read = x.read := by
  unfold swap
  split <;> rfl

@[simp] theorem swap_written (b : α) (x : Duplex α) : (x.swap b).1.written = x.written := by
  unfold swap
  split <;> rfl

theorem store_eq_self {x : Duplex α} (h : x.incoming = []) : x.store = x := by
  unfold store
  rw [h]

@[simp] theorem store_read (x : Duplex α) : x.store.read = x.read := by
  unfold store
  split <;> rfl

/-- With nothing queued, one round exchanges one item. -/
theorem round_eq {x : Duplex α} (hout : x.outgoing = []) (hin : x.incoming = [])
    (h : x.read < x.buffer.length) (b : α) :
    (x.load.swap b).2 = some x.buffer[x.read] ∧
      (x.load.swap b).1.store =
        ⟨x.buffer.set x.written b, x.read + 1, [], [], x.written + 1⟩ := by
  unfold load
  rw [List.getElem?_eq_getElem h]
  simp only [hout, hin, swap, store, List.nil_append, and_self]

end Duplex

/-- `x` has sent `sent` of `old` against `received`. -/
structure Exchanges (old sent received : List α) (x : Duplex α) : Prop where
  length : x.buffer.length = old.length
  read_le : x.read ≤ old.length
  sent_eq : sent ++ x.outgoing = old.take x.read
  received_eq : x.buffer.take x.written ++ x.incoming = received
  rest_eq : x.buffer.drop x.written = old.drop x.written
  balanced : received.length = sent.length

namespace Exchanges

variable {old sent received : List α} {x : Duplex α}

/-- Nothing is sent, and nothing has arrived. -/
theorem start (old : List α) : Exchanges old [] [] ⟨old, 0, [], [], 0⟩ :=
  ⟨rfl, Nat.zero_le _, rfl, rfl, rfl, rfl⟩

theorem sent_length (h : Exchanges old sent received x) :
    sent.length + x.outgoing.length = x.read := by
  have hlen := congrArg List.length h.sent_eq
  rw [List.length_append, List.length_take, Nat.min_eq_left h.read_le] at hlen
  exact hlen

theorem written_add (h : Exchanges old sent received x) (hw : x.written ≤ old.length) :
    x.written + x.incoming.length = sent.length := by
  have hlen := congrArg List.length h.received_eq
  rw [List.length_append, List.length_take, h.length, Nat.min_eq_left hw] at hlen
  rw [hlen, h.balanced]

/-- The writer never overtakes the reader. -/
theorem written_le (h : Exchanges old sent received x) (hw : x.written ≤ old.length) :
    x.written ≤ x.read := by
  have hsent := h.sent_length
  have hwritten := h.written_add hw
  omega

/-- What the reader is about to take is still the old item. -/
theorem read_eq (h : Exchanges old sent received x) (hw : x.written ≤ old.length) :
    x.buffer[x.read]? = old[x.read]? := by
  have hle := h.written_le hw
  have hrest := congrArg (fun l => l[x.read - x.written]?) h.rest_eq
  simp only [List.getElem?_drop] at hrest
  rwa [Nat.add_sub_of_le hle] at hrest

theorem load (h : Exchanges old sent received x) (hw : x.written ≤ old.length) :
    Exchanges old sent received x.load := by
  unfold Duplex.load
  rw [h.read_eq hw]
  cases ha : old[x.read]? with
  | none => exact h
  | some a =>
    obtain ⟨hlt, rfl⟩ := List.getElem?_eq_some_iff.mp ha
    refine ⟨h.length, hlt, ?_, h.received_eq, h.rest_eq, h.balanced⟩
    show sent ++ (x.outgoing ++ [old[x.read]]) = old.take (x.read + 1)
    rw [← List.append_assoc, h.sent_eq, List.take_append_getElem hlt]

theorem swap (h : Exchanges old sent received x) {b a : α} (ha : (x.swap b).2 = some a) :
    Exchanges old (sent ++ [a]) (received ++ [b]) (x.swap b).1 := by
  unfold Duplex.swap at ha ⊢
  cases hout : x.outgoing with
  | nil => rw [hout] at ha; cases ha
  | cons c rest =>
    rw [hout] at ha
    obtain rfl : c = a := Option.some.inj ha
    refine ⟨h.length, h.read_le, ?_, ?_, h.rest_eq, ?_⟩
    · show sent ++ [c] ++ rest = old.take x.read
      rw [← h.sent_eq, hout, List.append_assoc, List.singleton_append]
    · show x.buffer.take x.written ++ (x.incoming ++ [b]) = received ++ [b]
      rw [← List.append_assoc, h.received_eq]
    · rw [List.length_append, List.length_append, h.balanced]
      rfl

/-- The wire sends the old items in order. -/
theorem next_eq (h : Exchanges old sent received x) {b a : α} (ha : (x.swap b).2 = some a) :
    old[sent.length]? = some a := by
  unfold Duplex.swap at ha
  cases hout : x.outgoing with
  | nil => rw [hout] at ha; cases ha
  | cons c rest =>
    rw [hout] at ha
    obtain rfl : c = a := Option.some.inj ha
    have hlt : sent.length < x.read := by
      have hlen := h.sent_length
      rw [hout, List.length_cons] at hlen
      omega
    have hsent := congrArg (fun l => l[sent.length]?) h.sent_eq
    simp only [hout, List.getElem?_take_of_lt hlt] at hsent
    rw [← hsent, List.getElem?_append_right (Nat.le_refl _), Nat.sub_self]
    rfl

/-- The next item stored has room: the writer is still behind the reader. -/
theorem written_lt (h : Exchanges old sent received x) (hw : x.written ≤ old.length)
    (hin : x.incoming ≠ []) : x.written < old.length := by
  have hsent := h.sent_length
  have hwritten := h.written_add hw
  have hpos := List.length_pos_iff.mpr hin
  have hread := h.read_le
  omega

theorem store (h : Exchanges old sent received x) (hw : x.written ≤ old.length) :
    Exchanges old sent received x.store ∧ x.store.written ≤ old.length := by
  unfold Duplex.store
  cases hin : x.incoming with
  | nil => exact ⟨h, hw⟩
  | cons b rest =>
    have hlt := h.written_lt hw (by rw [hin]; exact List.cons_ne_nil _ _)
    have hbuf : x.written < x.buffer.length := by rw [h.length]; exact hlt
    refine ⟨⟨?_, h.read_le, h.sent_eq, ?_, ?_, h.balanced⟩, hlt⟩
    · rw [List.length_set]
      exact h.length
    · have hset : (x.buffer.set x.written b).take (x.written + 1) =
          x.buffer.take x.written ++ [b] := by
        rw [List.take_add_one, List.getElem?_set_self hbuf, List.take_set_of_le (Nat.le_refl _)]
        rfl
      show (x.buffer.set x.written b).take (x.written + 1) ++ rest = received
      rw [hset, ← h.received_eq, hin, List.append_assoc, List.singleton_append]
    · show (x.buffer.set x.written b).drop (x.written + 1) = old.drop (x.written + 1)
      have hrest := congrArg (List.drop 1) h.rest_eq
      rw [List.drop_drop, List.drop_drop] at hrest
      rw [List.drop_set_of_lt (Nat.lt_succ_self _)]
      exact hrest

/-- All items are stored: the old content was sent, and the buffer holds what arrived. -/
theorem finished (h : Exchanges old sent received x) (hw : x.written = old.length) :
    sent = old ∧ x.buffer = received ∧ x.outgoing = [] ∧ x.incoming = [] := by
  have hsent := h.sent_length
  have hwritten := h.written_add (Nat.le_of_eq hw)
  have hread := h.read_le
  have hout : x.outgoing = [] := List.eq_nil_of_length_eq_zero (by omega)
  have hin : x.incoming = [] := List.eq_nil_of_length_eq_zero (by omega)
  have hall : x.read = old.length := by
    rw [hout] at hsent
    simp only [List.length_nil] at hsent
    omega
  refine ⟨?_, ?_, hout, hin⟩
  · have hs := h.sent_eq
    rwa [hout, List.append_nil, hall, List.take_length] at hs
  · have hr := h.received_eq
    rwa [hin, List.append_nil, hw, ← h.length, List.take_length] at hr

end Exchanges

end OtIpr.Lib

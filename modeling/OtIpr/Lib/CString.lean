/-
  C strings in fixed buffers, and delimited fields. The buffer is a list over any
  alphabet with a terminator `z`; nothing here names a program.

  `memset`, `snprintf`, `strlen` and `cstr` are the C library's functions on such a buffer.
  `cstr_snprintf`: a text without a terminator that is shorter than the limit is read back
  whole; `snprintf_memset`: in a cleared buffer terminators follow it. `Filled.cstr_store`: a
  text stored over an older one is read back exactly if the older one was not longer.
  `field_join`: the fields of a delimited text are read back by position when no field
  contains the delimiter.
-/
import Mathlib.Data.List.Basic
import Mathlib.Data.List.TakeWhile
import Mathlib.Data.Nat.Basic

namespace OtIpr.Lib

universe u

variable {α : Type u} [DecidableEq α]

/-! ## Buffers -/

/-- `memset(buf, c, n)`. -/
def memset (buf : List α) (c : α) (n : ℕ) : List α := List.replicate n c ++ buf.drop n

/-- Store `s` at the start of `buf`; the rest of the buffer stays. -/
def store (buf s : List α) : List α := s ++ buf.drop s.length

/-- `snprintf(buf, n, ...)` where the format expands to `text`: at most `n - 1` characters
    and the terminator. -/
def snprintf (z : α) (buf : List α) (n : ℕ) (text : List α) : List α :=
  if n = 0 then buf else store buf (text.take (n - 1) ++ [z])

/-- The C string a buffer holds: everything before the first terminator. -/
def cstr (z : α) (buf : List α) : List α := buf.takeWhile (· ≠ z)

/-- `strlen(buf)`. -/
def strlen (z : α) (buf : List α) : ℕ := (cstr z buf).length

theorem cstr_append (z : α) {s : List α} (hs : z ∉ s) (rest : List α) :
    cstr z (s ++ z :: rest) = s := by
  induction s with
  | nil => simp [cstr]
  | cons c s ih =>
    have hc : c ≠ z := fun h => hs (h ▸ List.mem_cons_self)
    have := ih (fun h => hs (List.mem_cons_of_mem _ h))
    simp only [cstr, List.cons_append, List.takeWhile_cons, ne_eq, hc, not_false_eq_true,
      decide_true, if_true, List.cons.injEq, true_and] at this ⊢
    exact this

omit [DecidableEq α] in
/-- A text that fits is written whole, with its terminator. -/
theorem snprintf_eq (z : α) (buf text : List α) {n : ℕ} (hn : text.length < n) :
    snprintf z buf n text = text ++ z :: buf.drop (text.length + 1) := by
  have htake : text.take (n - 1) = text := List.take_of_length_le (by omega)
  unfold snprintf store
  rw [if_neg (by omega), htake, List.append_assoc, List.singleton_append, List.length_append,
    List.length_singleton]

omit [DecidableEq α] in
/-- Over a cleared buffer it is followed by terminators up to the limit. -/
theorem snprintf_memset (z : α) (buf text : List α) {n : ℕ} (hn : text.length < n) :
    snprintf z (memset buf z n) n text =
      text ++ List.replicate (n - text.length) z ++ buf.drop n := by
  have hdrop : (memset buf z n).drop (text.length + 1) =
      List.replicate (n - (text.length + 1)) z ++ buf.drop n := by
    have hle : text.length + 1 ≤ (List.replicate n z).length := by
      rw [List.length_replicate]
      exact hn
    rw [memset, List.drop_append_of_le_length hle, List.drop_replicate]
  have hcount : n - text.length = n - (text.length + 1) + 1 := by omega
  rw [snprintf_eq z _ text hn, hdrop, hcount, List.replicate_succ, List.append_assoc,
    List.cons_append]

/-- A text that fits is read back whole. -/
theorem cstr_snprintf (z : α) (buf text : List α) {n : ℕ} (hz : z ∉ text)
    (hn : text.length < n) : cstr z (snprintf z buf n text) = text := by
  rw [snprintf_eq z buf text hn]
  exact cstr_append z hz _

/-- What `strlen` counts, taken from the buffer, is the string. -/
theorem take_strlen (z : α) (buf : List α) : buf.take (strlen z buf) = cstr z buf := by
  unfold strlen cstr
  induction buf with
  | nil => rfl
  | cons c buf ih =>
    by_cases hc : c = z
    · simp [hc]
    · simpa [List.takeWhile_cons, hc] using ih

/-! ## Buffers that are stored into again and again -/

/-- The buffer holds the text `s`, and terminators from there on. -/
structure Filled (z : α) (buf s : List α) : Prop where
  text : z ∉ s
  rest : ∃ m, buf = s ++ List.replicate m z

omit [DecidableEq α] in
theorem filled_replicate (z : α) (n : ℕ) : Filled z (List.replicate n z) [] :=
  ⟨List.not_mem_nil, n, rfl⟩

theorem Filled.cstr_eq {z : α} {buf s : List α} (h : Filled z buf s) : cstr z buf = s := by
  obtain ⟨m, rfl⟩ := h.rest
  cases m with
  | zero =>
    rw [List.replicate_zero, List.append_nil]
    have hall : ∀ c ∈ s, decide (c ≠ z) = true := fun c hc =>
      decide_eq_true fun heq => h.text (heq ▸ hc)
    exact List.takeWhile_eq_self_iff.mpr hall
  | succ m => exact cstr_append z h.text _

omit [DecidableEq α] in
/-- A text stored over a longer one leaves the longer one's tail. -/
theorem Filled.store {z : α} {buf s t : List α} (h : Filled z buf s) (ht : z ∉ t) :
    Filled z (store buf t) (t ++ s.drop t.length) := by
  obtain ⟨m, rfl⟩ := h.rest
  refine ⟨?_, m - (t.length - s.length), ?_⟩
  · intro hmem
    rcases List.mem_append.mp hmem with hmem | hmem
    · exact ht hmem
    · exact h.text (List.mem_of_mem_drop hmem)
  · rw [Lib.store, List.drop_append, List.drop_replicate, List.append_assoc]

/-- It is read back exactly if no longer text was there before. -/
theorem Filled.cstr_store {z : α} {buf s t : List α} (h : Filled z buf s) (ht : z ∉ t) :
    cstr z (Lib.store buf t) = t ↔ s.length ≤ t.length := by
  rw [(h.store ht).cstr_eq, List.append_right_eq_self, List.drop_eq_nil_iff]

/-! ## Delimited fields -/

/-- The fields `fs` with the delimiter `d` between them. -/
def joinFields (d : α) (fs : List (List α)) : List α := [d].intercalate fs

/-- Field `i` of a delimited text; empty when there is none. -/
def field (d : α) (i : ℕ) (text : List α) : List α := (text.splitOn d).getD i []

/-- Fields without the delimiter are told by the delimited text. -/
theorem splitOn_joinFields (d : α) {fs : List (List α)} (hd : ∀ f ∈ fs, d ∉ f) (hne : fs ≠ []) :
    (joinFields d fs).splitOn d = fs := List.splitOn_intercalate d hd hne

theorem field_join (d : α) {fs : List (List α)} (hd : ∀ f ∈ fs, d ∉ f) (hne : fs ≠ [])
    (i : ℕ) : field d i (joinFields d fs) = fs.getD i [] := by
  unfold field
  rw [splitOn_joinFields d hd hne]

omit [DecidableEq α] in
theorem mem_joinFields {d c : α} {fs : List (List α)} (h : c ∈ joinFields d fs) :
    c = d ∨ ∃ f ∈ fs, c ∈ f := by
  unfold joinFields at h
  induction fs with
  | nil => simp at h
  | cons f fs ih =>
    cases fs with
    | nil => exact Or.inr ⟨f, by simp, by simpa using h⟩
    | cons g gs =>
      rw [List.intercalate_cons_cons] at h
      simp only [List.mem_append, List.mem_singleton] at h
      rcases h with (h | h) | h
      · exact Or.inr ⟨f, by simp, h⟩
      · exact Or.inl h
      · rcases ih h with h | ⟨e, he, hc⟩
        · exact Or.inl h
        · exact Or.inr ⟨e, List.mem_cons_of_mem _ he, hc⟩

end OtIpr.Lib

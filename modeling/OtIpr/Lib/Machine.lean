/-
  Event-driven machines with observations, over arbitrary states, events and
  observations. Nothing here names a program.

  A `Machine` has a start state and a total step: one event gives the next state and
  the observations made on the way. `state es` and `trace es` are the state after the
  events `es` and everything observed so far, oldest first. Interleavings are event
  lists: whoever may act next is just the next event.

  Rules used by the developments over it:
  * `component`, `component_trace`: a part of a machine, as a run of a machine of its own.
  * `invariant`: a step-preserved property holds after every run.
  * `invariant_trace`: the same for a property of the state and the trace together.
  * `conservation`: what steps put in is what was taken out so far, then the contents.
  * `answers_le_requests`: a count of answers bounded by a count of requests.
  * `responds`, `responds_while`: an answer within as many ticks as a rank that ticks lower.
  * `keeps_while`, `observes_while`, `entered`: what some events keep, what they show
    meanwhile, and the step that began it.
  * `accepted`: a checker that can follow every step accepts every trace.
  * `since`: a property of the run and of everything observed since a marked observation.
    It is shown where the mark is emitted and kept by later steps.
  * `potential_since`: the `since` rule for a potential that each observation may lower
    by at most its cost.
  * `trace_split`: an observation of the trace is emitted by one step of the run.
  * `Embedding`: a machine whose steps are runs of a finer one; the finer machine reaches
    the same states with the same observations (`Embedding.run`).
-/
import Mathlib.Algebra.BigOperators.Group.List.Basic
import Mathlib.Algebra.Order.Ring.Nat
import Mathlib.Data.List.Induction

namespace OtIpr.Lib

universe u v w

/-- A start state and a total step. -/
structure Machine (σ : Type u) (ε : Type v) (ο : Type w) where
  init : σ
  step : σ → ε → σ × List ο

namespace Machine

variable {σ : Type u} {ε : Type v} {ο : Type w} (M : Machine σ ε ο)

/-- The state after the events `es`, from `s`. -/
def runFrom (s : σ) : List ε → σ
  | [] => s
  | e :: es => runFrom (M.step s e).1 es

/-- Everything observed along the events `es`, from `s`, oldest first. -/
def traceFrom (s : σ) : List ε → List ο
  | [] => []
  | e :: es => (M.step s e).2 ++ traceFrom (M.step s e).1 es

/-- The state after the events `es`, from the start. -/
def state (es : List ε) : σ := M.runFrom M.init es

/-- Everything observed along the events `es`, from the start. -/
def trace (es : List ε) : List ο := M.traceFrom M.init es

theorem runFrom_append (s : σ) (es fs : List ε) :
    M.runFrom s (es ++ fs) = M.runFrom (M.runFrom s es) fs := by
  induction es generalizing s with
  | nil => rfl
  | cons e es ih => exact ih _

theorem traceFrom_append (s : σ) (es fs : List ε) :
    M.traceFrom s (es ++ fs) = M.traceFrom s es ++ M.traceFrom (M.runFrom s es) fs := by
  induction es generalizing s with
  | nil => rfl
  | cons e es ih =>
    simp only [List.cons_append, traceFrom, runFrom]
    rw [ih, List.append_assoc]

theorem state_append (es fs : List ε) :
    M.state (es ++ fs) = M.runFrom (M.state es) fs := M.runFrom_append _ es fs

theorem trace_append (es fs : List ε) :
    M.trace (es ++ fs) = M.trace es ++ M.traceFrom (M.state es) fs :=
  M.traceFrom_append _ es fs

@[simp] theorem trace_nil : M.trace [] = [] := rfl

theorem state_snoc (es : List ε) (e : ε) :
    M.state (es ++ [e]) = (M.step (M.state es) e).1 := M.state_append es [e]

theorem trace_snoc (es : List ε) (e : ε) :
    M.trace (es ++ [e]) = M.trace es ++ (M.step (M.state es) e).2 := by
  rw [trace_append]
  simp only [traceFrom, List.append_nil]

/-- The machine started in another state. -/
def startAt (s : σ) : Machine σ ε ο := { M with init := s }

/-- The machine with other observations of its steps. -/
def watch {ο' : Type*} (f : σ → ε → List ο') : Machine σ ε ο' :=
  ⟨M.init, fun s e => ((M.step s e).1, f s e)⟩

theorem state_watch {ο' : Type*} (f : σ → ε → List ο') (es : List ε) :
    (M.watch f).state es = M.state es := by
  induction es using List.reverseRecOn with
  | nil => rfl
  | append_singleton es e ih =>
    rw [state_snoc, state_snoc, ih]
    rfl

section Component

variable {τ δ ο' : Type*} (N : Machine τ δ ο') (part : σ → τ) (events : σ → ε → List δ)

/-- A part of a machine that steps by runs of another machine is in a run of it. -/
theorem component (start : part M.init = N.init)
    (step : ∀ s e, part (M.step s e).1 = N.runFrom (part s) (events s e)) (es : List ε) :
    part (M.state es) = N.state ((M.watch events).trace es) := by
  induction es using List.reverseRecOn with
  | nil => exact start
  | append_singleton es e ih =>
    rw [state_snoc, trace_snoc, state_append, state_watch, step, ih]
    rfl

/-- What the part shows on the way is the trace of that run. -/
theorem component_trace (shown : σ → ε → List ο') (start : part M.init = N.init)
    (step : ∀ s e, part (M.step s e).1 = N.runFrom (part s) (events s e))
    (show_eq : ∀ s e, shown s e = N.traceFrom (part s) (events s e)) (es : List ε) :
    (M.watch shown).trace es = N.trace ((M.watch events).trace es) := by
  induction es using List.reverseRecOn with
  | nil => rfl
  | append_singleton es e ih =>
    rw [trace_snoc, trace_snoc, trace_append, ih, state_watch, state_watch,
      ← M.component N part events start step]
    exact congrArg _ (show_eq _ _)

end Component

/-! ## Invariants -/

/-- A property of the start that every step keeps holds after every run. -/
theorem invariant (I : σ → Prop) (start : I M.init)
    (keep : ∀ s e, I s → I (M.step s e).1) (es : List ε) : I (M.state es) := by
  induction es using List.reverseRecOn with
  | nil => exact start
  | append_singleton es e ih =>
    rw [state_snoc]
    exact keep _ e ih

/-- The same for a property of the state and the trace. The step may use everything known
    of the states a run reaches. -/
theorem invariant_trace (I : σ → List ο → Prop) (start : I M.init [])
    (keep : ∀ es e, I (M.state es) (M.trace es) →
      I (M.step (M.state es) e).1 (M.trace es ++ (M.step (M.state es) e).2))
    (es : List ε) : I (M.state es) (M.trace es) := by
  induction es using List.reverseRecOn with
  | nil => exact start
  | append_singleton es e ih =>
    rw [state_snoc, trace_snoc]
    exact keep es e ih

/-- What goes in comes out in order, but for the contents. `input` says what a step puts in,
    `output` which observations take something out. -/
theorem conservation {α : Type*} (contents : σ → List α) (input : σ → ε → List α)
    (output : ο → Option α) (start : contents M.init = [])
    (step : ∀ s e, contents s ++ input s e =
      (M.step s e).2.filterMap output ++ contents (M.step s e).1) (es : List ε) :
    (M.watch input).trace es = (M.trace es).filterMap output ++ contents (M.state es) := by
  induction es using List.reverseRecOn with
  | nil => exact start.symm
  | append_singleton es e ih =>
    have hin : (M.watch input).trace (es ++ [e]) =
        (M.watch input).trace es ++ input (M.state es) e := by
      rw [trace_snoc, state_watch]
      rfl
    rw [hin, ih, trace_snoc, state_snoc, List.filterMap_append, List.append_assoc,
      List.append_assoc, step]

/-- The budget rule. If each answer uses up something pending, and only a request adds to that,
    one at a time, there are never more answers than requests. -/
theorem answers_le_requests (pending : σ → ℕ) (answer : ο → Bool) (request : ε → Bool)
    (start : pending M.init = 0)
    (step : ∀ es e, (M.step (M.state es) e).2.countP answer + pending (M.step (M.state es) e).1 ≤
      pending (M.state es) + if request e then 1 else 0) (es : List ε) :
    (M.trace es).countP answer + pending (M.state es) ≤ es.countP request := by
  induction es using List.reverseRecOn with
  | nil =>
    show 0 + pending M.init ≤ 0
    omega
  | append_singleton es e ih =>
    have hstep := step es e
    rw [trace_snoc, state_snoc, List.countP_append, List.countP_append, List.countP_singleton]
    omega

/-- The bounded response rule, for events from `allowed`. While `P` holds a step answers, or
    keeps `P` and does not raise the rank, and a tick lowers it. So an answer comes within as
    many ticks as the rank. -/
theorem responds_while (allowed : ε → Prop) (tick : ε → Bool) (P : σ → Prop) (rank : σ → ℕ)
    (answer : ο → Prop)
    (keep : ∀ s e, allowed e → P s → (∃ o ∈ (M.step s e).2, answer o) ∨
      (P (M.step s e).1 ∧ rank (M.step s e).1 + (if tick e then 1 else 0) ≤ rank s))
    {s : σ} {es : List ε} (h : P s) (hes : ∀ e ∈ es, allowed e)
    (hticks : rank s < es.countP tick) : ∃ o ∈ M.traceFrom s es, answer o := by
  induction es generalizing s with
  | nil => exact absurd hticks (Nat.not_lt_zero _)
  | cons e es ih =>
    rcases keep s e (hes e List.mem_cons_self) h with ⟨o, ho, hans⟩ | ⟨hnext, hrank⟩
    · exact ⟨o, List.mem_append_left _ ho, hans⟩
    · rw [List.countP_cons] at hticks
      obtain ⟨o, ho, hans⟩ := ih hnext (fun e' he' => hes e' (List.mem_cons_of_mem _ he'))
        (by omega)
      exact ⟨o, List.mem_append_right _ ho, hans⟩

/-- The bounded response rule, for any events. -/
theorem responds (tick : ε → Bool) (P : σ → Prop) (rank : σ → ℕ) (answer : ο → Prop)
    (keep : ∀ s e, P s → (∃ o ∈ (M.step s e).2, answer o) ∨
      (P (M.step s e).1 ∧ rank (M.step s e).1 + (if tick e then 1 else 0) ≤ rank s))
    {s : σ} {es : List ε} (h : P s) (hticks : rank s < es.countP tick) :
    ∃ o ∈ M.traceFrom s es, answer o :=
  M.responds_while (fun _ => True) tick P rank answer (fun s e _ => keep s e) h
    (fun _ _ => trivial) hticks

/-- A property that the allowed events keep holds along a run of them. -/
theorem keeps_while (allowed : ε → Prop) (P : σ → Prop)
    (keep : ∀ s e, allowed e → P s → P (M.step s e).1) {s : σ} {es : List ε} (h : P s)
    (hes : ∀ e ∈ es, allowed e) : P (M.runFrom s es) := by
  induction es generalizing s with
  | nil => exact h
  | cons e es ih =>
    exact ih (keep s e (hes e List.mem_cons_self) h)
      fun e' he' => hes e' (List.mem_cons_of_mem _ he')

/-- What the allowed events show, while they keep a property. -/
theorem observes_while (allowed : ε → Prop) (P : σ → Prop) (Q : ο → Prop)
    (keep : ∀ s e, allowed e → P s → P (M.step s e).1 ∧ ∀ o ∈ (M.step s e).2, Q o)
    {s : σ} {es : List ε} (h : P s) (hes : ∀ e ∈ es, allowed e) :
    ∀ o ∈ M.traceFrom s es, Q o := by
  induction es generalizing s with
  | nil => exact fun o ho => absurd ho List.not_mem_nil
  | cons e es ih =>
    obtain ⟨hnext, hobs⟩ := keep s e (hes e List.mem_cons_self) h
    intro o ho
    rcases List.mem_append.mp ho with ho | ho
    · exact hobs o ho
    · exact ih hnext (fun e' he' => hes e' (List.mem_cons_of_mem _ he')) o ho

/-- A property that does not hold at the start was entered by some step, and has held since. -/
theorem entered (P : σ → Prop) (start : ¬ P M.init) {es : List ε} (h : P (M.state es)) :
    ∃ pre e post, es = pre ++ e :: post ∧ ¬ P (M.state pre) ∧
      ∀ mid, mid <+: post → P (M.state (pre ++ e :: mid)) := by
  induction es using List.reverseRecOn with
  | nil => exact absurd h start
  | append_singleton es e ih =>
    by_cases hes : P (M.state es)
    · obtain ⟨pre, e', post, rfl, hpre, hpost⟩ := ih hes
      refine ⟨pre, e', post ++ [e], by simp, hpre, fun mid hmid => ?_⟩
      rcases List.prefix_concat_iff.mp hmid with rfl | hmid
      · rw [List.append_assoc, List.cons_append] at h
        exact h
      · exact hpost mid hmid
    · refine ⟨es, e, [], rfl, hes, fun mid hmid => ?_⟩
      obtain rfl := List.prefix_nil.mp hmid
      exact h

/-- The refinement rule. A checker that can follow every step, in a relation to its state,
    accepts every trace. -/
theorem accepted {κ : Type*} (check : κ → ο → Option κ) (start : κ) (R : κ → σ → Prop)
    (hstart : R start M.init)
    (follow : ∀ k s e, R k s →
      ∃ k', (M.step s e).2.foldlM check k = some k' ∧ R k' (M.step s e).1) (es : List ε) :
    ∃ k, (M.trace es).foldlM check start = some k ∧ R k (M.state es) := by
  induction es using List.reverseRecOn with
  | nil => exact ⟨start, rfl, hstart⟩
  | append_singleton es e ih =>
    obtain ⟨k, hk, hR⟩ := ih
    obtain ⟨k', hk', hR'⟩ := follow k _ e hR
    refine ⟨k', ?_, by rw [state_snoc]; exact hR'⟩
    rw [trace_snoc, List.foldlM_append, hk]
    exact hk'

/-! ## Observations of a run -/

/-- Where an element of an appended list stands. -/
theorem append_eq_append_cons {α : Type w} {l r a b : List α} {x : α}
    (h : l ++ r = a ++ x :: b) :
    (∃ b', l = a ++ x :: b' ∧ b = b' ++ r) ∨ (∃ a', a = l ++ a' ∧ r = a' ++ x :: b) := by
  rcases List.append_eq_append_iff.mp h with ⟨as, ha, hr⟩ | ⟨bs, hl, hb⟩
  · exact Or.inr ⟨as, ha, hr⟩
  · cases bs with
    | nil => exact Or.inr ⟨[], by simpa using hl.symm, by simpa using hb.symm⟩
    | cons y ys =>
      obtain ⟨rfl, rfl⟩ := List.cons.inj hb
      exact Or.inl ⟨ys, hl, rfl⟩

/-- A list with one element has one splitting. -/
theorem singleton_eq_append_cons {α : Type w} {u v : List α} {x y : α} (h : [x] = u ++ y :: v) :
    u = [] ∧ y = x ∧ v = [] := by
  rcases List.append_eq_singleton_iff.mp h.symm with ⟨hu, hyv⟩ | ⟨-, hyv⟩
  · obtain ⟨hy, hv⟩ := List.cons.inj hyv
    exact ⟨hu, hy, hv⟩
  · cases hyv

/-- Before each element that `f` keeps stand the ones it keeps earlier. -/
theorem filterMap_split {α β : Type*} {f : α → Option β} {l : List α} {n : ℕ}
    (h : n < (l.filterMap f).length) :
    ∃ a x b, l = a ++ x :: b ∧ (f x).isSome ∧ (a.filterMap f).length = n := by
  induction l generalizing n with
  | nil => simp at h
  | cons y l ih =>
    cases hy : f y with
    | none =>
      rw [List.filterMap_cons_none hy] at h
      obtain ⟨a, x, b, rfl, hx, ha⟩ := ih h
      exact ⟨y :: a, x, b, rfl, hx, by rw [List.filterMap_cons_none hy, ha]⟩
    | some z =>
      rw [List.filterMap_cons_some hy, List.length_cons] at h
      cases n with
      | zero => exact ⟨[], y, l, rfl, by simp [hy], rfl⟩
      | succ n =>
        obtain ⟨a, x, b, rfl, hx, ha⟩ := ih (Nat.lt_of_succ_lt_succ h)
        exact ⟨y :: a, x, b, rfl, hx, by
          rw [List.filterMap_cons_some hy, List.length_cons, ha]⟩

/-- An observation of the trace is emitted by one step of the run. -/
theorem trace_split {es : List ε} {p q : List ο} {o : ο} (h : M.trace es = p ++ o :: q) :
    ∃ pre e post u v, es = pre ++ e :: post ∧
      (M.step (M.state pre) e).2 = u ++ o :: v ∧
      p = M.trace pre ++ u ∧ q = v ++ M.traceFrom (M.step (M.state pre) e).1 post := by
  induction es using List.reverseRecOn generalizing q with
  | nil => simp at h
  | append_singleton es e ih =>
    rw [trace_snoc] at h
    rcases append_eq_append_cons h with ⟨q', hl, hq⟩ | ⟨u, hp, hs⟩
    · obtain ⟨pre, e', post, u, v, hes, hstep, hp, hq'⟩ := ih hl
      refine ⟨pre, e', post ++ [e], u, v, by rw [hes]; simp, hstep, hp, ?_⟩
      have hst : M.runFrom (M.step (M.state pre) e').1 post = M.state es := by
        rw [hes, state_append]
        rfl
      rw [hq, hq', traceFrom_append, hst]
      simp [traceFrom]
    · exact ⟨es, e, [], u, q, rfl, hs, hp, by simp [traceFrom]⟩

/-- Every observation of the trace is emitted by a step from a state the run reaches. -/
theorem mem_trace {es : List ε} {o : ο} (h : o ∈ M.trace es) :
    ∃ pre e, pre ++ [e] <+: es ∧ o ∈ (M.step (M.state pre) e).2 := by
  obtain ⟨p, q, hpq⟩ := List.append_of_mem h
  obtain ⟨pre, e, post, u, v, hes, hstep, -, -⟩ := M.trace_split hpq
  exact ⟨pre, e, ⟨post, by rw [hes]; simp⟩, by rw [hstep]; simp⟩

/-- What a step from a reached state emits is in every longer run's trace. -/
theorem mem_trace_of_step {es pre : List ε} {e : ε} {o : ο} (hpre : pre ++ [e] <+: es)
    (h : o ∈ (M.step (M.state pre) e).2) : o ∈ M.trace es := by
  obtain ⟨post, rfl⟩ := hpre
  rw [trace_append, trace_snoc]
  simp [h]

/-- The `since` rule. `J es o b`: `b` is what was observed since `o`, in the run `es`. -/
theorem since (J : List ε → ο → List ο → Prop)
    (mark : ∀ es e a o b, (M.step (M.state es) e).2 = a ++ o :: b → J (es ++ [e]) o b)
    (keep : ∀ es e o b, J es o b → J (es ++ [e]) o (b ++ (M.step (M.state es) e).2))
    {es : List ε} {a b : List ο} {o : ο} (h : M.trace es = a ++ o :: b) : J es o b := by
  induction es using List.reverseRecOn generalizing b with
  | nil => simp at h
  | append_singleton es e ih =>
    rw [trace_snoc] at h
    rcases append_eq_append_cons h with ⟨b', hl, rfl⟩ | ⟨a', -, hs⟩
    · exact keep es e o b' (ih hl)
    · exact mark es e a' o b hs

section Potential

variable {α : Type*} [AddCommMonoid α] [PartialOrder α] [IsOrderedAddMonoid α]

/-- A potential of at least `c` at every marked observation, lowered by each observation by
    at most its cost, is at least `c` less the costs since the mark. -/
theorem potential_since (φ : σ → α) (cost : ο → α) (P : ο → Prop) (c : α)
    (mark : ∀ es e a o b, (M.step (M.state es) e).2 = a ++ o :: b → P o →
      c ≤ φ (M.step (M.state es) e).1 + (b.map cost).sum)
    (lower : ∀ es e, φ (M.state es) ≤
      φ (M.step (M.state es) e).1 + ((M.step (M.state es) e).2.map cost).sum)
    {es : List ε} {a b : List ο} {o : ο} (h : M.trace es = a ++ o :: b) (ho : P o) :
    c ≤ φ (M.state es) + (b.map cost).sum := by
  refine M.since (fun es o b => P o → c ≤ φ (M.state es) + (b.map cost).sum) ?_ ?_ h ho
  · intro es e a o b hstep
    rw [state_snoc]
    exact mark es e a o b hstep
  intro es e o b hJ ho
  rw [state_snoc]
  calc c ≤ φ (M.state es) + (b.map cost).sum := hJ ho
    _ ≤ φ (M.step (M.state es) e).1 + ((M.step (M.state es) e).2.map cost).sum
          + (b.map cost).sum := add_le_add_left (lower es e) _
    _ = φ (M.step (M.state es) e).1 + ((b ++ (M.step (M.state es) e).2).map cost).sum := by
          rw [List.map_append, List.sum_append, add_assoc, add_comm (List.sum _)]

end Potential

/-- A constant cost on the observations with `p` sums to their number times the cost. -/
theorem sum_map_cost (p : ο → Bool) (c : ℕ) (l : List ο) :
    (l.map fun o => if p o then c else 0).sum = c * l.countP p := by
  induction l with
  | nil => rfl
  | cons o l ih =>
    rw [List.map_cons, List.sum_cons, ih, List.countP_cons]
    split <;> simp [Nat.mul_add, Nat.add_comm]

end Machine

/-! ## Machines whose steps are runs of a finer machine -/

section Embedding

variable {σ τ ε δ ο : Type*}

/-- Seen through `embed`, each step of `C` is a run of `F` with the same observations. -/
structure Embedding (C : Machine σ ε ο) (F : Machine τ δ ο) (embed : σ → τ) : Prop where
  init : embed C.init = F.init
  step : ∀ s e, ∃ ds, F.runFrom (embed s) ds = embed (C.step s e).1 ∧
    F.traceFrom (embed s) ds = (C.step s e).2

/-- Every run of the coarse machine is a run of the finer one, observation for observation. -/
theorem Embedding.run {C : Machine σ ε ο} {F : Machine τ δ ο} {embed : σ → τ}
    (E : Embedding C F embed) (es : List ε) :
    ∃ fs, F.state fs = embed (C.state es) ∧ F.trace fs = C.trace es := by
  induction es using List.reverseRecOn with
  | nil => exact ⟨[], E.init.symm, rfl⟩
  | append_singleton es e ih =>
    obtain ⟨fs, hstate, htrace⟩ := ih
    obtain ⟨ds, hrun, htr⟩ := E.step (C.state es) e
    refine ⟨fs ++ ds, ?_, ?_⟩
    · rw [F.state_append, hstate, hrun, C.state_snoc]
    · rw [F.trace_append, hstate, htr, htrace, C.trace_snoc]

end Embedding

end OtIpr.Lib

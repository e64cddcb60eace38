/-
  Handles that are acquired, used and released. Nothing here names a program.

  `holding acts held` follows a list of actions from the handles held at its start; it fails at
  an action on a handle that is not held, and where a held handle is handed out again. `Clean`
  lists start and end with nothing held.

  Rules used by the developments over it:
  * `Clean.append`: clean lists in a row are clean.
  * `Clean.released_once`: in a clean list every handle that is acquired is released, once,
    before it is handed out again.
  * `Clean.untouched`: a handle that is never acquired is never used or released.
-/
import Mathlib.Data.List.Basic

namespace OtIpr.Lib

universe u

inductive Action (η : Type u) where
  | acquire (h : η)
  | use (h : η)
  | release (h : η)
  deriving DecidableEq

variable {η : Type u} [DecidableEq η]

/-- The handles held after an action; `none` if it is not allowed. -/
def Action.apply (held : List η) : Action η → Option (List η)
  | .acquire h => if h ∈ held then none else some (h :: held)
  | .use h => if h ∈ held then some held else none
  | .release h => if h ∈ held then some (held.erase h) else none

/-- The handles held after a list of actions. -/
def holding : List (Action η) → List η → Option (List η)
  | [], held => some held
  | a :: acts, held => (a.apply held).bind (holding acts)

/-- Nothing is left held, and every action is allowed. -/
def Clean (acts : List (Action η)) : Prop := holding acts [] = some []

instance (acts : List (Action η)) : Decidable (Clean acts) := inferInstanceAs (Decidable (_ = _))

/-! ## One action -/

section

variable {h : η} {held held' : List η}

theorem apply_acquire :
    (Action.acquire h).apply held = some held' ↔ h ∉ held ∧ h :: held = held' := by
  rw [Action.apply]
  split_ifs with hmem <;> simp [hmem]

theorem apply_use : (Action.use h).apply held = some held' ↔ h ∈ held ∧ held = held' := by
  rw [Action.apply]
  split_ifs with hmem <;> simp [hmem]

theorem apply_release :
    (Action.release h).apply held = some held' ↔ h ∈ held ∧ held.erase h = held' := by
  rw [Action.apply]
  split_ifs with hmem <;> simp [hmem]

end

/-! ## Lists of actions -/

theorem holding_append (as bs : List (Action η)) (held : List η) :
    holding (as ++ bs) held = (holding as held).bind (holding bs) := by
  induction as generalizing held with
  | nil => rfl
  | cons a as ih =>
    rw [List.cons_append, holding, holding]
    cases a.apply held with
    | none => rfl
    | some held' => exact ih held'

theorem clean_nil : Clean ([] : List (Action η)) := rfl

theorem Clean.append {as bs : List (Action η)} (ha : Clean as) (hb : Clean bs) :
    Clean (as ++ bs) := by
  unfold Clean at *
  rw [holding_append, ha]
  exact hb

/-- A held handle is released before anything else is done to its ownership. -/
theorem released_of_held {acts : List (Action η)} {held : List η} {h : η} (hh : h ∈ held)
    (hend : holding acts held = some []) :
    ∃ as bs, acts = as ++ .release h :: bs ∧ .acquire h ∉ as ∧ .release h ∉ as := by
  induction acts generalizing held with
  | nil =>
    obtain rfl := Option.some.inj hend
    exact absurd hh List.not_mem_nil
  | cons a acts ih =>
    by_cases ha : a = .release h
    · exact ⟨[], acts, by rw [ha, List.nil_append], List.not_mem_nil, List.not_mem_nil⟩
    obtain ⟨held', happly, hrest⟩ := Option.bind_eq_some_iff.mp hend
    have hnot : a ≠ .acquire h := fun heq => (apply_acquire.mp (heq ▸ happly)).1 hh
    have hh' : h ∈ held' := by
      cases a with
      | acquire g =>
        obtain ⟨-, rfl⟩ := apply_acquire.mp happly
        exact List.mem_cons_of_mem _ hh
      | use g =>
        obtain ⟨-, rfl⟩ := apply_use.mp happly
        exact hh
      | release g =>
        have hne : h ≠ g := fun heq => ha (heq ▸ rfl)
        obtain ⟨-, rfl⟩ := apply_release.mp happly
        exact (List.mem_erase_of_ne hne).mpr hh
    obtain ⟨as, bs, rfl, hacq, hrel⟩ := ih hh' hrest
    refine ⟨a :: as, bs, rfl, ?_, ?_⟩
    · exact List.not_mem_cons_of_ne_of_not_mem (Ne.symm hnot) hacq
    · exact List.not_mem_cons_of_ne_of_not_mem (Ne.symm ha) hrel

/-- Every acquired handle is released once before it is handed out again. -/
theorem Clean.released_once {acts as bs : List (Action η)} {h : η} (hc : Clean acts)
    (hsplit : acts = as ++ .acquire h :: bs) :
    ∃ cs ds, bs = cs ++ .release h :: ds ∧ .acquire h ∉ cs ∧ .release h ∉ cs := by
  unfold Clean at hc
  rw [hsplit, holding_append] at hc
  obtain ⟨held, -, hc⟩ := Option.bind_eq_some_iff.mp hc
  obtain ⟨held', happly, hc⟩ := Option.bind_eq_some_iff.mp hc
  obtain ⟨-, rfl⟩ := apply_acquire.mp happly
  exact released_of_held List.mem_cons_self hc

theorem untouched_of_not_held {acts : List (Action η)} {held held' : List η} {h : η}
    (hh : h ∉ held) (hend : holding acts held = some held') (hacq : .acquire h ∉ acts) :
    .use h ∉ acts ∧ .release h ∉ acts := by
  induction acts generalizing held with
  | nil => exact ⟨List.not_mem_nil, List.not_mem_nil⟩
  | cons a acts ih =>
    rw [List.mem_cons, not_or] at hacq
    obtain ⟨hne, hacq⟩ := hacq
    obtain ⟨held₁, happly, hrest⟩ := Option.bind_eq_some_iff.mp hend
    have hh₁ : h ∉ held₁ ∧ a ≠ .use h ∧ a ≠ .release h := by
      cases a with
      | acquire g =>
        have hg : h ≠ g := fun heq => hne (heq ▸ rfl)
        obtain ⟨-, rfl⟩ := apply_acquire.mp happly
        exact ⟨List.not_mem_cons_of_ne_of_not_mem hg hh, by simp, by simp⟩
      | use g =>
        obtain ⟨hg, rfl⟩ := apply_use.mp happly
        exact ⟨hh, fun heq => hh (Action.use.inj heq ▸ hg), by simp⟩
      | release g =>
        obtain ⟨hg, rfl⟩ := apply_release.mp happly
        exact ⟨fun hmem => hh (List.mem_of_mem_erase hmem), by simp,
          fun heq => hh (Action.release.inj heq ▸ hg)⟩
    obtain ⟨huse, hrel⟩ := ih hh₁.1 hrest hacq
    exact ⟨List.not_mem_cons_of_ne_of_not_mem (Ne.symm hh₁.2.1) huse,
      List.not_mem_cons_of_ne_of_not_mem (Ne.symm hh₁.2.2) hrel⟩

/-- A handle that is never acquired is never touched. -/
theorem Clean.untouched {acts : List (Action η)} {h : η} (hc : Clean acts)
    (hacq : .acquire h ∉ acts) : .use h ∉ acts ∧ .release h ∉ acts :=
  untouched_of_not_held List.not_mem_nil hc hacq

end OtIpr.Lib

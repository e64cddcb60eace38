/-
  The resource name over histories of requests on the permissions resource.

  Each request stores the first 31 bytes of its payload over the name of the last one and
  writes no terminator. The buffer always holds the name stored last, followed by what the
  longest earlier name leaves beyond it (`filled_named`). So the name follows the requests
  exactly as long as no name is shorter than an earlier one (`resource_name_iff`).
-/
import Mathlib.Data.List.Induction
import OtIpr.Coap.Handshake

namespace OtIpr

open Lib

/-- A request whose response is allocated, with a payload free of terminators. -/
structure NamedRequest where
  request : Request
  env : ResponseEnv
  allocated : env.newMessage ≠ none
  noNul : NUL ∉ request.payload

/-- What the request asks to be called: its first 31 bytes at most. -/
def NamedRequest.name (x : NamedRequest) : List Char := x.request.payload.take 31

theorem NamedRequest.nul_not_mem_name (x : NamedRequest) : NUL ∉ x.name :=
  fun h => x.noNul (List.mem_of_mem_take h)

/-- `resource_name` after a history of requests. -/
def resourceAfter (rs : List NamedRequest) : List Char :=
  (coapAfter (rs.map fun x => (x.request, x.env))).resource_name

/-- After every request the resource name is what it asked for. -/
def NameFollows (rs : List NamedRequest) : Prop :=
  ∀ p x, p ++ [x] <+: rs → cstr NUL (resourceAfter (p ++ [x])) = x.name

/-- No request comes with a shorter name than an earlier one. -/
def NamesGrow (rs : List NamedRequest) : Prop :=
  ∀ p x, p ++ [x] <+: rs → ∀ y ∈ p, y.name.length ≤ x.name.length

/-- With its response allocated, the handler stores the name over the old one. -/
theorem handler_resource_name (c : Coap) (r : Request) {env : ResponseEnv}
    (h : env.newMessage ≠ none) :
    (appCoapPermissionsHandler c r env).1.resource_name =
      store c.resource_name (r.payload.take 31) := by
  obtain ⟨m, hm⟩ := Option.ne_none_iff_exists'.mp h
  unfold appCoapPermissionsHandler respond
  rw [hm]
  dsimp only
  split_ifs <;> rfl

theorem resourceAfter_snoc (p : List NamedRequest) (x : NamedRequest) :
    resourceAfter (p ++ [x]) = store (resourceAfter p) x.name := by
  unfold resourceAfter coapAfter
  rw [List.map_append, List.foldl_append]
  exact handler_resource_name _ x.request x.allocated

/-- The text in the buffer is as long as the longest name so far. -/
theorem filled_named (p : List NamedRequest) :
    ∃ s, Filled NUL (resourceAfter p) s ∧ ∀ n, s.length ≤ n ↔ ∀ y ∈ p, y.name.length ≤ n := by
  induction p using List.reverseRecOn with
  | nil => exact ⟨[], filled_replicate NUL 32, by simp⟩
  | append_singleton p x ih =>
    obtain ⟨s, hs, hlen⟩ := ih
    refine ⟨x.name ++ s.drop x.name.length, ?_, fun n => ?_⟩
    · rw [resourceAfter_snoc]
      exact hs.store x.nul_not_mem_name
    · have hsplit : (x.name ++ s.drop x.name.length).length ≤ n ↔
          s.length ≤ n ∧ x.name.length ≤ n := by
        rw [List.length_append, List.length_drop]
        omega
      rw [hsplit, hlen n]
      simp [or_imp, forall_and]

/-- The resource name follows the requests exactly if their names never get shorter. -/
theorem resource_name_iff (rs : List NamedRequest) : NameFollows rs ↔ NamesGrow rs := by
  have hone : ∀ p x, cstr NUL (resourceAfter (p ++ [x])) = x.name ↔
      ∀ y ∈ p, y.name.length ≤ x.name.length := by
    intro p x
    obtain ⟨s, hs, hlen⟩ := filled_named p
    rw [resourceAfter_snoc, hs.cstr_store x.nul_not_mem_name, hlen]
  constructor
  · intro h p x hp
    exact (hone p x).mp (h p x hp)
  · intro h p x hp
    exact (hone p x).mpr (h p x hp)

/-- The server's GET with the given name, answered. -/
def getNamed (name : List Char) (h : NUL ∉ name) : NamedRequest where
  request := ⟨.GET, [], name, 1, 2⟩
  env := ⟨some 0, .OT_ERROR_NONE, .OT_ERROR_NONE, .OT_ERROR_NONE⟩
  allocated := by decide
  noNul := h

/-- "hall" and then "b" leave "ball". -/
theorem stale_resource_name :
    ¬ NameFollows [getNamed ['h', 'a', 'l', 'l'] (by decide), getNamed ['b'] (by decide)] := by
  intro h
  exact absurd (h [_] _ (List.prefix_refl _)) (by decide)

end OtIpr

/-
  The handshake over histories of requests on the permissions resource.

  The law the handshake should keep: the connection is established exactly when some GET's
  'ack' was accepted by the stack (`Acked`, read off the calls by `acceptedAck_iff`), and the
  addresses are those of the latest such GET (`HandshakeLaw`).

  The handler stores the addresses before it looks at the method and marks the connection
  established on every exit, so every request counts (`after_snoc`). The law is kept exactly
  in histories where that makes no difference: each request without an accepted 'ack' follows
  an accepted one and comes from the same addresses (`handshake_safe_iff`).
-/
import OtIpr.Coap.Permissions

namespace OtIpr

open Lib

/-- A request and the stack's results while it is handled. -/
abbrev Exchange := Request × ResponseEnv

/-- The globals after a history of requests. -/
def coapAfter (rs : List Exchange) : Coap :=
  rs.foldl (fun c x => (appCoapPermissionsHandler c x.1 x.2).1) .boot

/-- The latest GET whose 'ack' was accepted. -/
def lastAcked (rs : List Exchange) : Option Exchange :=
  (rs.filter fun x => Acked x.1 x.2).getLast?

/-- What the globals should say after a history. -/
structure HandshakeLaw (rs : List Exchange) (c : Coap) : Prop where
  established : c.appCoapConnectionEstablished = true ↔ ∃ x ∈ rs, Acked x.1 x.2
  brAddr : c.brAddr = ((lastAcked rs).map fun x => x.1.mPeerAddr).getD Coap.boot.brAddr
  selfAddr : c.selfAddr = ((lastAcked rs).map fun x => x.1.mSockAddr).getD Coap.boot.selfAddr

/-- The three globals of the handshake are the same. -/
def SameSession (c c' : Coap) : Prop :=
  c'.appCoapConnectionEstablished = c.appCoapConnectionEstablished ∧ c'.brAddr = c.brAddr ∧
    c'.selfAddr = c.selfAddr

/-- After every request the law holds, and a request without an accepted 'ack' changed
    nothing. -/
def HandshakeSafe (rs : List Exchange) : Prop :=
  (∀ p, p <+: rs → HandshakeLaw p (coapAfter p)) ∧
    ∀ p x, p ++ [x] <+: rs → ¬ Acked x.1 x.2 → SameSession (coapAfter p) (coapAfter (p ++ [x]))

/-- Each request without an accepted 'ack' follows an accepted one, from the same addresses. -/
def SamePeerAfterAck (rs : List Exchange) : Prop :=
  ∀ p x, p ++ [x] <+: rs → ¬ Acked x.1 x.2 →
    ∃ y, lastAcked p = some y ∧ x.1.mPeerAddr = y.1.mPeerAddr ∧ x.1.mSockAddr = y.1.mSockAddr

/-- Every request establishes the connection and stores its addresses. -/
theorem after_snoc (p : List Exchange) (x : Exchange) :
    (coapAfter (p ++ [x])).appCoapConnectionEstablished = true ∧
      (coapAfter (p ++ [x])).brAddr = x.1.mPeerAddr ∧
      (coapAfter (p ++ [x])).selfAddr = x.1.mSockAddr := by
  have hstep : coapAfter (p ++ [x]) = (appCoapPermissionsHandler (coapAfter p) x.1 x.2).1 := by
    unfold coapAfter
    rw [List.foldl_append]
    rfl
  obtain ⟨hest, hbr, hself, -⟩ := handler_writes (coapAfter p) x.1 x.2
  rw [hstep]
  exact ⟨hest, hbr, hself⟩

theorem lastAcked_snoc_of_acked (p : List Exchange) {x : Exchange} (h : Acked x.1 x.2) :
    lastAcked (p ++ [x]) = some x := by
  unfold lastAcked
  rw [List.filter_append, List.filter_cons_of_pos (by simpa using h)]
  simp

theorem lastAcked_snoc_of_not (p : List Exchange) {x : Exchange} (h : ¬ Acked x.1 x.2) :
    lastAcked (p ++ [x]) = lastAcked p := by
  unfold lastAcked
  rw [List.filter_append, List.filter_cons_of_neg (by simpa using h)]
  simp

theorem mem_of_lastAcked {p : List Exchange} {y : Exchange} (h : lastAcked p = some y) :
    y ∈ p ∧ Acked y.1 y.2 := by
  have hmem := List.mem_filter.mp (List.mem_of_getLast? h)
  exact ⟨hmem.1, by simpa using hmem.2⟩

theorem lastAcked_of_mem {p : List Exchange} {x : Exchange} (hx : x ∈ p) (h : Acked x.1 x.2) :
    ∃ y, lastAcked p = some y := by
  have hmem : x ∈ p.filter fun x => Acked x.1 x.2 := List.mem_filter.mpr ⟨hx, by simpa using h⟩
  exact ⟨_, List.getLast?_eq_some_getLast (List.ne_nil_of_mem hmem)⟩

theorem law_nil : HandshakeLaw [] (coapAfter []) where
  established := by simp [coapAfter, Coap.boot]
  brAddr := rfl
  selfAddr := rfl

/-- After an accepted 'ack' the law holds, whatever came before. -/
theorem law_of_acked (p : List Exchange) {x : Exchange} (h : Acked x.1 x.2) :
    HandshakeLaw (p ++ [x]) (coapAfter (p ++ [x])) := by
  obtain ⟨hest, hbr, hself⟩ := after_snoc p x
  refine ⟨iff_of_true hest ⟨x, by simp, h⟩, ?_, ?_⟩
  · rw [hbr, lastAcked_snoc_of_acked p h]
    rfl
  · rw [hself, lastAcked_snoc_of_acked p h]
    rfl

/-- After any other request it holds exactly if the latest accepted GET has its addresses. -/
theorem law_of_not_acked (p : List Exchange) {x : Exchange} (h : ¬ Acked x.1 x.2) :
    HandshakeLaw (p ++ [x]) (coapAfter (p ++ [x])) ↔
      ∃ y, lastAcked p = some y ∧ x.1.mPeerAddr = y.1.mPeerAddr ∧
        x.1.mSockAddr = y.1.mSockAddr := by
  obtain ⟨hest, hbr, hself⟩ := after_snoc p x
  have hlast := lastAcked_snoc_of_not p h
  constructor
  · intro hlaw
    obtain ⟨z, hz, hacked⟩ := hlaw.established.mp hest
    obtain ⟨y, hy⟩ := lastAcked_of_mem hz hacked
    have hpeer := hlaw.brAddr
    have hsock := hlaw.selfAddr
    rw [hbr, hy] at hpeer
    rw [hself, hy] at hsock
    exact ⟨y, hlast.symm.trans hy, hpeer, hsock⟩
  · rintro ⟨y, hy, hpeer, hsock⟩
    obtain ⟨hmem, hacked⟩ := mem_of_lastAcked hy
    refine ⟨iff_of_true hest ⟨y, List.mem_append_left _ hmem, hacked⟩, ?_, ?_⟩
    · rw [hbr, hlast, hy]
      exact hpeer
    · rw [hself, hlast, hy]
      exact hsock

/-- The handshake is safe exactly in histories whose requests without an accepted 'ack' repeat
    the addresses of an accepted one. -/
theorem handshake_safe_iff (rs : List Exchange) : HandshakeSafe rs ↔ SamePeerAfterAck rs := by
  constructor
  · intro hsafe p x hp h
    exact (law_of_not_acked p h).mp (hsafe.1 _ hp)
  · intro hsame
    have hlaw : ∀ p, p <+: rs → HandshakeLaw p (coapAfter p) := by
      intro p hp
      rcases List.eq_nil_or_concat' p with rfl | ⟨q, x, rfl⟩
      · exact law_nil
      · by_cases h : Acked x.1 x.2
        · exact law_of_acked q h
        · exact (law_of_not_acked q h).mpr (hsame q x hp h)
    refine ⟨hlaw, fun p x hp h => ?_⟩
    obtain ⟨y, hy, hpeer, hsock⟩ := hsame p x hp h
    obtain ⟨hmem, hacked⟩ := mem_of_lastAcked hy
    obtain ⟨hest, hbr, hself⟩ := after_snoc p x
    have hbefore := hlaw p ((List.prefix_append p [x]).trans hp)
    refine ⟨hest.trans (hbefore.established.mpr ⟨y, hmem, hacked⟩).symm, ?_, ?_⟩
    · rw [hbr, hbefore.brAddr, hy]
      exact hpeer
    · rw [hself, hbefore.selfAddr, hy]
      exact hsock

/-- A PUT, answered 'nack', as the first request. -/
def firstPut : Exchange :=
  (⟨.PUT, [], [], 5, 6⟩, ⟨some 0, .OT_ERROR_NONE, .OT_ERROR_NONE, .OT_ERROR_NONE⟩)

theorem handshake_unsafe : ¬ HandshakeSafe [firstPut] := by
  intro h
  have hsame := (h.2 [] firstPut (List.prefix_refl _) (by decide)).1
  exact absurd hsame (by decide)

end OtIpr

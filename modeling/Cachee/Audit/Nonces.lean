import Cachee.Audit.MerkleRoot
import Cachee.Library.Recall

/-!
# Replay protection

A log checks nonces against those that it has in memory, and keeps no more than 100000 of them.  So
the accepted nonces fall into blocks of 100000 from the opening of the log on: a nonce is refused
if it was accepted in the last block, and only then.
-/

open Recall

namespace Cachee

namespace AuditLog

/-- The log after successive calls of `checkNonce`, and the nonces of the calls with what they
returned. -/
def checkNonces (log : AuditLog) : List (Block 32) → AuditLog × List (Block 32 × Bool)
  | [] => (log, [])
  | nonce :: rest =>
    let (log', new) := log.checkNonce nonce
    let (log'', answers) := checkNonces log' rest
    (log'', (nonce, new) :: answers)

/-- What a check of a nonce returns, and what it does to the nonces in memory. -/
theorem checkNonce_eq (log : AuditLog) (nonce : Block 32) :
  (log.checkNonce nonce).1.seenNonces = (offer 100000 log.seenNonces nonce).1 ∧
    (log.checkNonce nonce).2 = (offer 100000 log.seenNonces nonce).2
  := by
  rw [checkNonce, offer]
  split
  · exact ⟨rfl, rfl⟩
  · exact ⟨rfl, rfl⟩

/-- Successive checks are those of a filter that remembers 100000 nonces. -/
theorem checkNonces_eq (log : AuditLog) (nonces : List (Block 32)) :
  (log.checkNonces nonces).1.seenNonces = (offerAll 100000 log.seenNonces nonces).1 ∧
    (log.checkNonces nonces).2 = (offerAll 100000 log.seenNonces nonces).2
  := by
  induction nonces generalizing log with
  | nil => exact ⟨rfl, rfl⟩
  | cons nonce rest ih =>
    obtain ⟨hseen, hnew⟩ := log.checkNonce_eq nonce
    obtain ⟨hrest, hanswers⟩ := ih (log.checkNonce nonce).1
    rw [hseen] at hrest hanswers
    simp only [checkNonces, offerAll, hrest, hanswers, hnew, and_self]

/-- From the opening of a log on, no nonce is accepted twice in a block of 100000 successive
accepted ones, and after any calls a nonce is refused if it was accepted in the last block, and only
then. -/
theorem nodup_block_and_refused_iff {log : AuditLog} (hopened : log.seenNonces = ∅)
    (nonces : List (Block 32)) :
  (∀ k, (block 100000 k (admitted (log.checkNonces nonces).2)).Nodup) ∧
    ∀ nonce, ((log.checkNonces nonces).1.checkNonce nonce).2 = false ↔
      nonce ∈ lastBlock 100000 (admitted (log.checkNonces nonces).2)
  := by
  obtain ⟨hseen, hanswers⟩ := log.checkNonces_eq nonces
  have hremembers := (remembers_empty 100000).offerAll (by norm_num) nonces
  rw [hopened] at hseen hanswers
  rw [List.nil_append, ← hanswers] at hremembers
  constructor
  · apply hremembers.nodup
  · intro nonce
    rw [(checkNonce_eq _ nonce).2, hseen]
    apply hremembers.offer_eq_false_iff

/-- A nonce that comes back at once is refused, and another one is not. -/
theorem refused_replay :
  ((((fresh "node").checkNonces [numberedBlock 1]).1.checkNonce (numberedBlock 1)).2,
    (((fresh "node").checkNonces [numberedBlock 1]).1.checkNonce (numberedBlock 2)).2)
      = (false, true)
  := by
  have hopened : (fresh "node").seenNonces = ∅ := rfl
  have hiff := (nodup_block_and_refused_iff hopened [numberedBlock 1]).2
  have haccepted : lastBlock 100000 (admitted ((fresh "node").checkNonces [numberedBlock 1]).2)
      = [numberedBlock 1] := rfl
  rw [haccepted] at hiff
  have hreplay := (hiff (numberedBlock 1)).mpr (List.mem_singleton.mpr rfl)
  have hother : numberedBlock 2 ∉ [numberedBlock 1] := by
    decide +kernel
  rw [← hiff, Bool.not_eq_false] at hother
  rw [hreplay, hother]

theorem numberedBlock_injOn :
  Set.InjOn numberedBlock {n | n < 256 ^ 32}
  := by
  intro m hm n hn h
  have hbytes : beBytes 32 m = beBytes 32 n := congrArg Subtype.val h
  rw [← beNat_beBytes_of_lt (w := 32) hm, hbytes, beNat_beBytes_of_lt (w := 32) hn]

/-- The first 100001 numbered nonces. -/
def manyNonces : List (Block 32) := (List.range 100001).map numberedBlock

theorem nodup_manyNonces :
  manyNonces.Nodup
  := by
  apply List.Nodup.map_on _ List.nodup_range
  intro m hm n hn h
  have hlt : (100001 : ℕ) < 256 ^ 32 := by
    norm_num
  apply numberedBlock_injOn _ _ h
  · exact (List.mem_range.mp hm).trans hlt
  · exact (List.mem_range.mp hn).trans hlt

/-- After 100001 different nonces, the first one is accepted a second time. -/
theorem accepted_again :
  ¬ (admitted ((fresh "node").checkNonces (manyNonces ++ [numberedBlock 0])).2).Nodup
  := by
  have hnodup := nodup_manyNonces
  obtain ⟨rest, hrest, hlen⟩ : ∃ rest, manyNonces = numberedBlock 0 :: rest ∧
      rest.length = 100000 := by
    refine ⟨(List.range 100000).map (numberedBlock ∘ Nat.succ), ?_, ?_⟩
    · rw [manyNonces, List.range_succ_eq_map, List.map_cons, List.map_map]
    · rw [List.length_map, List.length_range]
  have hempty : (fresh "node").seenNonces = ∅ := rfl
  rw [hrest] at hnodup
  rw [(checkNonces_eq _ _).2, hempty, hrest]
  apply not_nodup_admitted (by norm_num) hnodup hlen

end AuditLog

end Cachee

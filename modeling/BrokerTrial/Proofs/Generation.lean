import Mathlib
import BrokerTrial.Generation

/-!
# Generated messages are distinct

Whatever a source of random bytes gives, a generation that succeeds has found as many messages as were
asked for, and no two of them share an id.
-/

namespace BrokerTrial.Generation

variable {failure : String} {draws : List (List UInt8)} {missing made : Nat}
  {seen : Std.HashSet String} {found messages : List Message}

/-- `seen` holds the ids of `found`, which are pairwise distinct. -/
structure Distinct (seen : Std.HashSet String) (found : List Message) : Prop where
  seen_iff : ∀ id, id ∈ seen ↔ id ∈ found.map Message.id
  nodup : (found.map Message.id).Nodup

theorem distinct_empty : Distinct ∅ [] where
  seen_iff id := by simp
  nodup := List.nodup_nil

theorem Distinct.insert {id : String} (h : Distinct seen found) (fresh : id ∉ seen) :
    Distinct (seen.insert id) (⟨id⟩ :: found) where
  seen_iff other := by
    rw [Std.HashSet.mem_insert, List.map_cons, List.mem_cons, h.seen_iff, beq_iff_eq, eq_comm]
  nodup := by
    rw [List.map_cons, List.nodup_cons]
    exact ⟨fun member => fresh ((h.seen_iff id).mpr member), h.nodup⟩

theorem collect_ok (distinct : Distinct seen found)
    (ok : (collect failure draws missing made seen found).result = .ok messages) :
    messages.length = found.length + missing ∧ (messages.map Message.id).Nodup := by
  fun_induction collect failure draws missing made seen found with
  | case1 _ made seen found =>
    cases ok
    rw [List.map_reverse, (List.reverse_perm _).nodup_iff, List.length_reverse]
    exact ⟨rfl, distinct.nodup⟩
  | case2 => cases ok
  | case3 draw draws missing made seen found id again ih => exact ih distinct ok
  | case4 draw draws missing made seen found id fresh ih =>
    have grown := distinct.insert fun member => fresh (Std.HashSet.contains_iff_mem.mpr member)
    obtain ⟨length, nodup⟩ := ih grown ok
    refine ⟨?_, nodup⟩
    rw [length, List.length_cons]
    omega

theorem run_ok {source : Entropy} {count byteLength : Nat}
    (ok : (run source count byteLength).result = .ok messages) :
    messages.length = count ∧ (messages.map Message.id).Nodup := by
  unfold run at ok
  split at ok
  · cases ok
  · split at ok
    · cases ok
    · simpa using collect_ok distinct_empty ok

/-! ### Generations that succeed -/

/-- The ids that some draws give, each once. -/
def ids (draws : List (List UInt8)) : Finset String := (draws.map hex).toFinset

/-- Enough draws give all messages that are missing, and no message comes from anywhere else. -/
theorem collect_of_enough (distinct : Distinct seen found)
    (enough : missing ≤ (ids draws \ (found.map Message.id).toFinset).card) :
    ∃ messages, (collect failure draws missing made seen found).result = .ok messages ∧
      ∀ m ∈ messages, m ∈ found ∨ m.id ∈ draws.map hex := by
  fun_induction collect failure draws missing made seen found with
  | case1 draws made seen found => exact ⟨_, rfl, fun m member => Or.inl (List.mem_reverse.mp member)⟩
  | case2 => simp [ids] at enough
  | case3 draw draws missing made seen found id again ih =>
    have known : id ∈ found.map Message.id := (distinct.seen_iff id).mp (Std.HashSet.contains_iff_mem.mp again)
    obtain ⟨messages, ok, drawn⟩ := ih distinct (by
      rwa [ids, List.map_cons, List.toFinset_cons,
        Finset.insert_sdiff_of_mem _ (List.mem_toFinset.mpr known)] at enough)
    refine ⟨messages, ok, fun m member => (drawn m member).imp_right (List.mem_cons_of_mem _)⟩
  | case4 draw draws missing made seen found id fresh ih =>
    have grown := distinct.insert fun member => fresh (Std.HashSet.contains_iff_mem.mpr member)
    have split : ids (draw :: draws) \ (found.map Message.id).toFinset ⊆
        insert id (ids draws \ ((⟨id⟩ :: found).map Message.id).toFinset) := by
      intro other member
      simp only [ids, List.map_cons, List.toFinset_cons, Finset.mem_sdiff, Finset.mem_insert] at member ⊢
      tauto
    have fewer := (enough.trans (Finset.card_le_card split)).trans (Finset.card_insert_le ..)
    obtain ⟨messages, ok, drawn⟩ := ih grown (Nat.le_of_succ_le_succ fewer)
    refine ⟨messages, ok, fun m member => ?_⟩
    rcases drawn m member with here | later
    · rcases List.mem_cons.mp here with rfl | before
      · exact Or.inr List.mem_cons_self
      · exact Or.inl before
    · exact Or.inr (List.mem_cons_of_mem _ later)

theorem run_of_enough {source : Entropy} {count byteLength : Nat} (long : 0 < byteLength)
    (fits : count ≤ 256 ^ byteLength) (enough : count ≤ (ids source.draws).card) :
    ∃ messages, (run source count byteLength).result = .ok messages ∧
      ∀ m ∈ messages, m.id ∈ source.draws.map hex := by
  have space : keyspaceFits count byteLength = true := by
    have power : Nat.pow 2 (8 * byteLength) = 256 ^ byteLength := Nat.pow_mul 2 8 byteLength
    rw [keyspaceFits, power, decide_eq_true fits, Bool.or_true]
  have missing : count ≤ (ids source.draws \ (([] : List Message).map Message.id).toFinset).card := by
    simpa using enough
  have all : ∃ messages, (collect source.failure source.draws count 0 ∅ []).result = .ok messages ∧ _ :=
    collect_of_enough distinct_empty missing
  obtain ⟨messages, ok, drawn⟩ := all
  refine ⟨messages, ?_, fun m member => (drawn m member).resolve_left List.not_mem_nil⟩
  rw [run, if_neg (by omega), space]
  exact ok

end BrokerTrial.Generation

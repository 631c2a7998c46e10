import Mathlib
import BrokerTrial.Proofs.Verification

/-!
# What a verdict tells of a failure

A check that fails tells the wrong total, each sent message that came too seldom or too often, and each message
that came though it was never sent. None of this depends on the order in which messages came.
-/

namespace BrokerTrial.Verification

variable {sent received received' : List Message} {copies : Nat}

/-! ### Sent messages -/

theorem checkSent_fst_of_nodup (distinct : sent.Nodup) :
    (checkSent copies sent received).1 =
      (sent.filter fun m => received.count m ≠ copies).map fun m => .copies m copies (received.count m) := by
  induction sent generalizing received with
  | nil => rfl
  | cons m sent ih =>
    obtain ⟨fresh, distinct⟩ := List.nodup_cons.mp distinct
    have untouched : ∀ x ∈ sent, (received.filter (· ≠ m)).count x = received.count x := by
      intro x member
      have other : x ≠ m := fun same => fresh (same ▸ member)
      rw [count_filter_ne, if_neg other]
    have wrong : (sent.filter fun x => (received.filter (· ≠ m)).count x ≠ copies) =
        sent.filter fun x => received.count x ≠ copies := by
      apply List.filter_congr
      intro x member
      rw [untouched x member]
    have rest : ((sent.filter fun x => received.count x ≠ copies).map
        fun x => Discrepancy.copies x copies ((received.filter (· ≠ m)).count x)) =
        (sent.filter fun x => received.count x ≠ copies).map
          fun x => .copies x copies (received.count x) := by
      apply List.map_congr_left
      intro x member
      rw [untouched x (List.mem_filter.mp member).1]
    simp only [checkSent, ih distinct, wrong, rest]
    by_cases right : received.count m = copies
    · simp [right]
    · simp [right]

/-- Whatever is wrong with a sent message, it is the number of its copies. -/
theorem mem_checkSent {x : Discrepancy} (member : x ∈ (checkSent copies sent received).1) :
    ∃ m got, x = .copies m copies got := by
  induction sent generalizing received with
  | nil => cases member
  | cons m sent ih =>
    simp only [checkSent] at member
    split at member
    · exact ih member
    · rcases List.mem_cons.mp member with same | later
      · exact ⟨m, received.count m, same⟩
      · exact ih later

theorem checkSent_fst_perm (same : received.Perm received') :
    (checkSent copies sent received).1 = (checkSent copies sent received').1 := by
  induction sent generalizing received received' with
  | nil => rfl
  | cons m sent ih =>
    have rest := ih (same.filter (· ≠ m))
    simp only [checkSent, rest, same.count_eq m]

/-! ### Messages that were never sent -/

/-- An ascending list is told run by run: each message once, with the number of its copies. -/
structure Counted (messages : List Message) (pairs : List (Message × Nat)) : Prop where
  ascending : pairs.Pairwise fun p q => p.1.id < q.1.id
  mem_iff : ∀ p, p ∈ pairs ↔ p.1 ∈ messages ∧ p.2 = messages.count p.1

theorem Counted.none : Counted [] [] := ⟨.nil, by simp⟩

theorem Counted.again {m : Message} {n : Nat} {rest : List Message} {others : List (Message × Nat)}
    (h : Counted rest ((m, n) :: others)) : Counted (m :: rest) ((m, n + 1) :: others) := by
  obtain ⟨above, ascending⟩ := List.pairwise_cons.mp h.ascending
  have here := (h.mem_iff (m, n)).mp List.mem_cons_self
  refine ⟨List.pairwise_cons.mpr ⟨above, ascending⟩, ?_⟩
  rintro ⟨x, k⟩
  by_cases same : x = m
  · subst x
    -- the run of `m` is the first one, and no later run is one of `m`
    have alone : ∀ k, (m, k) ∉ others := fun k member => absurd (above (m, k) member) (String.lt_irrefl _)
    have count : n = rest.count m := here.2
    simp [alone, count]
  · have old := h.mem_iff (x, k)
    simp only [List.mem_cons, Prod.mk.injEq, same, false_and, false_or] at old ⊢
    rw [old, List.count_cons_of_ne (Ne.symm same)]

theorem Counted.new {m : Message} {rest : List Message} {others : List (Message × Nat)}
    (h : Counted rest others) (above : ∀ p ∈ others, m.id < p.1.id) :
    Counted (m :: rest) ((m, 1) :: others) := by
  have fresh : m ∉ rest := by
    intro member
    have here := (h.mem_iff (m, rest.count m)).mpr ⟨member, rfl⟩
    exact absurd (above _ here) (String.lt_irrefl _)
  refine ⟨List.pairwise_cons.mpr ⟨above, h.ascending⟩, ?_⟩
  rintro ⟨x, k⟩
  have old := h.mem_iff (x, k)
  by_cases same : x = m
  · subst x
    simp only at old
    simp [old, fresh, List.count_eq_zero.mpr fresh]
  · simp only [List.mem_cons, Prod.mk.injEq, same, false_and, false_or] at old ⊢
    rw [old, List.count_cons_of_ne (Ne.symm same)]

theorem runs_counted {messages : List Message} (ascending : messages.Pairwise fun a b => a.id ≤ b.id) :
    Counted messages (runs messages) := by
  induction messages with
  | nil => exact .none
  | cons m rest ih =>
    obtain ⟨least, ascending⟩ := List.pairwise_cons.mp ascending
    have counted := ih ascending
    unfold runs
    split
    · rename_i m' n others found
      rw [found] at counted
      split
      · rename_i same
        subst m'
        exact counted.again
      · rename_i other
        have member : m' ∈ rest := ((counted.mem_iff (m', n)).mp List.mem_cons_self).1
        have below : m.id < m'.id := by
          apply lt_of_le_of_ne (least m' member)
          exact fun same => other (id_injective same)
        apply counted.new
        intro p later
        rcases List.mem_cons.mp later with rfl | later
        · exact below
        · exact String.lt_trans below ((List.pairwise_cons.mp counted.ascending).1 p later)
    · rename_i found
      rw [found] at counted
      exact counted.new (by simp)

/-- The messages that came and were never sent, ascending, each once. -/
structure Strangers (sent received strangers : List Message) : Prop where
  ascending : strangers.Pairwise fun a b => a.id < b.id
  mem_iff : ∀ m, m ∈ strangers ↔ m ∈ received ∧ m ∉ sent

theorem runs_of_strangers (sent received : List Message) (copies : Nat) :
    ∃ strangers, Strangers sent received strangers ∧
      runs (Message.sort (checkSent copies sent received).2) =
        strangers.map fun m => (m, received.count m) := by
  have counted := runs_counted (sort_sorted (checkSent copies sent received).2)
  have left : ∀ m, m ∈ Message.sort (checkSent copies sent received).2 ↔ m ∈ received ∧ m ∉ sent := by
    intro m
    rw [(sort_perm _).mem_iff, checkSent_snd]
    simp
  have count : ∀ m ∉ sent, (Message.sort (checkSent copies sent received).2).count m = received.count m := by
    intro m unsent
    rw [(sort_perm _).count_eq, checkSent_snd, List.count_filter (by simpa using unsent)]
  refine ⟨(runs (Message.sort (checkSent copies sent received).2)).map Prod.fst,
    ⟨List.pairwise_map.mpr counted.ascending, fun m => ?_⟩, ?_⟩
  · rw [← left m, List.mem_map]
    constructor
    · rintro ⟨p, member, rfl⟩
      exact ((counted.mem_iff p).mp member).1
    · intro member
      refine ⟨(m, (Message.sort (checkSent copies sent received).2).count m), ?_, rfl⟩
      exact (counted.mem_iff _).mpr ⟨member, rfl⟩
  · rw [List.map_map]
    conv_lhs => rw [← List.map_id (runs _)]
    apply List.map_congr_left
    rintro ⟨m, n⟩ member
    obtain ⟨came, counts⟩ := (counted.mem_iff (m, n)).mp member
    show (m, n) = (m, received.count m)
    rw [← count m ((left m).mp came).2, ← counts]

/-! ### All that is told -/

/-- The entries of a verdict on messages of which some were never sent. -/
def entries (sent received strangers : List Message) (copies : Nat) : List Discrepancy :=
  (if received.length = sent.length * copies then []
    else [.total (sent.length * copies) received.length]) ++
  ((sent.filter fun m => received.count m ≠ copies).map fun m => .copies m copies (received.count m)) ++
  strangers.map fun m => .unsent m (received.count m)

theorem discrepancies_of_nodup (distinct : sent.Nodup) (received : List Message) (copies : Nat) :
    ∃ strangers, Strangers sent received strangers ∧
      discrepancies sent received copies = entries sent received strangers copies := by
  obtain ⟨strangers, are, told⟩ := runs_of_strangers sent received copies
  refine ⟨strangers, are, ?_⟩
  simp only [discrepancies, checkSent_fst_of_nodup distinct, told, entries, List.map_map]
  rfl

theorem sort_eq_of_perm (same : received.Perm received') : Message.sort received = Message.sort received' := by
  have perm := (sort_perm received).trans (same.trans (sort_perm received').symm)
  apply perm.eq_of_pairwise _ (sort_sorted received) (sort_sorted received')
  intro a b _ _ below above
  exact id_injective (String.le_antisymm below above)

theorem check_perm (same : received.Perm received') :
    check sent received copies = check sent received' copies := by
  have left : Message.sort (checkSent copies sent received).2 =
      Message.sort (checkSent copies sent received').2 := by
    rw [checkSent_snd, checkSent_snd]
    exact sort_eq_of_perm (same.filter _)
  have found : discrepancies sent received copies = discrepancies sent received' copies := by
    simp only [discrepancies, checkSent_fst_perm same, left, same.length_eq]
  simp only [check, found, sort_eq_of_perm same]

/-- If every sent message came as often as it should and no other came at all, the total is right. -/
theorem total_not_alone (expected got : Nat) : discrepancies sent received copies ≠ [.total expected got] := by
  intro alone
  have told : ∀ x ∈ discrepancies sent received copies, x = .total expected got := by
    intro x member
    rw [alone] at member
    exact List.mem_singleton.mp member
  simp only [discrepancies, List.forall_mem_append] at told
  obtain ⟨⟨-, wrong⟩, unsent⟩ := told
  have right : (checkSent copies sent received).1 = [] := by
    apply List.eq_nil_iff_forall_not_mem.mpr
    intro x member
    obtain ⟨m, n, same⟩ := mem_checkSent member
    have other := wrong x member
    rw [same] at other
    cases other
  have known : ∀ m ∈ received, m ∈ sent := by
    intro m came
    by_contra stranger
    obtain ⟨strangers, are, runs⟩ := runs_of_strangers sent received copies
    have entry : .unsent m (received.count m) ∈ strangers.map fun m => Discrepancy.unsent m (received.count m) :=
      List.mem_map_of_mem ((are.mem_iff m).mpr ⟨came, stranger⟩)
    have other := unsent _ (by rw [runs, List.map_map]; exact entry)
    cases other
  obtain ⟨counts, once⟩ := checkSent_fst_eq_nil_iff.mp right
  have none : discrepancies sent received copies = [] :=
    discrepancies_eq_nil_iff_counts.mpr ⟨count_eq_mul counts once known, once⟩
  rw [none] at alone
  cases alone

/-- A check tells each way in which deliveries are wrong, once and in order, if no message is sent twice: the
total, then sent messages in the order in which they were sent, then the others ascending. Whether one is sent
twice or not, the verdict is the same for every order of what was received, and the total is never wrong alone. -/
theorem failures_told_in_full (sent received : List Message) (copies : Nat) :
    let v := check sent received copies
    let told := (discrepancies sent received copies).map Discrepancy.text
    (v.failure = none ↔ told = []) ∧ (v.passed = true ↔ told = []) ∧
    (told ≠ [] → v.failure = some ("; ".intercalate told)) ∧
    ((sent.map Message.id).Nodup → ∃ strangers : List Message,
      strangers.Pairwise (fun a b => a.id < b.id) ∧ (∀ m, m ∈ strangers ↔ m ∈ received ∧ m ∉ sent) ∧
      told =
        (if received.length = sent.length * copies then []
          else ["expected " ++ toString (sent.length * copies) ++ " deliveries, got " ++
            toString received.length]) ++
        ((sent.filter fun m => received.count m ≠ copies).map fun m =>
          m.id ++ ": expected " ++ toString copies ++ ", got " ++ toString (received.count m)) ++
        strangers.map fun m => m.id ++ ": not sent, got " ++ toString (received.count m)) ∧
    (∀ received', received'.Perm received → check sent received' copies = v) ∧
    ∀ expected got, discrepancies sent received copies ≠ [.total expected got] := by
  intro v told
  have empty : told = [] ↔ discrepancies sent received copies = [] := List.map_eq_nil_iff
  refine ⟨?_, ?_, ?_, ?_, fun received' same => check_perm same, total_not_alone⟩
  · rw [empty, ← check_passed_iff, Verdict.passed, Option.isNone_iff_eq_none]
  · rw [empty, check_passed_iff]
  · intro some
    have filled : ¬(discrepancies sent received copies).isEmpty = true := by
      rw [List.isEmpty_iff, ← empty]
      exact some
    exact if_neg filled
  · intro distinct
    have nodup : sent.Nodup := (List.nodup_map_iff id_injective).mp distinct
    obtain ⟨strangers, are, same⟩ := discrepancies_of_nodup nodup received copies
    refine ⟨strangers, are.ascending, are.mem_iff, ?_⟩
    show (discrepancies sent received copies).map Discrepancy.text = _
    rw [same, entries, List.map_append, List.map_append, List.map_map, List.map_map]
    congr 2
    split <;> rfl

/-- One message never came, one came too often, and two came that were never sent. -/
theorem failures_told_in_full_of_strangers :
    let sent : List Message := [⟨"b"⟩, ⟨"c"⟩, ⟨"a"⟩]
    let received : List Message := [⟨"z"⟩, ⟨"a"⟩, ⟨"b"⟩, ⟨"x"⟩, ⟨"a"⟩, ⟨"z"⟩]
    let told := (discrepancies sent received 1).map Discrepancy.text
    (sent.map Message.id).Nodup ∧
      (∃ strangers : List Message,
        strangers.Pairwise (fun a b => a.id < b.id) ∧ (∀ m, m ∈ strangers ↔ m ∈ received ∧ m ∉ sent) ∧
        told = ["expected 3 deliveries, got 6", "c: expected 1, got 0", "a: expected 1, got 2"] ++
          strangers.map fun m => m.id ++ ": not sent, got " ++ toString (received.count m)) ∧
      (check sent received 1).failure =
        some ("expected 3 deliveries, got 6; c: expected 1, got 0; a: expected 1, got 2; " ++
          "x: not sent, got 1; z: not sent, got 2") := by
  intro sent received told
  have distinct : (sent.map Message.id).Nodup := by decide
  obtain ⟨-, -, -, all, -⟩ := failures_told_in_full sent received 1
  obtain ⟨strangers, ascending, mem_iff, all⟩ := all distinct
  refine ⟨distinct, ⟨strangers, ascending, mem_iff, all.trans ?_⟩, by cbv⟩
  congr 1
  cbv

end BrokerTrial.Verification

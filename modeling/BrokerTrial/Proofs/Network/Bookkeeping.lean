import Mathlib
import BrokerTrial.Network.History
import BrokerTrial.Proofs.Network.Health

/-!
# Bookkeeping of subscriptions

An id that is given out is held by one station until it is deleted, and no id is given out twice.
-/

namespace BrokerTrial.Network

variable {n : Network} {m : Member} {a : AnalysisId} {url : String} {id : SubscriptionId} {s : Station}

/-! ### What changes beside the clock and the posts -/

theorem tick_beside (n : Network) (i now : Nat) (posts : List Post) (redeliveries : List Redelivery) :
    { n.tick i with now, posts, redeliveries } = { n with now, posts, redeliveries } := by
  unfold tick
  split
  · rfl
  · dsimp only
    split <;> rfl

/-- Time that passes changes nothing else. -/
theorem pass_beside (n : Network) (time now : Nat) (posts : List Post) (redeliveries : List Redelivery) :
    { n.pass time with now, posts, redeliveries } = { n with now, posts, redeliveries } := by
  unfold pass
  generalize n.redeliveries.foldl _ 0 = fuel
  induction fuel generalizing n with
  | zero => rfl
  | succ fuel ih =>
    rw [passWith]
    split
    · rfl
    · split
      · rfl
      · exact (ih _).trans (tick_beside ..)

/-- So does a message that is sent, other than that it counts and is posted. -/
theorem send_beside (n : Network) (m : Member) (a : AnalysisId) (target : Target) (message : Message)
    (sent failures drops : Nat) (posts : List Post) (redeliveries : List Redelivery) :
    { (n.send m a target message).2 with sent, failures, drops, posts, redeliveries } =
      { n with sent, failures, drops, posts, redeliveries } := by
  have accepted : { (send.accept n m a target message).2 with sent, failures, drops, posts, redeliveries } =
      { n with sent, failures, drops, posts, redeliveries } :=
    (congrArg (fun n : Network => { n with sent, failures, drops, posts, redeliveries })
      (foldl_deliver message _ _ posts redeliveries) :)
  unfold send
  dsimp only
  split
  · rfl
  · split
    · exact accepted
    · split
      · rfl
      · exact accepted

/-! ### The station that answers to an id -/

theorem changeFirst_append {i : NodeId} {front back : List Station} (apart : ∀ x ∈ front, x.id ≠ i)
    (same : s.id = i) (f : Station → Station) :
    changeFirst i f (front ++ s :: back) = front ++ f s :: back := by
  induction front with
  | nil => rw [List.nil_append, changeFirst, if_pos same, List.nil_append]
  | cons other front ih =>
    rw [List.cons_append, changeFirst, if_neg (apart other List.mem_cons_self)]
    exact congrArg _ (ih fun x member => apart x (List.mem_cons_of_mem other member))

/-- The first station of an id stands behind others of other ids, and it is the one that changes. -/
theorem station_split {i : NodeId} (found : n.station? i = some s) :
    s.id = i ∧ ∃ front back, n.stations = front ++ s :: back ∧
      ∀ f, (n.change i f).stations = front ++ f s :: back := by
  obtain ⟨here, front, back, split, before⟩ := List.find?_eq_some_iff_append.mp found
  have same : s.id = i := by simpa using here
  refine ⟨same, front, back, split, fun f => ?_⟩
  rw [change, split]
  exact changeFirst_append (fun x member => by simpa using before x member) same f

def heldAt (s : Station) : List SubscriptionId := s.subscriptions.map (·.id)

theorem active_eq (n : Network) : n.active = n.stations.flatMap heldAt := List.map_flatMap

theorem active_of_split {front back : List Station} (split : n.stations = front ++ s :: back) :
    n.active = front.flatMap heldAt ++ (heldAt s ++ back.flatMap heldAt) := by
  rw [active_eq, split, List.flatMap_append, List.flatMap_cons]

theorem active_of_held {front back : List Station} (split : n.stations = front ++ s :: back)
    (member : id ∈ heldAt s) : id ∈ n.active := by
  rw [active_of_split split]
  exact List.mem_append_right _ (List.mem_append_left _ member)

/-- What a station gets is added to what is registered. -/
theorem added {front back : List Station} (split : n.stations = front ++ s :: back) (new : Subscription) :
    ((front ++ { s with subscriptions := s.subscriptions ++ [new] } :: back).flatMap heldAt).Perm
      (n.active ++ [new.id]) := by
  rw [active_of_split split, List.flatMap_append, List.flatMap_cons]
  refine List.perm_iff_count.mpr fun x => ?_
  simp only [heldAt, List.map_append, List.map_cons, List.map_nil, List.count_append]
  omega

theorem active_change {f : Station → Station} (same : ∀ s, heldAt (f s) = heldAt s) (i : NodeId) :
    (n.change i f).active = n.active := by
  rw [active_eq, active_eq, change]
  dsimp only
  induction n.stations with
  | nil => rfl
  | cons s rest ih =>
    rw [changeFirst]
    split
    · rw [List.flatMap_cons, List.flatMap_cons, same]
    · rw [List.flatMap_cons, List.flatMap_cons, ih]

theorem set_active (n : Network) (x : Setting) : (n.set x).active = n.active := by
  cases x with
  | failSubscriptions i | failDeletions i | failDiscovery i | ready i =>
    rw [set]
    apply active_change
    exact fun _ => rfl
  | failSends count | dropDeliveries count | redeliver interval => rfl

/-! ### What the books say -/

/-- Those given out are those that are registered and those that are deleted, each once; and their numbers are
not above the number of subscriptions asked for. -/
structure Booked (h : History) : Prop where
  perm : (h.network.active ++ h.network.deleted).Perm h.given
  nodup : h.given.Nodup
  numbered : ∀ id ∈ h.given, ∃ k ≤ h.network.asked, id = ⟨"sub-" ++ toString k⟩

theorem number_injective {j k : Nat}
    (same : SubscriptionId.mk ("sub-" ++ toString j) = ⟨"sub-" ++ toString k⟩) : j = k :=
  Nat.repr_injective ((String.append_right_inj "sub-").mp (SubscriptionId.mk.inj same))

namespace Booked

variable {h : History}

theorem nextId_fresh (b : Booked h) : h.network.nextId ∉ h.given := by
  intro member
  obtain ⟨k, bound, same⟩ := b.numbered _ member
  have := number_injective same
  omega

/-- An action that leaves the books as they are. -/
theorem same (b : Booked h) {n : Network} (active : n.active = h.network.active)
    (deleted : n.deleted = h.network.deleted) (asked : h.network.asked ≤ n.asked) :
    Booked { network := n, given := h.given } := by
  refine ⟨?_, b.nodup, fun id member => ?_⟩
  · rw [active, deleted]
    exact b.perm
  · obtain ⟨k, bound, same⟩ := b.numbered id member
    exact ⟨k, Nat.le_trans bound asked, same⟩

end Booked

/-! ### Calls -/

theorem subscribe_cases (n : Network) (m : Member) (a : AnalysisId) (url : String) :
    (∃ e, n.subscribe m a url = (.error e, { n with asked := n.asked + 1 })) ∨
    ∃ front s back, n.stations = front ++ s :: back ∧ s.id = m.id ∧
      n.subscribe m a url =
        (.ok n.nextId,
          { n with
            asked := n.asked + 1
            stations :=
              front ++ { s with subscriptions := s.subscriptions ++ [⟨n.nextId, a, url⟩] } :: back }) := by
  unfold subscribe
  dsimp only
  split
  · exact Or.inl ⟨_, rfl⟩
  · rename_i s found
    split
    · exact Or.inl ⟨_, rfl⟩
    · obtain ⟨same, front, back, split, changed⟩ := station_split found
      refine Or.inr ⟨front, s, back, split, same, ?_⟩
      refine Prod.ext rfl ?_
      change { n with asked := n.asked + 1, stations := (n.change m.id _).stations } = _
      rw [changed]

theorem unsubscribe_cases (n : Network) (m : Member) (id : SubscriptionId) :
    (∃ e, n.unsubscribe m id = (.error e, n)) ∨
    ∃ front s back, n.stations = front ++ s :: back ∧ n.station? m.id = some s ∧ id ∈ heldAt s ∧
      s.failsDeletion = false ∧
      n.unsubscribe m id =
        (.ok (),
          { n with
            stations := front ++ { s with subscriptions := s.subscriptions.filter (·.id ≠ id) } :: back
            deleted := n.deleted ++ [id] }) := by
  unfold unsubscribe
  dsimp only
  split
  · exact Or.inl ⟨_, rfl⟩
  · rename_i s found
    split
    · exact Or.inl ⟨_, rfl⟩
    · rename_i works
      split
      · exact Or.inl ⟨_, rfl⟩
      · rename_i some
        obtain ⟨same, front, back, split, changed⟩ := station_split found
        refine Or.inr ⟨front, s, back, split, found, ?_, by simpa using works, ?_⟩
        · simpa [heldAt] using some
        · refine Prod.ext rfl ?_
          change { n with stations := (n.change m.id _).stations, deleted := n.deleted ++ [id] } = _
          rw [changed]

theorem subscribe_ok_iff :
    (∃ id, (n.subscribe m a url).1 = .ok id) ↔ ∃ s, n.station? m.id = some s ∧ s.failsSubscription = false := by
  constructor
  · rintro ⟨id, ok⟩
    unfold subscribe at ok
    dsimp only at ok
    split at ok
    · cases ok
    · rename_i s found
      split at ok
      · cases ok
      · rename_i works
        exact ⟨s, found, Bool.eq_false_of_not_eq_true works⟩
  · rintro ⟨s, found, works⟩
    exact ⟨n.nextId, by simp only [subscribe, found, works, Bool.false_eq_true, if_false]⟩

theorem unsubscribe_ok_iff :
    (n.unsubscribe m id).1 = .ok () ↔
      ∃ s, n.station? m.id = some s ∧ id ∈ heldAt s ∧ s.failsDeletion = false := by
  constructor
  · intro ok
    obtain ⟨e, failed⟩ | ⟨front, s, back, -, found, member, works, -⟩ := n.unsubscribe_cases m id
    · rw [failed] at ok
      cases ok
    · exact ⟨s, found, member, works⟩
  · rintro ⟨s, found, member, works⟩
    have some : ¬ s.subscriptions.all (·.id ≠ id) = true := by simpa [heldAt] using member
    simp only [unsubscribe, found, works, if_neg some, Bool.false_eq_true, if_false]

/-! ### One action after the other -/

namespace Booked

variable {h : History}

theorem start : Booked {} := ⟨List.Perm.refl _, List.nodup_nil, fun _ member => absurd member List.not_mem_nil⟩

theorem active_nodup (b : Booked h) : h.network.active.Nodup :=
  (List.nodup_append.mp (b.perm.nodup_iff.mpr b.nodup)).1

theorem held_once (b : Booked h) {t : Station} (here : s ∈ h.network.stations) (there : t ∈ h.network.stations)
    (held : id ∈ heldAt s) (again : id ∈ heldAt t) (apart : s ≠ t) : False := by
  have nodup := b.active_nodup
  rw [active_eq] at nodup
  have : Std.Symm (Function.onFun List.Disjoint heldAt) := ⟨fun _ _ disjoint => List.Disjoint.symm disjoint⟩
  exact (List.nodup_flatMap.mp nodup).2.forall here there apart held again

theorem disjoint (b : Booked h) : h.network.active.Disjoint h.network.deleted := fun id active deleted =>
  (List.nodup_append.mp (b.perm.nodup_iff.mpr b.nodup)).2.2 id active id deleted rfl

theorem subscribe (b : Booked h) (m : Member) (a : AnalysisId) (url : String) :
    Booked (h.step (.subscribe m a url)) := by
  obtain ⟨e, failed⟩ | ⟨front, s, back, split, -, made⟩ := h.network.subscribe_cases m a url
  · -- the number is used up all the same, so numbers given out stay below the count
    have step : h.step (.subscribe m a url) =
        { network := { h.network with asked := h.network.asked + 1 }, given := h.given } := by
      simp [History.step, perform, failed, Except.toOption, Except.map]
    rw [step]
    exact b.same rfl rfl (Nat.le_succ _)
  · have step : h.step (.subscribe m a url) =
        { network := (h.network.subscribe m a url).2, given := h.given ++ [h.network.nextId] } := by
      simp [History.step, perform, made, Except.toOption, Except.map]
    rw [step, made]
    have fresh := b.nextId_fresh
    refine ⟨?_, ?_, fun id member => ?_⟩
    · rw [active_eq]
      refine List.Perm.trans ?_ (b.perm.append_right [h.network.nextId])
      refine ((added split ⟨h.network.nextId, a, url⟩).append_right _).trans ?_
      refine List.perm_iff_count.mpr fun x => ?_
      simp only [List.count_append]
      omega
    · exact List.nodup_append.mpr ⟨b.nodup, List.nodup_singleton _, fun x old y new same => by
        rw [List.mem_singleton.mp new] at same
        exact fresh (same ▸ old)⟩
    · rcases List.mem_append.mp member with old | new
      · obtain ⟨k, bound, same⟩ := b.numbered id old
        exact ⟨k, Nat.le_succ_of_le bound, same⟩
      · exact ⟨h.network.asked + 1, Nat.le_refl _, List.mem_singleton.mp new⟩

/-- An id that is registered is registered once, so to remove it is to remove it alone. -/
theorem removed (b : Booked h) {front back : List Station} (split : h.network.stations = front ++ s :: back)
    (member : id ∈ heldAt s) :
    (front ++ { s with subscriptions := s.subscriptions.filter (·.id ≠ id) } :: back).flatMap heldAt =
      h.network.active.erase id := by
  have nodup := b.active_nodup
  have kept : heldAt { s with subscriptions := s.subscriptions.filter (·.id ≠ id) } = (heldAt s).erase id := by
    rw [active_of_split split] at nodup
    have here := (List.nodup_append.mp (List.nodup_append.mp nodup).2.1).1
    rw [here.erase_eq_filter, heldAt, heldAt, List.filter_map]
    congr 1
    exact List.filter_congr fun x _ => by simp [bne, beq_eq_decide]
  rw [List.flatMap_append, List.flatMap_cons, kept, active_of_split split]
  rw [active_of_split split] at nodup
  have apart : id ∉ front.flatMap heldAt := fun clash =>
    (List.nodup_append.mp nodup).2.2 id clash id (List.mem_append_left _ member) rfl
  rw [List.erase_append_right _ apart, List.erase_append_left _ member]

theorem unsubscribe (b : Booked h) (m : Member) (id : SubscriptionId) :
    Booked (h.step (.unsubscribe m id)) := by
  have step : h.step (.unsubscribe m id) =
      { network := (h.network.unsubscribe m id).2, given := h.given } := by
    cases result : (h.network.unsubscribe m id).1 <;>
      simp [History.step, perform, result, Except.toOption, Except.map]
  rw [step]
  obtain ⟨e, failed⟩ | ⟨front, s, back, split, -, member, -, done⟩ := h.network.unsubscribe_cases m id
  · rw [failed]
    exact b
  · rw [done]
    refine ⟨?_, b.nodup, b.numbered⟩
    rw [active_eq]
    dsimp only
    rw [b.removed split member]
    refine List.Perm.trans ?_ b.perm
    refine List.perm_iff_count.mpr fun x => ?_
    have counted := (List.perm_cons_erase (active_of_held split member)).count_eq x
    simp only [List.count_append, List.count_cons, List.count_nil] at counted ⊢
    omega

theorem step (b : Booked h) (x : Action) : Booked (h.step x) := by
  cases x with
  | join m =>
    rw [History.step, perform, Except.toOption, Option.bind_some, id, Option.toList_none, List.append_nil]
    refine b.same ?_ rfl (Nat.le_refl _)
    simp [active_eq, join, heldAt]
  | set x =>
    rw [History.step, perform, Except.toOption, Option.bind_some, id, Option.toList_none, List.append_nil]
    exact b.same (h.network.set_active x) (by cases x <;> rfl) (by cases x <;> exact Nat.le_refl _)
  | subscribe m a url => exact b.subscribe m a url
  | unsubscribe m id => exact b.unsubscribe m id
  | discover m =>
    have step : h.step (.discover m) = h := by
      cases result : h.network.discover m <;> simp [History.step, perform, result, Except.toOption, Except.map]
    rw [step]
    exact b
  | send m a target message =>
    have step : h.step (.send m a target message) =
        { network := (h.network.send m a target message).2, given := h.given } := by
      cases result : (h.network.send m a target message).1 <;>
        simp [History.step, perform, result, Except.toOption, Except.map]
    have beside := h.network.send_beside m a target message 0 0 0 [] []
    have stations : (h.network.send m a target message).2.stations = h.network.stations :=
      (congrArg Network.stations beside :)
    have asked : (h.network.send m a target message).2.asked = h.network.asked :=
      (congrArg Network.asked beside :)
    rw [step]
    exact b.same (by rw [active_eq, active_eq, stations]) (congrArg Network.deleted beside :)
      (Nat.le_of_eq asked.symm)
  | pass time =>
    rw [History.step, perform, Except.toOption, Option.bind_some, id, Option.toList_none, List.append_nil]
    have beside := h.network.pass_beside time 0 [] []
    have stations : (h.network.pass time).stations = h.network.stations := (congrArg Network.stations beside :)
    have asked : (h.network.pass time).asked = h.network.asked := (congrArg Network.asked beside :)
    exact b.same (by rw [active_eq, active_eq, stations]) (congrArg Network.deleted beside :)
      (Nat.le_of_eq asked.symm)

theorem run (b : Booked h) (actions : List Action) : Booked (h.run actions) := by
  induction actions generalizing h with
  | nil => exact b
  | cons x rest ih => exact ih (b.step x)

end Booked

/-! ### What can be relied on -/

/-- Nothing is different that a caller could see. -/
structure Untouched (n n' : Network) : Prop where
  active : n'.active = n.active
  deleted : n'.deleted = n.deleted
  sent : n'.sent = n.sent
  failures : n'.failures = n.failures
  drops : n'.drops = n.drops

/-- The subscriptions of a network are accounted for. -/
structure Accounted (h : History) : Prop where
  active_nodup : h.network.active.Nodup
  deleted_nodup : h.network.deleted.Nodup
  disjoint : h.network.active.Disjoint h.network.deleted
  /-- What was given out is registered or deleted, and nothing else is. -/
  exact : ∀ id, id ∈ h.given ↔ id ∈ h.network.active ∨ id ∈ h.network.deleted
  given_nodup : h.given.Nodup
  /-- To create a subscription is to add it alone, under a new id. -/
  adds : ∀ m a url id n, h.network.subscribe m a url = (.ok id, n) →
    id ∉ h.given ∧ n.active.Perm (h.network.active ++ [id]) ∧ n.deleted = h.network.deleted
  creates_iff : ∀ m a url, (∃ id, (h.network.subscribe m a url).1 = .ok id) ↔
    ∃ s, h.network.station? m.id = some s ∧ s.failsSubscription = false
  /-- To delete a subscription is to move it alone. -/
  moves : ∀ m id n, h.network.unsubscribe m id = (.ok (), n) →
    id ∈ h.network.active ∧ n.active = h.network.active.erase id ∧ n.deleted = h.network.deleted ++ [id]
  deletes_iff : ∀ m id, (h.network.unsubscribe m id).1 = .ok () ↔
    ∃ s, h.network.station? m.id = some s ∧ id ∈ s.subscriptions.map (·.id) ∧ s.failsDeletion = false
  again : ∀ m id, id ∈ h.network.deleted → (h.network.unsubscribe m id).1 ≠ .ok ()
  elsewhere : ∀ s ∈ h.network.stations, ∀ id ∈ s.subscriptions.map (·.id), ∀ m, m.id ≠ s.id →
    (h.network.unsubscribe m id).1 ≠ .ok ()
  /-- A failure leaves all as it is, that of a message to be sent apart. -/
  failed : ∀ x e, (∀ m a target message, x ≠ .send m a target message) →
    (h.network.perform x).1 = .error e → Untouched h.network (h.network.perform x).2
  /-- What is deleted stays deleted, and what is given out stays given out. -/
  lasting : ∀ actions, h.network.deleted <+: (h.run actions).network.deleted ∧ h.given <+: (h.run actions).given

/-! ### All that can be done to a network -/

namespace Untouched

theorem refl (n : Network) : Untouched n n := ⟨rfl, rfl, rfl, rfl, rfl⟩

/-- A call that fails changes nothing, other than that an id may be used up. -/
theorem perform (x : Action) {e : BrokerError} (call : ∀ m a target message, x ≠ .send m a target message)
    (failed : (n.perform x).1 = .error e) : Untouched n (n.perform x).2 := by
  cases x with
  | join m => cases failed
  | set x => cases failed
  | pass time => cases failed
  | send m a target message => exact absurd rfl (call m a target message)
  | discover m => exact refl n
  | subscribe m a url =>
    obtain ⟨e', refused⟩ | ⟨front, s, back, -, -, made⟩ := n.subscribe_cases m a url
    · rw [Network.perform, refused]
      exact ⟨rfl, rfl, rfl, rfl, rfl⟩
    · rw [Network.perform, made] at failed
      cases failed
  | unsubscribe m id =>
    obtain ⟨e', refused⟩ | ⟨front, s, back, -, -, -, -, done⟩ := n.unsubscribe_cases m id
    · rw [Network.perform, refused]
      exact refl n
    · rw [Network.perform, done] at failed
      cases failed

end Untouched

/-- An action deletes at most one subscription, and this one comes last. -/
theorem perform_deleted (n : Network) (x : Action) : n.deleted <+: (n.perform x).2.deleted := by
  cases x with
  | join m => exact List.prefix_refl _
  | set x => cases x <;> exact List.prefix_refl _
  | discover m => exact List.prefix_refl _
  | pass time => exact (congrArg Network.deleted (n.pass_beside time 0 [] []) :) ▸ List.prefix_refl _
  | send m a target message =>
    exact (congrArg Network.deleted (n.send_beside m a target message 0 0 0 [] []) :) ▸ List.prefix_refl _
  | subscribe m a url =>
    obtain ⟨e, refused⟩ | ⟨front, s, back, -, -, made⟩ := n.subscribe_cases m a url
    · rw [perform, refused]
    · rw [perform, made]
  | unsubscribe m id =>
    obtain ⟨e, refused⟩ | ⟨front, s, back, -, -, -, -, done⟩ := n.unsubscribe_cases m id
    · rw [perform, refused]
    · rw [perform, done]
      exact List.prefix_append _ _

theorem History.run_prefix (h : History) (actions : List Action) :
    h.network.deleted <+: (h.run actions).network.deleted ∧ h.given <+: (h.run actions).given := by
  induction actions generalizing h with
  | nil => exact ⟨List.prefix_refl _, List.prefix_refl _⟩
  | cons x rest ih =>
    obtain ⟨deleted, given⟩ := ih (h.step x)
    exact ⟨(h.network.perform_deleted x).trans deleted, (List.prefix_append _ _).trans given⟩

namespace Booked

variable {h : History}

theorem accounted (b : Booked h) : Accounted h where
  active_nodup := b.active_nodup
  deleted_nodup := (List.nodup_append.mp (b.perm.nodup_iff.mpr b.nodup)).2.1
  disjoint := b.disjoint
  exact id := by rw [← b.perm.mem_iff, List.mem_append]
  given_nodup := b.nodup
  adds m a url id n done := by
    obtain ⟨e, failed⟩ | ⟨front, s, back, split, -, made⟩ := h.network.subscribe_cases m a url
    · rw [failed] at done
      cases done
    · rw [made] at done
      cases done
      refine ⟨b.nextId_fresh, ?_, rfl⟩
      rw [active_eq]
      exact added split ⟨h.network.nextId, a, url⟩
  creates_iff m a url := subscribe_ok_iff
  moves m id n done := by
    obtain ⟨e, failed⟩ | ⟨front, s, back, split, -, member, -, made⟩ := h.network.unsubscribe_cases m id
    · rw [failed] at done
      cases done
    · rw [made] at done
      cases done
      refine ⟨active_of_held split member, ?_, rfl⟩
      rw [active_eq]
      exact b.removed split member
  deletes_iff m id := unsubscribe_ok_iff
  again m id gone ok := by
    obtain ⟨s, found, member, -⟩ := unsubscribe_ok_iff.mp ok
    obtain ⟨-, front, back, split, -⟩ := station_split found
    exact b.disjoint (active_of_held split member) gone
  elsewhere s here id member m other ok := by
    obtain ⟨t, found, held, -⟩ := unsubscribe_ok_iff.mp ok
    exact b.held_once here (List.mem_of_find?_eq_some found) member held (fun same => other (by
      rw [same]
      exact (station_split found).1.symm))
  failed x e call failed := Untouched.perform x call failed
  lasting actions := h.run_prefix actions

end Booked

/-- Whatever is done to a network, its subscriptions are accounted for. -/
theorem subscriptions_accounted_for (actions : List Action) : Accounted (History.run {} actions) :=
  (Booked.start.run actions).accounted

/-- A failed call uses up `sub-1`, and of two stations of one id only the first can delete. -/
example :
    let near : Member := ⟨"http://a", ⟨"n"⟩⟩
    let far : Member := ⟨"http://b", ⟨"far"⟩⟩
    let h := History.run {}
      [.subscribe near ⟨"x"⟩ "u", .join near, .join near, .join far, .subscribe near ⟨"x"⟩ "u",
        .subscribe far ⟨"x"⟩ "v", .unsubscribe far ⟨"sub-2"⟩, .unsubscribe near ⟨"sub-2"⟩,
        .unsubscribe near ⟨"sub-2"⟩]
    h.given = [⟨"sub-2"⟩, ⟨"sub-3"⟩] ∧ h.network.active = [⟨"sub-3"⟩] ∧ h.network.deleted = [⟨"sub-2"⟩] := by
  decide +kernel

end BrokerTrial.Network

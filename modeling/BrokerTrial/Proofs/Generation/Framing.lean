import Mathlib
import BrokerTrial.Proofs.Generation.Draws
import BrokerTrial.Proofs.Inbox.Intake
import BrokerTrial.Tuning

/-!
# Generated messages on their way

The request that brings a generated message has two bytes for each random one and nine more. A collector reads bodies up
to a limit, and no length of the random part is ruled out because of it.
-/

namespace BrokerTrial

namespace Generation

variable {source : Entropy} {draws : List (List UInt8)} {count byteLength k : Nat} {found : List Message} {m : Message}

/-! ### How large a message is -/

theorem escaped_hexDigit : ∀ n < 16, Json.escaped (Text.hexDigit n) = [Text.hexDigit n] := by decide

theorem utf8Size_hexDigit : ∀ n < 16, (Text.hexDigit n).utf8Size = 1 := by decide

theorem flatMap_escaped_hex (bytes : List UInt8) : (hex bytes).toList.flatMap Json.escaped = (hex bytes).toList := by
  induction bytes with
  | nil => rw [hex_nil, List.flatMap_nil]
  | cons b rest ih =>
    obtain ⟨high, low⟩ := nibbles_lt b
    rw [hex_cons, List.flatMap_cons, List.flatMap_cons, escaped_hexDigit _ high, escaped_hexDigit _ low, ih]
    rfl

theorem utf8Len_hex (bytes : List UInt8) : String.utf8Len (hex bytes).toList = 2 * bytes.length := by
  induction bytes with
  | nil => rw [hex_nil]; rfl
  | cons b rest ih =>
    obtain ⟨high, low⟩ := nibbles_lt b
    rw [hex_cons, String.utf8Len_cons, String.utf8Len_cons, ih, utf8Size_hexDigit _ high, utf8Size_hexDigit _ low,
      List.length_cons]
    omega

/-- Nothing in an id has to be escaped. -/
theorem size_json (bytes : List UInt8) : (Message.mk (hex bytes)).json.toUTF8.size = 2 * bytes.length + 9 := by
  have quoted : (Json.text (hex bytes)).utf8ByteSize = 2 * bytes.length + 2 := by
    rw [Json.text, flatMap_escaped_hex, String.utf8ByteSize_ofList, String.utf8Len_append, String.utf8Len_cons,
      utf8Len_hex]
    rfl
  have written : (Message.mk (hex bytes)).json = "\x7b" ++ (Json.text "id" ++ ":" ++ Json.text (hex bytes)) ++ "\x7d" :=
    rfl
  have name : (Json.text "id").utf8ByteSize = 4 := by decide
  change (Message.mk (hex bytes)).json.utf8ByteSize = _
  rw [written, String.utf8ByteSize_append, String.utf8ByteSize_append, String.utf8ByteSize_append,
    String.utf8ByteSize_append, quoted, name]
  change 1 + (4 + 1 + (2 * bytes.length + 2)) + 1 = _
  omega

/-! ### What is generated -/

theorem exists_draw (generated : (run source count byteLength).result = .ok found) (member : m ∈ found) :
    ∃ draw ∈ source.draws, m = ⟨hex draw⟩ := by
  obtain ⟨k, rfl⟩ := exists_messages generated
  obtain ⟨draw, first, rfl⟩ := List.mem_map.mp member
  exact ⟨draw, List.mem_of_mem_take (List.mem_eraseDups.mp first), rfl⟩

theorem size_of_generated (whole : ∀ draw ∈ source.draws, draw.length = byteLength)
    (generated : (run source count byteLength).result = .ok found) (member : m ∈ found) :
    m.json.toUTF8.size = 2 * byteLength + 9 := by
  obtain ⟨draw, drawn, rfl⟩ := exists_draw generated member
  rw [size_json, whole draw drawn]

/-- One draw is enough for one message. -/
theorem run_one (draw : List UInt8) (failure : String) :
    (run ⟨[draw], failure⟩ 1 byteLength).result = .ok [⟨hex draw⟩] := by
  have fits : keyspaceFits 1 byteLength = true := by
    simp [keyspaceFits, Nat.one_le_two_pow]
  rw [run_of_allowed _ (by omega) fits]
  simp [collect]

end Generation

/-! ### What is received -/

namespace Delivery

variable {d : Delivery}

theorem path_of_default (body : ByteArray) : ({ body } : Delivery).path = resultPath := by
  change String.ofList ("/results".toList.takeWhile fun c => c != '?' && c != '#') = resultPath
  decide

theorem message_of_large (path : d.path = resultPath) (method : d.method = "POST") (large : bodyLimit < d.body.size) :
    d.message = .error .tooLarge := by
  rw [message, if_neg (not_not.mpr path), if_neg (not_not.mpr method), if_pos large]

end Delivery

/-- The collector receives the messages that are generated with an accepted length up to 1048571, where it has room, and
refuses to read those of a greater length, which is accepted as well. -/
theorem generated_received_up_to_limit {t : Tuning} (accepted : t.validate = .ok ()) {source : Entropy}
    (whole : ∀ draw ∈ source.draws, draw.length = t.messageLength) {count : Nat} {found : List Message}
    (generated : (Generation.run source count t.messageLength).result = .ok found) :
    0 < t.messageLength ∧ ∀ m ∈ found, ∀ b : Inbox,
      let d : Delivery := { body := m.json.toUTF8 }
      d.body.size = 2 * t.messageLength + 9 ∧
      (t.messageLength ≤ 1048571 → b.attended = true → b.queue.length + b.admitted.length < b.capacity →
        b.post d =
          { b with
            arrived := b.arrived + 1, queue := b.queue ++ [m]
            responses := b.responses ++ [⟨b.arrived, b.now, .accepted m⟩] } ∧
        (Answer.accepted m).status = 200) ∧
      (1048571 < t.messageLength →
        b.post d =
          { b with
            arrived := b.arrived + 1, responses := b.responses ++ [⟨b.arrived, b.now, .tooLarge⟩] } ∧
        Answer.tooLarge.status = 413) := by
  constructor
  · by_contra zero
    rw [Tuning.validate, if_pos (Nat.eq_zero_of_not_pos zero)] at accepted
    cases accepted
  · intro m member b d
    have size : d.body.size = 2 * t.messageLength + 9 := Generation.size_of_generated whole generated member
    have path : d.path = Delivery.resultPath := Delivery.path_of_default _
    refine ⟨size, fun short attended room => ⟨?_, rfl⟩, fun long => ⟨?_, rfl⟩⟩
    · have fits : d.body.size ≤ Delivery.bodyLimit := by
        rw [size, Delivery.bodyLimit]
        omega
      exact Inbox.post_of_room (Delivery.message_ok path rfl fits (Message.ofBytes_json m)) attended room
    · have large : Delivery.bodyLimit < d.body.size := by
        rw [size, Delivery.bodyLimit]
        omega
      exact Inbox.post_of_error (Delivery.message_of_large path rfl large)

/-- The longest ids that are received leave one byte of the limit. -/
theorem generated_received_up_to_limit_longest :
    let t : Tuning := { messageLength := 1048571 }
    let source : Entropy := ⟨[List.replicate 1048571 0], "no more"⟩
    let m : Message := ⟨Generation.hex (List.replicate 1048571 0)⟩
    let b : Inbox := { capacity := 1, patience := 0 }
    t.validate = .ok () ∧ (∀ draw ∈ source.draws, draw.length = t.messageLength) ∧
    (Generation.run source 1 t.messageLength).result = .ok [m] ∧ m.json.toUTF8.size = 2097151 ∧
    (b.post { body := m.json.toUTF8 }).responses = [⟨0, 0, .accepted m⟩] := by
  intro t source m b
  have whole : ∀ draw ∈ source.draws, draw.length = t.messageLength := by
    intro draw drawn
    rw [List.mem_singleton.mp drawn, List.length_replicate]
  have generated : (Generation.run source 1 t.messageLength).result = .ok [m] := Generation.run_one _ _
  obtain ⟨-, received⟩ := generated_received_up_to_limit rfl whole generated
  obtain ⟨size, short, -⟩ := received m (List.mem_singleton_self m) b
  rw [show t.messageLength = 1048571 from rfl] at size
  obtain ⟨same, -⟩ := short (Nat.le_refl _) rfl (by decide)
  exact ⟨rfl, whole, generated, size, by rw [same]; rfl⟩

/-- A byte more of each id is two more of the request. -/
theorem generated_unreceived_beyond_limit :
    let t : Tuning := { messageLength := 1048572 }
    let source : Entropy := ⟨[List.replicate 1048572 0], "no more"⟩
    let m : Message := ⟨Generation.hex (List.replicate 1048572 0)⟩
    let b : Inbox := { capacity := 1, patience := 0 }
    t.validate = .ok () ∧ (∀ draw ∈ source.draws, draw.length = t.messageLength) ∧
    (Generation.run source 1 t.messageLength).result = .ok [m] ∧ b.attended = true ∧ b.queue.length < b.capacity ∧
    (b.post { body := m.json.toUTF8 }).responses = [⟨0, 0, .tooLarge⟩] ∧
    (b.post { body := m.json.toUTF8 }).queue = [] ∧ Answer.tooLarge.status ≠ 200 := by
  intro t source m b
  have whole : ∀ draw ∈ source.draws, draw.length = t.messageLength := by
    intro draw drawn
    rw [List.mem_singleton.mp drawn, List.length_replicate]
  have generated : (Generation.run source 1 t.messageLength).result = .ok [m] := Generation.run_one _ _
  have large : Delivery.bodyLimit < m.json.toUTF8.size := by
    rw [Generation.size_of_generated whole generated (List.mem_singleton_self m), Delivery.bodyLimit]
    decide
  have same := Inbox.post_of_error (b := b)
    (Delivery.message_of_large (Delivery.path_of_default m.json.toUTF8) rfl large)
  refine ⟨rfl, whole, generated, rfl, Nat.one_pos, ?_, ?_, by decide⟩
  · rw [same]
    rfl
  · rw [same]

end BrokerTrial

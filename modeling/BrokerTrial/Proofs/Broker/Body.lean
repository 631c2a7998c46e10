import Mathlib
import BrokerTrial.Broker.Body
import BrokerTrial.Proofs.Message

/-!
# Calls are read back

A broker reads in the body of a call what the call asks for, whatever texts that takes.
-/

namespace BrokerTrial

namespace Call

open Json (Reader)

theorem ofBody?_subscribe (url : String) :
    ofBody? (Json.object [("webhookUrl", Json.text url)]) = some (.subscribe url) := by
  have chars : (Json.object [("webhookUrl", Json.text url)]).toList =
      "\x7b\"webhookUrl\":".toList ++ (Json.text url).toList ++ ['\x7d'] := by
    have key : Json.text "webhookUrl" = "\"webhookUrl\"" := rfl
    simp [Json.object, key]
  have read : Reader.feed {} (Json.object [("webhookUrl", Json.text url)]).toList =
      Reader.complete (.object [(some "webhookUrl", .text (some url))] true) [] := by
    have opened : Reader.feed {} "\x7b\"webhookUrl\":".toList =
        ⟨.value, [.object [] (some "webhookUrl")]⟩ := rfl
    rw [chars, Reader.feed_append, Reader.feed_append, opened, Json.feed_text]
    rfl
  rw [ofBody?, Json.read_toUTF8 read]
  rfl

/-- The reader after a message, wherever it is due. -/
theorem feed_message (m : Message) (stack : List Json.Frame) :
    Reader.feed ⟨.value, stack⟩ m.json.toList =
      Reader.complete (.object [(some "id", .text (some m.id))] true) stack := by
  have chars : m.json.toList = "\x7b\"id\":".toList ++ (Json.text m.id).toList ++ ['\x7d'] := by
    have key : Json.text "id" = "\"id\"" := rfl
    simp [Message.json, Json.object, key]
  have opened : Reader.feed ⟨.value, stack⟩ "\x7b\"id\":".toList =
      ⟨.value, .object [] (some "id") :: stack⟩ := rfl
  rw [chars, Reader.feed_append, Reader.feed_append, opened, Json.feed_text]
  rfl

theorem ofBody?_everyone (m : Message) :
    ofBody? (Json.object [("message", m.json)]) = some (.send .everyone m) := by
  have chars : (Json.object [("message", m.json)]).toList =
      "\x7b\"message\":".toList ++ m.json.toList ++ ['\x7d'] := by
    have key : Json.text "message" = "\"message\"" := rfl
    simp [Json.object, key]
  have read : Reader.feed {} (Json.object [("message", m.json)]).toList =
      Reader.complete (.object [(some "message", .object [(some "id", .text (some m.id))] true)] true)
        [] := by
    have opened : Reader.feed {} "\x7b\"message\":".toList = ⟨.value, [.object [] (some "message")]⟩ := rfl
    rw [chars, Reader.feed_append, Reader.feed_append, opened, feed_message]
    rfl
  rw [ofBody?, Json.read_toUTF8 read]
  rfl

theorem ofBody?_node (id : NodeId) (m : Message) :
    ofBody? (Json.object [("recipients", Json.array [Json.text id.text]), ("message", m.json)]) =
      some (.send (.node id) m) := by
  have chars : (Json.object [("recipients", Json.array [Json.text id.text]), ("message", m.json)]).toList =
      "\x7b\"recipients\":[".toList ++ (Json.text id.text).toList ++ "],\"message\":".toList ++
        m.json.toList ++ ['\x7d'] := by
    have first : Json.text "recipients" = "\"recipients\"" := rfl
    have second : Json.text "message" = "\"message\"" := rfl
    simp [Json.object, Json.array, first, second]
  have read : Reader.feed {}
        (Json.object [("recipients", Json.array [Json.text id.text]), ("message", m.json)]).toList =
      Reader.complete
        (.object
          [(some "recipients", .array [.text (some id.text)] true),
            (some "message", .object [(some "id", .text (some m.id))] true)] true) [] := by
    have opened : Reader.feed {} "\x7b\"recipients\":[".toList =
        ⟨.firstItem, [.array [], .object [] (some "recipients")]⟩ := rfl
    have item : Reader.feed ⟨.firstItem, [.array [], .object [] (some "recipients")]⟩
          (Json.text id.text).toList =
        Reader.feed ⟨.value, [.array [], .object [] (some "recipients")]⟩ (Json.text id.text).toList := by
      simp only [Json.text, String.toList_ofList, List.cons_append, Reader.feed_cons]
      rfl
    have between : Reader.feed
          (Reader.complete (.text (some id.text)) [.array [], .object [] (some "recipients")])
          "],\"message\":".toList =
        ⟨.value,
          [.object [(some "recipients", .array [.text (some id.text)] true)] (some "message")]⟩ := rfl
    rw [chars, Reader.feed_append, Reader.feed_append, Reader.feed_append, Reader.feed_append, opened, item,
      Json.feed_text, between, feed_message]
    rfl
  rw [ofBody?, Json.read_toUTF8 read]
  rfl

theorem ofBody?_body {c : Call} {body : String} (sent : c.body = some body) : ofBody? body = some c := by
  cases c with
  | subscribe url =>
    cases sent
    exact ofBody?_subscribe url
  | unsubscribe id => cases sent
  | discover => cases sent
  | send target m =>
    cases target with
    | node id =>
      cases sent
      exact ofBody?_node id m
    | everyone =>
      cases sent
      exact ofBody?_everyone m

end Call

end BrokerTrial

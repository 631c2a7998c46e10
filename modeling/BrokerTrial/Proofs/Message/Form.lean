import Mathlib
import BrokerTrial.Identifier
import BrokerTrial.Network.Brokers
import BrokerTrial.Proofs.Inbox.Intake
import BrokerTrial.Proofs.Json.Grammar

/-!
# The form of a message

A message is read in a document of one form only, whatever spells the document: an object with one member of the right
name, or an array of one string. What a message is written as has that form.
-/

namespace BrokerTrial

namespace Json

theorem textOf_text (s : String) : textOf (text s).toUTF8 = .ok s := by
  rw [textOf, read_toUTF8 (feed_text s [])]
  rfl

/-! ### Documents that are spelled -/

/-- A document that is closed, and whose names denote text. -/
def Doc.Named : Doc → Prop
  | .object members closed => closed = true ∧ ∀ x ∈ members, x.1.isSome = true
  | .array _ closed => closed = true
  | .broken | .text none => False
  | .null | .bool _ | .number _ | .text (some _) => True

def Part.Named : Part → Prop
  | .value d | .element d => d.Named
  | .members all => ∀ x ∈ all, x.1.isSome = true
  | .elements _ | .member _ _ => True

theorem named_of_spells {part : Part} {chars : List Char} (spells : Spells part chars) : part.Named := by
  induction spells with
  | null | yes | no | number _ | text _ => trivial
  | emptyArray _ | array _ _ => rfl
  | emptyObject _ => exact ⟨rfl, nofun⟩
  | object _ ih => exact ⟨rfl, ih⟩
  | element _ _ _ ih => exact ih
  | lastElement _ _ | nextElement _ _ _ _ | member _ _ _ _ _ => trivial
  | lastMember _ _ => simp [Part.Named]
  | nextMember _ _ _ rest => simpa [Part.Named] using rest

theorem spelledBy_of_value {d : Doc} {text : String} {chars : List Char} (value : Spells (.value d) chars)
    (same : text.toList = chars) : d.SpelledBy text := by
  have all : Spells (.element d) ([] ++ chars ++ []) := .element nofun value nofun
  rw [Doc.SpelledBy, same]
  simpa using all

theorem Doc.refuse_eq {α : Type} (d : Doc) (expected : String) : ∃ p, d.refuse (α := α) expected = .error p := by
  unfold refuse
  split
  · exact ⟨_, rfl⟩
  · exact ⟨_, rfl⟩

theorem Doc.string_eq_ok_iff {d : Doc} {s : String} : d.string = .ok s ↔ d = .text (some s) := by
  unfold string
  split
  · simp
  · rename_i other
    obtain ⟨p, refused⟩ := d.refuse_eq (α := String) "a string"
    rw [refused]
    constructor
    · rintro ⟨⟩
    · rintro rfl
      exact absurd rfl (other s)

end Json

namespace Message

open Json (Doc)

/-- A document that says what the message is. -/
inductive Form (m : Message) : Doc → Prop where
  | object {members : List (Option String × Doc)}
      (one : members.filter (·.1 = some "id") = [(some "id", .text (some m.id))]) : m.Form (.object members true)
  | array : m.Form (.array [.text (some m.id)] true)

/-- The member that names an id. -/
def member (id : String) : Option String × Doc := (some "id", .text (some id))

theorem map_member_inj {one two : Option String} (same : one.toList.map member = two.toList.map member) :
    one = two := by
  cases one with
  | none => cases two with
    | none => rfl
    | some _ => cases same
  | some _ => cases two with
    | none => cases same
    | some _ =>
      simp only [Option.toList_some, List.map_cons, List.map_nil, member] at same
      cases same
      rfl

/-- Of the members that are read one after the other only those of the right name count. -/
theorem putAll_eq_ok_iff {members : List (Option String × Doc)} (named : ∀ x ∈ members, x.1.isSome = true)
    (slot out : Option String) :
    fields.putAll (slot, ()) members = .ok (out, ()) ↔
      slot.toList.map member ++ members.filter (·.1 = some "id") = out.toList.map member := by
  induction members generalizing slot with
  | nil =>
    rw [List.filter_nil, List.append_nil]
    constructor
    · rintro ⟨⟩
      rfl
    · intro same
      rw [map_member_inj same]
      rfl
  | cons x rest ih =>
    obtain ⟨key, d⟩ := x
    obtain ⟨name, rfl⟩ := Option.isSome_iff_exists.mp (named _ List.mem_cons_self)
    have later := ih fun x member => named x (List.mem_cons_of_mem _ member)
    by_cases same : name = "id"
    · subst same
      rw [List.filter_cons_of_pos (by simp)]
      cases slot with
      | some earlier =>
        constructor
        · rintro ⟨⟩
        · intro two
          have length := congrArg List.length two
          cases out with
          | none => simp at length
          | some _ => simp at length
      | none =>
        cases held : d.string with
        | ok id =>
          rw [Json.Doc.string_eq_ok_iff] at held
          subst held
          exact later (some id)
        | error p =>
          have failed : fields.putAll (none, ()) ((some "id", d) :: rest) = .error p := by
            simp [fields, Json.Fields.putAll, Json.Fields.put, Json.Doc.ofKind, held, Except.map, bind, Except.bind]
          rw [failed]
          constructor
          · rintro ⟨⟩
          · intro one
            cases out with
            | none => cases one
            | some id =>
              have first := (List.cons.inj one).1
              have text : d = .text (some id) := (Prod.mk.inj first).2
              rw [text] at held
              cases held
    · have skipped : fields.putAll (slot, ()) ((some name, d) :: rest) = fields.putAll (slot, ()) rest := by
        simp [fields, Json.Fields.putAll, Json.Fields.put, same, Except.map, bind, Except.bind]
      rw [skipped, List.filter_cons_of_neg (by simpa using same)]
      exact later slot

theorem ofDoc_object {members : List (Option String × Doc)} (named : ∀ x ∈ members, x.1.isSome = true) (m : Message) :
    ofDoc (.object members true) = .ok m ↔ members.filter (·.1 = some "id") = [member m.id] := by
  have all := putAll_eq_ok_iff named none
  have read : ofDoc (.object members true) =
      ((fields.putAll (none, ()) members).bind fields.close).map fun row => ⟨row.1⟩ := rfl
  rw [read]
  cases put : fields.putAll (none, ()) members with
  | error p =>
    refine ⟨nofun, fun one => ?_⟩
    rw [(all (some m.id)).mpr one] at put
    cases put
  | ok slots =>
    obtain ⟨slot, ⟨⟩⟩ := slots
    have held := (all slot).mp put
    rw [Option.toList_none, List.map_nil, List.nil_append] at held
    rw [held]
    cases slot with
    | none => exact ⟨nofun, nofun⟩
    | some id =>
      change Except.ok (Message.mk id) = .ok m ↔ [member id] = [member m.id]
      constructor
      · rintro ⟨⟩
        rfl
      · intro same
        have one : some id = some m.id := map_member_inj same
        rw [Option.some.inj one]

theorem ofDoc_array (items : List Doc) (m : Message) :
    ofDoc (.array items true) = .ok m ↔ items = [.text (some m.id)] := by
  cases items with
  | nil => exact ⟨nofun, nofun⟩
  | cons d rest =>
    cases held : d.string with
    | error p =>
      have failed : ofDoc (.array (d :: rest) true) = .error p := by
        simp [ofDoc, Json.Doc.record, fields, Json.Fields.fromItems, Json.Doc.ofKind, held, Except.map, bind,
          Except.bind]
      rw [failed]
      refine ⟨nofun, fun same => ?_⟩
      rw [(List.cons.inj same).1] at held
      cases held
    | ok id =>
      rw [Json.Doc.string_eq_ok_iff] at held
      subst held
      cases rest with
      | nil =>
        constructor
        · rintro ⟨⟩
          rfl
        · rintro ⟨⟩
          rfl
      | cons next more => exact ⟨nofun, nofun⟩

theorem ofDoc_of_plain {d : Doc} (plain : d.record "TestMessage" fields = d.refuse "struct TestMessage")
    (m : Message) : ofDoc d ≠ .ok m := by
  obtain ⟨p, refused⟩ := d.refuse_eq (α := fields.Row) "struct TestMessage"
  rw [ofDoc, plain, refused]
  nofun

theorem ofDoc_eq_ok_iff {d : Doc} (named : d.Named) (m : Message) : ofDoc d = .ok m ↔ m.Form d := by
  cases d with
  | object members closed =>
    obtain ⟨rfl, named⟩ := named
    rw [ofDoc_object named]
    exact ⟨.object, fun | .object one => one⟩
  | array items closed =>
    obtain rfl : closed = true := named
    rw [ofDoc_array]
    constructor
    · rintro rfl
      exact .array
    · rintro ⟨⟩
      rfl
  | broken => exact named.elim
  | null => exact ⟨nofun, nofun⟩
  | bool b => exact ⟨nofun, nofun⟩
  | text value => exact ⟨fun ok => (ofDoc_of_plain rfl m ok).elim, nofun⟩
  | number lexeme => exact ⟨fun ok => (ofDoc_of_plain rfl m ok).elim, nofun⟩

/-- Of the texts that spell a document, those that hold a message are told by the document. -/
theorem ofBytes_eq_ok_iff {d : Doc} {text : String} (spelled : d.SpelledBy text) (m : Message) :
    ofBytes text.toUTF8 = .ok m ↔ m.Form d := by
  have read : ofBytes text.toUTF8 = ofDoc d := by
    rw [ofBytes, Json.read_of_spelledBy spelled]
    unfold Json.Reading.as
    cases ofDoc d with
    | error p => rfl
    | ok m => rfl
  rw [read]
  exact ofDoc_eq_ok_iff (Json.named_of_spells spelled) m

end Message

/-- What is written is read back, whatever text it is about, and a message that a network posts is queued as it is
where there is room for it. Of all documents, however they are spelled, those that hold a message are the objects with
one member of its name, a string, and the arrays of one string; any other is refused and leaves everything as it is. -/
theorem message_form_lossless_and_strict :
    (∀ m : Message, Message.ofBytes m.json.toUTF8 = .ok m) ∧
    (∀ n : NodeId, NodeId.ofBytes n.json.toUTF8 = .ok n) ∧
    (∀ s : SubscriptionId, SubscriptionId.ofBytes s.json.toUTF8 = .ok s) ∧
    (∀ (members : List Network.Member) (route : String → Option String) (n : Network) (last : Nat),
      ∀ post ∈ (n.pass last).posts, ∀ target, route post.url = some target →
        let d : Delivery := { target, body := post.message.json.toUTF8 }
        (post.time, d) ∈ (Network.brokers members route).traffic n last ∧
        (d.path = Delivery.resultPath → post.message.json.toUTF8.size ≤ Delivery.bodyLimit →
          ∀ b : Inbox, b.attended = true → b.queue.length + b.admitted.length < b.capacity →
            b.post d =
              { b with
                arrived := b.arrived + 1, queue := b.queue ++ [post.message]
                responses := b.responses ++ [⟨b.arrived, b.now, .accepted post.message⟩] } ∧
            (Answer.accepted post.message).status = 200)) ∧
    ∀ (doc : Json.Doc) (text : String), doc.SpelledBy text →
      (∀ m : Message, Message.ofBytes text.toUTF8 = .ok m ↔ m.Form doc) ∧
      ∀ (target : String) (b : Inbox), (∀ m : Message, ¬ m.Form doc) →
        let d : Delivery := { target, body := text.toUTF8 }
        d.path = Delivery.resultPath → text.toUTF8.size ≤ Delivery.bodyLimit →
          b.post d =
            { b with
              arrived := b.arrived + 1, responses := b.responses ++ [⟨b.arrived, b.now, .malformed⟩] } ∧
          Answer.malformed.status = 400 := by
  refine ⟨Message.ofBytes_json, fun n => ?_, fun s => ?_, fun members route n last post member target reached => ?_,
    fun doc text spelled => ⟨Message.ofBytes_eq_ok_iff spelled, fun target b none => ?_⟩⟩
  · rw [NodeId.ofBytes, NodeId.json, Json.textOf_text]
    rfl
  · rw [SubscriptionId.ofBytes, SubscriptionId.json, Json.textOf_text]
    rfl
  · refine ⟨List.mem_filterMap.mpr ⟨post, member, by simp [reached]⟩, fun path size b attended room => ⟨?_, rfl⟩⟩
    have holds := Delivery.message_ok path rfl size (Message.ofBytes_json post.message)
    exact Inbox.post_of_room holds attended room
  · intro d path size
    have unread (m : Message) : Message.ofBytes d.body ≠ .ok m := fun read =>
      none m ((Message.ofBytes_eq_ok_iff spelled m).mp read)
    exact ⟨Inbox.post_of_error (Delivery.message_of_unread path rfl size unread), rfl⟩

/-- The name and the id are escaped, and there is another member; if the id is given twice, nobody gets a message. -/
theorem message_form_lossless_and_strict_escaped :
    let doc : Json.Doc := .object [(some "a", .array [] true), (some "id", .text (some "😀"))] true
    let text := "\x7b\"a\":[],\"\\u0069d\": \"\\ud83d\\uDE00\"\x7d"
    let twice : Json.Doc := .object [(some "id", .text (some "😀")), (some "id", .text (some "😀"))] true
    let text' := "\x7b\"\\u0069d\": \"\\ud83d\\uDE00\",\"\\u0069d\": \"\\ud83d\\uDE00\"\x7d"
    let b : Inbox := { capacity := 1, patience := 0 }
    Message.ofBytes (Message.mk "\"\\\x00😀").json.toUTF8 = .ok ⟨"\"\\\x00😀"⟩ ∧
    doc.SpelledBy text ∧ Message.ofBytes text.toUTF8 = .ok ⟨"😀"⟩ ∧
    twice.SpelledBy text' ∧ (b.post { body := text'.toUTF8 }).responses = [⟨0, 0, .malformed⟩] := by
  intro doc text twice text' b
  have digit (n : Nat) (small : n < 16) : Json.HexDigit (Text.hexDigit n) n := ⟨small, Or.inl rfl⟩
  have upper (n : Nat) (small : n < 16) : Json.HexDigit (Text.hexDigit n).toUpper n := ⟨small, Or.inr rfl⟩
  have i : Json.CodeUnit ('i' : Char).toNat ['0', '0', '6', '9'] :=
    .digits (digit 0 (by decide)) (digit 0 (by decide)) (digit 6 (by decide)) (digit 9 (by decide))
  have high : Json.CodeUnit 0xD83D ['d', '8', '3', 'd'] :=
    .digits (digit 13 (by decide)) (digit 8 (by decide)) (digit 3 (by decide)) (digit 13 (by decide))
  have low : Json.CodeUnit 0xDE00 ['D', 'E', '0', '0'] :=
    .digits (upper 13 (by decide)) (upper 14 (by decide)) (digit 0 (by decide)) (digit 0 (by decide))
  have plain : Json.Characters ['a'] ['a'] := .plain (by decide) (by decide) (by decide) .nil
  have lastLetter : Json.Characters ['d'] ['d'] := .plain (by decide) (by decide) (by decide) .nil
  have letters : Json.Characters ['i', 'd'] ['\\', 'u', '0', '0', '6', '9', 'd'] := .unit i lastLetter
  have faces : Json.Characters ['😀'] ['\\', 'u', 'd', '8', '3', 'd', '\\', 'u', 'D', 'E', '0', '0'] :=
    .pair high low (by decide) (by decide) (by decide) .nil
  have a : Json.Quoted "a" "\"a\"".toList := .quotes (s := "a") plain
  have name : Json.Quoted "id" "\"\\u0069d\"".toList := .quotes (s := "id") letters
  have face : Json.Quoted "😀" "\"\\ud83d\\uDE00\"".toList := .quotes (s := "😀") faces
  have empty : Json.Blank [] := nofun
  have space : Json.Blank [' '] := by simp [Json.Blank, Json.spaces]
  have other : Json.Spells (.member "a" (.array [] true)) "\"a\":[]".toList :=
    .member empty a empty (.element empty (.emptyArray empty) empty)
  have id : Json.Spells (.member "id" (.text (some "😀"))) "\"\\u0069d\": \"\\ud83d\\uDE00\"".toList :=
    .member empty name empty (.element space (.text face) empty)
  have spelled : doc.SpelledBy text :=
    Json.spelledBy_of_value (.object (.nextMember other (.lastMember id))) (by decide)
  have spelled' : twice.SpelledBy text' :=
    Json.spelledBy_of_value (.object (.nextMember id (.lastMember id))) (by decide)
  obtain ⟨back, -, -, -, told⟩ := message_form_lossless_and_strict
  obtain ⟨read, -⟩ := told doc text spelled
  obtain ⟨-, refused⟩ := told twice text' spelled'
  have none (m : Message) : ¬ m.Form twice := by
    intro form
    change m.Form (.object [Message.member "😀", Message.member "😀"] true) at form
    cases form with
    | object one => cases congrArg List.length one
  refine ⟨back _, spelled, (read ⟨"😀"⟩).mpr (.object rfl), spelled', ?_⟩
  obtain ⟨same, -⟩ := refused "/results" b none (by decide) (by decide)
  rw [same]
  rfl

end BrokerTrial

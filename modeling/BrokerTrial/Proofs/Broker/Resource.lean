import Mathlib
import BrokerTrial.Broker.Endpoint
import BrokerTrial.Proofs.Http
import BrokerTrial.Proofs.Url

/-!
# What a broker is asked about

The ids in an address stand there as they are. So an address can be read in two ways, if the id of an analysis or a
subscription goes on like an address itself; and in no other case. Requests are as far apart as their addresses are, if
nothing in the ids has a meaning in an address.
-/

namespace BrokerTrial

/-- What comes between an analysis and its subscriptions is part of the id. -/
def AnalysisId.Nested (a : AnalysisId) : Prop := "/messages/subscriptions".toList <:+: a.text.toList

instance (a : AnalysisId) : Decidable a.Nested := inferInstanceAs (Decidable (_ <:+: _))

/-- What is asked about within an analysis. -/
inductive Resource where
  | subscriptions
  | subscription (id : SubscriptionId)
  | self
  | messages
  | broadcast
  deriving DecidableEq

namespace Resource

variable {a a' : AnalysisId} {r r' : Resource} {id : SubscriptionId} {baseUrl : String}

def url (baseUrl : String) (a : AnalysisId) : Resource → String
  | subscriptions => Call.subscriptionsUrl baseUrl a
  | subscription id => Call.subscriptionUrl baseUrl a id
  | self => Call.selfUrl baseUrl a
  | messages => Call.messagesUrl baseUrl a
  | broadcast => Call.broadcastUrl baseUrl a

/-- The steps from an analysis to what is asked about. -/
def steps : Resource → List String
  | subscriptions => ["messages", "subscriptions"]
  | subscription id => ["messages", "subscriptions", id.text]
  | self => ["participants", "self"]
  | messages => ["messages"]
  | broadcast => ["messages", "broadcast"]

def place (r : Resource) : String := "/".intercalate r.steps

theorem place_subscription (id : SubscriptionId) : (subscription id).place = subscriptions.place ++ ("/" ++ id.text) := by
  simp only [place, steps, String.intercalate_cons_cons, String.intercalate_singleton, String.append_assoc]

theorem url_eq (baseUrl : String) (a : AnalysisId) (r : Resource) :
    r.url baseUrl a = baseUrl ++ ("/analyses/" ++ (a.text ++ ("/" ++ r.place))) := by
  have fixed : subscriptions.url baseUrl a = baseUrl ++ ("/analyses/" ++ (a.text ++ ("/" ++ subscriptions.place))) := by
    simp only [place, steps, String.intercalate_cons_cons, String.intercalate_singleton, url, Call.subscriptionsUrl,
      Call.messagesUrl, Call.analysisUrl, String.append_assoc, String.reduceAppend]
  cases r with
  | subscriptions => exact fixed
  | subscription id =>
    have longer : (subscription id).url baseUrl a = subscriptions.url baseUrl a ++ ("/" ++ id.text) :=
      String.append_assoc
    rw [longer, fixed, place_subscription]
    simp only [String.append_assoc]
  | self | messages | broadcast =>
    simp only [place, steps, String.intercalate_cons_cons, String.intercalate_singleton, url, Call.selfUrl,
      Call.messagesUrl, Call.broadcastUrl, Call.analysisUrl, String.append_assoc, String.reduceAppend]

/-- The address holds the ids as they are. -/
theorem toList_url (baseUrl : String) (a : AnalysisId) (r : Resource) :
    (r.url baseUrl a).toList =
      baseUrl.toList ++ '/' :: ("analyses".toList ++ '/' :: (a.text.toList ++ '/' :: r.place.toList)) := by
  have slash : "/".toList = ['/'] := rfl
  have analyses : "/analyses/".toList = '/' :: ("analyses".toList ++ ['/']) := by decide
  rw [url_eq, String.toList_append, String.toList_append, String.toList_append, String.toList_append, analyses, slash]
  simp only [List.cons_append, List.append_assoc, List.nil_append]

theorem url_eq_iff_append : r.url baseUrl a = r'.url baseUrl a' ↔
    a.text.toList ++ '/' :: r.place.toList = a'.text.toList ++ '/' :: r'.place.toList := by
  rw [← String.toList_inj, toList_url, toList_url, List.append_right_inj, List.cons_inj_right, List.append_right_inj,
    List.cons_inj_right]

/-- What every analysis has. -/
def fixed : List Resource := [subscriptions, self, messages, broadcast]

theorem fixed_or (r : Resource) : r ∈ fixed ∨ ∃ id, r = subscription id := by
  cases r with
  | subscription id => exact Or.inr ⟨id, rfl⟩
  | subscriptions | self | messages | broadcast => exact Or.inl (by decide)

theorem place_ne_subscription (every : r ∈ fixed) (id : SubscriptionId) : r.place ≠ (subscription id).place := by
  have short : ∀ r ∈ fixed, r.place.length ≤ subscriptions.place.length := by decide
  intro same
  have long := congrArg String.length same
  rw [place_subscription, String.length_append, String.length_append] at long
  have bound := short r every
  have slash : "/".length = 1 := by decide
  omega

theorem place_inj : r.place = r'.place ↔ r = r' := by
  refine ⟨fun same => ?_, congrArg place⟩
  rcases r.fixed_or with every | ⟨id, rfl⟩
  · rcases r'.fixed_or with every' | ⟨id, rfl⟩
    · have apart : ∀ r ∈ fixed, ∀ r' ∈ fixed, r.place = r'.place → r = r' := by decide
      exact apart r every r' every' same
    · exact absurd same (place_ne_subscription every id)
  · rcases r'.fixed_or with every' | ⟨id', rfl⟩
    · exact absurd same.symm (place_ne_subscription every' id)
    · rw [place_subscription, place_subscription, String.append_right_inj, String.append_right_inj] at same
      exact congrArg (subscription ∘ SubscriptionId.mk) same

/-! ### Two readings of an address -/

/-- The address of the resource is also that of a subscription of `a'`, whose id is the end of it. -/
def Within (r : Resource) (a : AnalysisId) (id : SubscriptionId) (a' : AnalysisId) : Prop :=
  (a.text = a'.text ++ "/messages/subscriptions" ∧ id.text = r.place) ∨
  ∃ t, a.text = a'.text ++ "/messages/subscriptions/" ++ t ∧ id.text = t ++ "/" ++ r.place

theorem append_slash_cases {front front' rest rest' : List Char} (same : front ++ '/' :: rest = front' ++ '/' :: rest') :
    (front = front' ∧ rest = rest') ∨ (∃ mid, front = front' ++ '/' :: mid ∧ rest' = mid ++ '/' :: rest) ∨
      ∃ mid, front' = front ++ '/' :: mid ∧ rest = mid ++ '/' :: rest' := by
  rcases List.append_eq_append_iff.mp same with ⟨more, rfl, later⟩ | ⟨more, rfl, later⟩
  · rcases List.cons_eq_append_iff.mp later with ⟨rfl, equal⟩ | ⟨mid, rfl, equal⟩
    · exact Or.inl ⟨(List.append_nil _).symm, (List.cons.inj equal).2.symm⟩
    · exact Or.inr (Or.inr ⟨mid, rfl, equal⟩)
  · rcases List.cons_eq_append_iff.mp later with ⟨rfl, equal⟩ | ⟨mid, rfl, equal⟩
    · exact Or.inl ⟨List.append_nil _, (List.cons.inj equal).2⟩
    · exact Or.inr (Or.inl ⟨mid, rfl, equal⟩)

/-- Every place begins with `messages` or `participants`. -/
theorem place_head (r : Resource) : r.place.toList.head? = some 'm' ∨ r.place.toList.head? = some 'p' := by
  rcases r.fixed_or with every | ⟨id, rfl⟩
  · have all : ∀ r ∈ fixed, r.place.toList.head? = some 'm' ∨ r.place.toList.head? = some 'p' := by decide
    exact all r every
  · rw [place_subscription, String.toList_append]
    exact Or.inl rfl

/-- No place begins with what comes second in a fixed one. -/
theorem ne_append_of_step {front step : List Char} (every : r' ∈ fixed) (ends : r'.place.toList = front ++ '/' :: step)
    (later : List Char) : r.place.toList ≠ step ++ later := by
  have all : ∀ r ∈ fixed, ∀ after ∈ r.place.toList.tails, after.head? = some '/' →
      after.tail.head? = some 's' ∨ after.tail.head? = some 'b' := by decide
  have other : step.head? = some 's' ∨ step.head? = some 'b' :=
    all r' every _ ((List.mem_tails _ _).mpr ⟨front, ends.symm⟩) rfl
  intro same
  have head := r.place_head
  rw [same, List.head?_append] at head
  rcases other with other | other
  · simp [other] at head
  · simp [other] at head

/-- Only an address of a subscription ends like another, and then so does its id. -/
theorem subscription_of_ends {front : List Char} (ends : r'.place.toList = front ++ '/' :: r.place.toList) :
    ∃ id, r' = subscription id ∧ ((front = subscriptions.place.toList ∧ id.text.toList = r.place.toList) ∨
      ∃ mid, front = subscriptions.place.toList ++ '/' :: mid ∧ id.text.toList = mid ++ '/' :: r.place.toList) := by
  rcases r'.fixed_or with every | ⟨id, rfl⟩
  · exact absurd (List.append_nil _).symm (ne_append_of_step every ends [])
  · refine ⟨id, rfl, ?_⟩
    rw [place_subscription, String.toList_append, String.toList_append] at ends
    -- the place begins right at the id, before it, or somewhere in it
    rcases append_slash_cases ends with ⟨rfl, same⟩ | ⟨mid, split, within⟩ | ⟨mid, rfl, same⟩
    · exact Or.inl ⟨rfl, same⟩
    · exact absurd within (ne_append_of_step (by decide) split _)
    · exact Or.inr ⟨mid, rfl, same⟩

theorem within_of_split {mid : List Char} (split : a.text.toList = a'.text.toList ++ '/' :: mid)
    (ends : r'.place.toList = mid ++ '/' :: r.place.toList) : ∃ id, r' = subscription id ∧ r.Within a id a' := by
  obtain ⟨id, same, ⟨rfl, whole⟩ | ⟨rest, rfl, part⟩⟩ := subscription_of_ends ends
  · refine ⟨id, same, Or.inl ⟨?_, String.toList_inj.mp whole⟩⟩
    rw [← String.toList_inj, split, String.toList_append]
    rfl
  · refine ⟨id, same, Or.inr ⟨String.ofList rest, ?_, ?_⟩⟩
    · rw [← String.toList_inj, split, String.toList_append, String.toList_append, String.toList_ofList (l := rest),
        List.append_assoc]
      rfl
    · rw [← String.toList_inj, part, String.toList_append, String.toList_append, String.toList_ofList, List.append_assoc]
      rfl

theorem url_eq_of_within (within : r.Within a id a') : r.url baseUrl a = (subscription id).url baseUrl a' := by
  rw [url_eq, url_eq, place_subscription]
  have outer : "/messages/subscriptions" = "/" ++ subscriptions.place := by decide
  have longer : "/messages/subscriptions/" = "/" ++ (subscriptions.place ++ "/") := by decide
  rcases within with ⟨analysis, whole⟩ | ⟨t, analysis, part⟩
  · rw [analysis, whole, outer]
    simp only [String.append_assoc]
  · rw [analysis, part, longer]
    simp only [String.append_assoc]

theorem url_eq_iff : r.url baseUrl a = r'.url baseUrl a' ↔
    (a = a' ∧ r = r') ∨ (∃ id, r' = subscription id ∧ r.Within a id a') ∨
      ∃ id, r = subscription id ∧ r'.Within a' id a := by
  constructor
  · intro same
    rcases append_slash_cases (url_eq_iff_append.mp same) with ⟨analysis, place⟩ | ⟨mid, split, ends⟩ | ⟨mid, split, ends⟩
    · exact Or.inl ⟨congrArg AnalysisId.mk (String.toList_inj.mp analysis), place_inj.mp (String.toList_inj.mp place)⟩
    · exact Or.inr (Or.inl (within_of_split split ends))
    · exact Or.inr (Or.inr (within_of_split split ends))
  · rintro (⟨rfl, rfl⟩ | ⟨id, rfl, within⟩ | ⟨id, rfl, within⟩)
    · rfl
    · exact url_eq_of_within within
    · exact (url_eq_of_within within).symm

theorem nested_of_within (within : r.Within a id a') : a.Nested := by
  rcases within with ⟨analysis, -⟩ | ⟨t, analysis, -⟩
  · refine ⟨a'.text.toList, [], ?_⟩
    rw [analysis, String.toList_append, List.append_nil]
  · have longer : "/messages/subscriptions/".toList = "/messages/subscriptions".toList ++ ['/'] := by decide
    refine ⟨a'.text.toList, '/' :: t.toList, ?_⟩
    rw [analysis, String.toList_append, String.toList_append, longer]
    simp only [List.append_assoc, List.singleton_append]

theorem length_lt_of_within (within : r.Within a id a') : a'.text.length < a.text.length := by
  have outer : "/messages/subscriptions".length = 23 := by decide
  have longer : "/messages/subscriptions/".length = 24 := by decide
  rcases within with ⟨analysis, -⟩ | ⟨t, analysis, -⟩
  · rw [analysis, String.length_append]
    omega
  · rw [analysis, String.length_append, String.length_append]
    omega

/-! ### Requests -/

/-- The ids in the address mean nothing but themselves. -/
structure Plain (a : AnalysisId) (r : Resource) : Prop where
  analysis : Url.Plain a.text.toList
  subscription : ∀ id, r = .subscription id → Url.Plain id.text.toList

theorem Plain.place (plain : Plain a r) : Url.Plain (a.text.toList ++ '/' :: r.place.toList) := by
  have fixed : ∀ r ∈ fixed, Url.Plain r.place.toList := by decide
  refine Url.Plain.append_slash_iff.mpr ⟨plain.analysis, ?_⟩
  rcases r.fixed_or with every | ⟨id, rfl⟩
  · exact fixed r every
  · rw [place_subscription, String.toList_append, String.toList_append]
    exact Url.Plain.append_slash_iff.mpr ⟨fixed subscriptions (by decide), plain.subscription id rfl⟩

end Resource

def Call.resource : Call → Resource
  | subscribe _ => .subscriptions
  | unsubscribe id => .subscription id
  | discover => .self
  | send (.node _) _ => .messages
  | send .everyone _ => .broadcast

theorem Call.url_eq_resource (baseUrl : String) (a : AnalysisId) (c : Call) : c.url baseUrl a = c.resource.url baseUrl a := by
  rcases c with _ | _ | _ | ⟨_ | _, _⟩
  all_goals rfl

/-- Requests go to one address only if they are built with one. -/
theorem Endpoint.draft_url_inj {e : Endpoint} {a a' : AnalysisId} {c c' : Call} {token token' : String}
    {q q' : Http.Request} (no_fragment : '#' ∉ e.baseUrl.toList) (plain : c.resource.Plain a)
    (plain' : c'.resource.Plain a') (built : (e.draft a c token).build = .ok q)
    (built' : (e.draft a' c' token').build = .ok q') :
    q.url = q'.url ↔ c.resource.url e.baseUrl a = c'.resource.url e.baseUrl a' := by
  have name : Url.Plain "analyses".toList := by decide
  obtain ⟨site, ends⟩ := Url.parse_append no_fragment name ⟨'a', by decide, by decide⟩
  have found {a : AnalysisId} {c : Call} {token : String} {q : Http.Request} (plain : c.resource.Plain a)
      (built : (e.draft a c token).build = .ok q) :
      site.map (Url.extended · (a.text.toList ++ '/' :: c.resource.place.toList)) = .ok q.url := by
    obtain ⟨parsed, requestable⟩ := Http.Draft.url_of_build built
    have url : (e.draft a c token).url = c.resource.url e.baseUrl a := c.url_eq_resource e.baseUrl a
    refine ends _ _ plain.place ?_ requestable
    rw [← parsed, url, ← Resource.toList_url, String.ofList_toList]
  have ends := found plain built
  have ends' := found plain' built'
  cases site with
  | error _ => cases ends
  | ok site =>
    rw [← Except.ok.inj ends, ← Except.ok.inj ends', Url.extended_inj plain.place plain'.place,
      Resource.url_eq_iff_append]

/-- A broker on the same machine. -/
def Endpoint.loopback : Endpoint := .ofSettings { baseUrl := "http://[::1]:8080/" }

/-- Deleting a subscription there. -/
theorem Endpoint.loopback_built (a : AnalysisId) (id : SubscriptionId) (path : String)
    (parsed : Url.parse (Call.subscriptionUrl "http://[::1]:8080" a id) =
      .ok { scheme := "http", host := some "[::1]", port := some 8080, path }) :
    (loopback.draft a (.unsubscribe id) "t").build =
      .ok {
        method := .delete
        url := { scheme := "http", host := some "[::1]", port := some 8080, path }
        authorization := some "Bearer t"
        contentType := none
        body := "" } := by
  have url : (loopback.draft a (.unsubscribe id) "t").url = Call.subscriptionUrl "http://[::1]:8080" a id := rfl
  have valid : Http.isHeaderValue "t" = true := by decide
  unfold Http.Draft.build
  rw [url, parsed]
  simp only [draft, Option.all_some, valid]
  rfl

/-- Two resources have one address only if the id of one analysis goes on like the address of a subscription of the other.
So the fixed ones always differ in their addresses, and so do all those of one analysis, or of analyses without such ids.
Requests differ where addresses do, if the ids are plain. -/
theorem resources_addressed_apart (e : Endpoint) (a a' : AnalysisId) :
    (∀ r r' : Resource, r.url e.baseUrl a = r'.url e.baseUrl a' ↔
      (a = a' ∧ r = r') ∨ (∃ id, r' = .subscription id ∧ r.Within a id a') ∨
        ∃ id, r = .subscription id ∧ r'.Within a' id a) ∧
    (∀ r ∈ Resource.fixed, ∀ r' ∈ Resource.fixed, r.url e.baseUrl a = r'.url e.baseUrl a' → a = a' ∧ r = r') ∧
    (∀ r r' : Resource, r.url e.baseUrl a = r'.url e.baseUrl a → r = r') ∧
    (¬a.Nested → ¬a'.Nested → ∀ r r' : Resource, r.url e.baseUrl a = r'.url e.baseUrl a' → a = a' ∧ r = r') ∧
    ∀ (c c' : Call) (token token' : String) (q q' : Http.Request), '#' ∉ e.baseUrl.toList →
      c.resource.Plain a → c'.resource.Plain a' →
      (e.draft a c token).build = .ok q → (e.draft a' c' token').build = .ok q' →
      (q.url = q'.url ↔ c.resource.url e.baseUrl a = c'.resource.url e.baseUrl a') := by
  refine ⟨fun r r' => Resource.url_eq_iff, fun r every r' every' same => ?_, fun r r' same => ?_,
    fun outer outer' r r' same => ?_, fun c c' token token' q q' => Endpoint.draft_url_inj⟩
  · rcases Resource.url_eq_iff.mp same with equal | ⟨id, rfl, -⟩ | ⟨id, rfl, -⟩
    · exact equal
    · simp [Resource.fixed] at every'
    · simp [Resource.fixed] at every
  · rcases Resource.url_eq_iff.mp same with ⟨-, equal⟩ | ⟨id, -, within⟩ | ⟨id, -, within⟩
    · exact equal
    · exact absurd (Resource.length_lt_of_within within) (Nat.lt_irrefl _)
    · exact absurd (Resource.length_lt_of_within within) (Nat.lt_irrefl _)
  · rcases Resource.url_eq_iff.mp same with equal | ⟨id, -, within⟩ | ⟨id, -, within⟩
    · exact equal
    · exact absurd (Resource.nested_of_within within) outer
    · exact absurd (Resource.nested_of_within within) outer'

/-- Ids with slashes and other letters lead to requests of their own. -/
theorem resources_addressed_apart_beyond_ascii :
    ∃ q q' : Http.Request,
      (Endpoint.loopback.draft ⟨"x"⟩ (.unsubscribe ⟨"é/1"⟩) "t").build = .ok q ∧
      (Endpoint.loopback.draft ⟨"x/messages"⟩ (.unsubscribe ⟨"é/1"⟩) "t").build = .ok q' ∧
      q.url.path = "/analyses/x/messages/subscriptions/%C3%A9/1" ∧ q.url ≠ q'.url := by
  obtain ⟨-, -, -, apart, requests⟩ := resources_addressed_apart Endpoint.loopback ⟨"x"⟩ ⟨"x/messages"⟩
  have built := Endpoint.loopback_built ⟨"x"⟩ ⟨"é/1"⟩ "/analyses/x/messages/subscriptions/%C3%A9/1" (by decide +kernel)
  have built' := Endpoint.loopback_built ⟨"x/messages"⟩ ⟨"é/1"⟩
    "/analyses/x/messages/messages/subscriptions/%C3%A9/1" (by decide +kernel)
  have plain : (Call.unsubscribe ⟨"é/1"⟩).resource.Plain ⟨"x"⟩ := ⟨by decide, by rintro _ ⟨⟩; decide⟩
  have plain' : (Call.unsubscribe ⟨"é/1"⟩).resource.Plain ⟨"x/messages"⟩ := ⟨by decide, by rintro _ ⟨⟩; decide⟩
  refine ⟨_, _, built, built', rfl, fun same => ?_⟩
  have address := (requests _ _ _ _ _ _ (by decide) plain plain' built built').mp same
  exact absurd (apart (by decide) (by decide) _ _ address).1 (by decide)

/-- An id can go on like an address, or lead back in it. -/
theorem resources_share_addresses :
    AnalysisId.ofText "x" = .ok ⟨"x"⟩ ∧
    AnalysisId.ofText "x/messages/subscriptions/y" = .ok ⟨"x/messages/subscriptions/y"⟩ ∧
    AnalysisId.ofText "x/messages/subscriptions" = .ok ⟨"x/messages/subscriptions"⟩ ∧
    Call.subscriptionUrl Endpoint.loopback.baseUrl ⟨"x"⟩ ⟨"y/messages/subscriptions/z"⟩ =
      Call.subscriptionUrl Endpoint.loopback.baseUrl ⟨"x/messages/subscriptions/y"⟩ ⟨"z"⟩ ∧
    Call.messagesUrl Endpoint.loopback.baseUrl ⟨"x/messages/subscriptions"⟩ =
      Call.subscriptionUrl Endpoint.loopback.baseUrl ⟨"x"⟩ ⟨"messages"⟩ ∧
    ∃ q : Http.Request,
      (Endpoint.loopback.draft ⟨"x"⟩ (.unsubscribe ⟨"y/../z"⟩) "t").build = .ok q ∧
      (Endpoint.loopback.draft ⟨"x"⟩ (.unsubscribe ⟨"z"⟩) "t").build = .ok q := by
  have built := Endpoint.loopback_built ⟨"x"⟩ ⟨"y/../z"⟩ "/analyses/x/messages/subscriptions/z" (by decide +kernel)
  have built' := Endpoint.loopback_built ⟨"x"⟩ ⟨"z"⟩ "/analyses/x/messages/subscriptions/z" (by decide +kernel)
  exact ⟨by decide, by decide, by decide, by decide, by decide, _, built, built'⟩

end BrokerTrial

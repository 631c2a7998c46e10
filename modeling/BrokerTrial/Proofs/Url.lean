import Mathlib
import BrokerTrial.Proofs.Url.Path

/-!
# Addresses that end alike

A plain end of an address is found again at the end of the address that is requested, in its path or in its query, and has
no part in the rest of it. So ends that differ make requests that differ.
-/

namespace BrokerTrial.Url

section

variable {p : Char → Bool} {front tail : List Char}

theorem takeWhile_append_of_stop (stop : p '/' = false) :
    (front ++ '/' :: tail).takeWhile p = front.takeWhile p := by
  induction front with
  | nil => simp [stop]
  | cons c rest ih =>
    simp only [List.cons_append, List.takeWhile_cons, ih]

theorem dropWhile_append_of_stop (stop : p '/' = false) :
    (front ++ '/' :: tail).dropWhile p = front.dropWhile p ++ '/' :: tail := by
  induction front with
  | nil => simp [stop]
  | cons c rest ih =>
    simp only [List.cons_append, List.dropWhile_cons, ih]
    split <;> rfl

theorem dropWhile_of_forall (none : ∀ c ∈ front, p c = false) : front.dropWhile p = front := by
  cases front with
  | nil => rfl
  | cons c rest => exact List.dropWhile_cons_of_neg (by simp [none c List.mem_cons_self])

end

/-- Nothing of a plain end is cleaned away. -/
theorem cleaned_append (front : List Char) :
    ∃ lead : List Char, lead ⊆ front ∧
      ∀ tail, Plain tail → cleaned (String.ofList (front ++ '/' :: tail)) = lead ++ '/' :: tail := by
  refine ⟨(front.dropWhile fun c => c.toNat ≤ 0x20).filter fun c => c != '\t' && c != '\n' && c != '\r',
    fun c member => (List.dropWhile_sublist _).subset (List.mem_of_mem_filter member), fun tail plain => ?_⟩
  have shown : ∀ c ∈ tail.reverse, decide (c.toNat ≤ 0x20) = false := fun c member =>
    decide_eq_false (Nat.not_le.mpr (plain.chars_keep c (List.mem_reverse.mp member)).1)
  have kept : tail.filter (fun c => c != '\t' && c != '\n' && c != '\r') = tail := by
    refine List.filter_eq_self.mpr fun c member => ?_
    have shown := (plain.chars_keep c member).1
    simp only [Bool.and_eq_true, bne_iff_ne]
    refine ⟨⟨?_, ?_⟩, ?_⟩
    all_goals
      rintro rfl
      exact absurd shown (by decide)
  simp only [cleaned, String.toList_ofList]
  rw [dropWhile_append_of_stop (by decide), List.reverse_append, List.reverse_cons, List.append_assoc,
    List.singleton_append, dropWhile_append_of_stop (by decide), dropWhile_of_forall shown, List.reverse_append,
    List.reverse_cons, List.reverse_reverse, List.reverse_reverse, List.append_assoc, List.singleton_append,
    List.filter_append, List.filter_cons_of_pos (by decide), kept]

theorem splitScheme_append (front tail : List Char) :
    splitScheme (front ++ '/' :: tail) = (splitScheme front).map fun (scheme, rest) => (scheme, rest ++ '/' :: tail) := by
  simp only [splitScheme]
  rw [takeWhile_append_of_stop (by decide), dropWhile_append_of_stop (by decide)]
  generalize front.takeWhile _ = scheme
  generalize front.dropWhile _ = after
  cases scheme with
  | nil => rfl
  | cons c scheme =>
    cases after with
    | nil => rfl
    | cons d rest =>
      by_cases colon : d = ':'
      · by_cases letter : c.isAlpha = true
        · simp [colon, letter]
        · simp [colon, letter]
      · simp [colon]

theorem subset_of_splitScheme {chars rest : List Char} {scheme : String}
    (read : splitScheme chars = some (scheme, rest)) : rest ⊆ chars := by
  simp only [splitScheme] at read
  split at read
  · rename_i after
    split at read
    · cases read
      intro c member
      have later := List.mem_cons_of_mem ':' member
      rw [← after] at later
      exact (List.dropWhile_sublist _).subset later
    · cases read
  · cases read

/-- The address with more at its end. -/
def extended (site : Url) (tail : List Char) : Url :=
  match site.query with
  | some query => { site with query := some (query ++ String.ofList (percentEncodeChars inQuerySet tail)) }
  | none => { site with path := site.path ++ String.ofList (percentEncodeChars inPathSet tail) }

theorem extended_inj {site : Url} {tail other : List Char} (plain : Plain tail) (plain' : Plain other) :
    site.extended tail = site.extended other ↔ tail = other := by
  refine ⟨fun same => ?_, congrArg _⟩
  have encoded {set : Char → Bool} (front : String)
      (same : front ++ String.ofList (percentEncodeChars set tail) =
        front ++ String.ofList (percentEncodeChars set other)) : tail = other :=
    (percentEncodeChars_inj (plain.notMem (by decide)) (plain'.notMem (by decide))).mp
      (String.ofList_injective ((String.append_right_inj front).mp same))
  unfold extended at same
  split at same
  · exact encoded _ (Option.some.inj (congrArg query same))
  · exact encoded _ (congrArg path same)

/-- On the web a backslash is a slash. -/
def slashed (c : Char) : Char := if c == '\\' then '/' else c

/-- What a place on the web is: a host behind any number of slashes, and a path. -/
def web (scheme : String) (port : Nat) (place : List Char) (query : Option String) : Except ParseError Url :=
  let ground := (place.map slashed).dropWhile (· == '/')
  (authority (some port) (ground.takeWhile (· != '/'))).map fun a =>
    { scheme, username := a.username, password := a.password, host := some a.host, port := a.port, query
      path := canonicalPath (ground.dropWhile (· != '/')) }

theorem span_ne_of_notMem {c : Char} {chars : List Char} (free : c ∉ chars) : chars.span (· != c) = (chars, []) := by
  have all : ∀ d ∈ chars, (d != c) = true := fun d member => bne_iff_ne.mpr (ne_of_mem_of_not_mem member free)
  rw [List.span_eq_takeWhile_dropWhile, List.takeWhile_eq_self_iff.mpr all, List.dropWhile_eq_nil_iff.mpr all]

theorem span_ne_append {c : Char} {front : List Char} (free : c ∉ front) (rest : List Char) :
    (front ++ c :: rest).span (· != c) = (front, c :: rest) := by
  have all : ∀ d ∈ front, (d != c) = true := fun d member => bne_iff_ne.mpr (ne_of_mem_of_not_mem member free)
  rw [List.span_eq_takeWhile_dropWhile, List.takeWhile_append_of_pos all, List.dropWhile_append_of_pos all]
  simp

section

variable {s scheme : String} {place query : List Char} {port : Nat}

theorem parse_of_place (read : splitScheme (cleaned s) = some (scheme, place)) (known : defaultPort? scheme = some port)
    (no_fragment : '#' ∉ place) (no_query : '?' ∉ place) : parse s = web scheme port place none := by
  simp only [parse, read, known, span_ne_of_notMem no_fragment, span_ne_of_notMem no_query,
    List.span_eq_takeWhile_dropWhile]
  rfl

theorem parse_of_query (read : splitScheme (cleaned s) = some (scheme, place ++ '?' :: query))
    (known : defaultPort? scheme = some port) (no_fragment : '#' ∉ place ++ '?' :: query) (no_query : '?' ∉ place) :
    parse s = web scheme port place (some (percentEncode inQuerySet (String.ofList query))) := by
  simp only [parse, read, known, span_ne_of_notMem no_fragment, span_ne_append no_query,
    List.span_eq_takeWhile_dropWhile]
  rfl

theorem not_requestable_of_parse {u : Url} (read : splitScheme (cleaned s) = some (scheme, place))
    (unknown : defaultPort? scheme = none) (parsed : parse s = .ok u) : u.requestable = false := by
  have same : u.scheme = scheme := by
    simp only [parse, read, unknown] at parsed
    split at parsed
    · contradiction
    · unfold Except.map at parsed
      split at parsed
      · cases parsed
      · cases parsed
        rfl
    · cases parsed
      rfl
  have no_http : scheme ≠ "http" := by
    rintro rfl
    cases unknown
  have no_https : scheme ≠ "https" := by
    rintro rfl
    cases unknown
  simp [requestable, same, no_http, no_https]

end

section

variable (scheme : String) (port : Nat) {place : List Char}

/-- Behind its host, a place ends as it did. -/
theorem web_append (solid : ∃ c ∈ place, slashed c ≠ '/') :
    ∃ site : Except ParseError Url, ∀ tail, Plain tail →
      web scheme port (place ++ '/' :: tail) none = site.map (extended · tail) := by
  have host : (place.map slashed).dropWhile (· == '/') ≠ [] := by
    intro none
    obtain ⟨c, member, no_slash⟩ := solid
    have slash := List.dropWhile_eq_nil_iff.mp none _ (List.mem_map_of_mem member)
    exact no_slash (beq_iff_eq.mp slash)
  have kept (tail : List Char) (plain : Plain tail) : tail.map slashed = tail := by
    refine (List.map_congr_left fun c member => if_neg ?_).trans (List.map_id' tail)
    rw [beq_iff_eq]
    exact ne_of_mem_of_not_mem member (plain.notMem (by decide))
  have ground (tail : List Char) (plain : Plain tail) : ((place ++ '/' :: tail).map slashed).dropWhile (· == '/') =
      (place.map slashed).dropWhile (· == '/') ++ '/' :: tail := by
    -- without a host in the place, its slashes would be those before a host in the tail
    rw [List.map_append, List.map_cons, kept tail plain, List.dropWhile_append, if_neg (by simpa using host)]
    rfl
  generalize (place.map slashed).dropWhile (· == '/') = front at ground
  obtain ⟨start, path⟩ := canonicalPath_append (front.dropWhile (· != '/'))
  refine ⟨(authority (some port) (front.takeWhile (· != '/'))).map fun a =>
    { scheme, username := a.username, password := a.password, host := some a.host, port := a.port, path := start },
    fun tail plain => ?_⟩
  simp only [web, ground tail plain]
  rw [takeWhile_append_of_stop (by decide), dropWhile_append_of_stop (by decide), path tail plain]
  cases authority (some port) (front.takeWhile (· != '/')) with
  | error e => rfl
  | ok name => rfl

theorem web_query_append (query tail : List Char) :
    web scheme port place (some (percentEncode inQuerySet (String.ofList (query ++ tail)))) =
      (web scheme port place (some (percentEncode inQuerySet (String.ofList query)))).map (extended · tail) := by
  have encoded : percentEncode inQuerySet (String.ofList (query ++ tail)) =
      percentEncode inQuerySet (String.ofList query) ++ String.ofList (percentEncodeChars inQuerySet tail) := by
    rw [percentEncode_ofList, percentEncode_ofList, percentEncodeChars_append, String.ofList_append]
  simp only [web, encoded]
  generalize authority _ _ = name
  cases name with
  | error e => rfl
  | ok name => rfl

/-- If the place has a query, more at its end belongs to the query, and otherwise to the path. -/
theorem parse_eq_extended {scheme : String} {port : Nat} {step : List Char} (known : defaultPort? scheme = some port)
    (no_fragment : '#' ∉ place) (plain : Plain step) (named : ∃ c ∈ step, slashed c ≠ '/') :
    ∃ site : Except ParseError Url, ∀ s tail, Plain tail →
      splitScheme (cleaned s) = some (scheme, place ++ '/' :: (step ++ '/' :: tail)) →
      parse s = site.map (extended · tail) := by
  have plain_end {tail : List Char} (plain' : Plain tail) : Plain (step ++ '/' :: tail) :=
    Plain.append_slash_iff.mpr ⟨plain, plain'⟩
  by_cases sign : '?' ∈ place
  · obtain ⟨place, query, rfl, no_query⟩ := List.eq_append_cons_of_mem sign
    refine ⟨web scheme port place (some (percentEncode inQuerySet (String.ofList (query ++ '/' :: (step ++ ['/']))))),
      fun s tail plain' read => ?_⟩
    have grown : (query ++ '/' :: (step ++ ['/'])) ++ tail = query ++ '/' :: (step ++ '/' :: tail) := by simp
    have apart : (place ++ '?' :: query) ++ '/' :: (step ++ '/' :: tail) =
        place ++ '?' :: (query ++ '/' :: (step ++ '/' :: tail)) := List.append_assoc _ _ _
    have no_fragment := (plain_end plain').notMem_append (by decide) no_fragment
    rw [apart] at no_fragment read
    rw [← web_query_append, grown, parse_of_query read known no_fragment no_query]
  · have solid : ∃ c ∈ place ++ '/' :: step, slashed c ≠ '/' := by
      obtain ⟨c, member, name⟩ := named
      exact ⟨c, List.mem_append_right _ (List.mem_cons_of_mem _ member), name⟩
    obtain ⟨site, same⟩ := web_append scheme port solid
    refine ⟨site, fun s tail plain' read => ?_⟩
    have grown : (place ++ '/' :: step) ++ '/' :: tail = place ++ '/' :: (step ++ '/' :: tail) := by simp
    rw [← same tail plain', grown, parse_of_place read known ((plain_end plain').notMem_append (by decide) no_fragment)
      ((plain_end plain').notMem_append (by decide) sign)]

end

/-- Behind a step that is a name, a plain end of an address has no part in the rest of a request. -/
theorem parse_append {front step : List Char} (no_fragment : '#' ∉ front) (plain : Plain step)
    (named : ∃ c ∈ step, slashed c ≠ '/') :
    ∃ site : Except ParseError Url, ∀ tail u, Plain tail →
      parse (String.ofList (front ++ '/' :: (step ++ '/' :: tail))) = .ok u → u.requestable = true →
      site.map (extended · tail) = .ok u := by
  obtain ⟨lead, part, clean⟩ := cleaned_append front
  have read {tail : List Char} (plain' : Plain tail) :=
    (congrArg splitScheme (clean _ (Plain.append_slash_iff.mpr ⟨plain, plain'⟩))).trans
      (splitScheme_append lead (step ++ '/' :: tail))
  cases split : splitScheme lead with
  | none =>
    refine ⟨.error .relative, fun tail u plain' parsed _ => ?_⟩
    rw [parse, read plain', split] at parsed
    cases parsed
  | some found =>
    obtain ⟨scheme, place⟩ := found
    simp only [split, Option.map_some] at read
    cases known : defaultPort? scheme with
    | none =>
      refine ⟨.error .relative, fun tail u plain' parsed requestable => ?_⟩
      rw [not_requestable_of_parse (read plain') known parsed] at requestable
      cases requestable
    | some port =>
      have no_fragment : '#' ∉ place := fun member => no_fragment (part (subset_of_splitScheme split member))
      obtain ⟨site, same⟩ := parse_eq_extended known no_fragment plain named
      exact ⟨site, fun tail u plain' parsed _ => (same _ tail plain' (read plain')).symm.trans parsed⟩

end BrokerTrial.Url

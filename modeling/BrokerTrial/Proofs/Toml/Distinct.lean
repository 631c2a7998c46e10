import Mathlib
import BrokerTrial.Toml.Reader

/-!
# Names stand once

Whatever the order of its lines, a document that is read has no table in which a name stands twice, at any depth.
-/

namespace BrokerTrial.Toml

namespace Entries

variable {entries : Entries} {key : Key} {name : String} {v : Value}

def names (entries : Entries) : List String := entries.map (·.1.name)

theorem mem_of_get? (found : entries.get? name = some v) : ∃ key : Key, key.name = name ∧ (key, v) ∈ entries := by
  obtain ⟨⟨key, w⟩, first, rfl⟩ := Option.map_eq_some_iff.mp found
  exact ⟨key, by simpa using List.find?_some first, List.mem_of_find?_eq_some first⟩

theorem get?_eq_none_iff : entries.get? name = none ↔ name ∉ entries.names := by
  rw [get?, Option.map_eq_none_iff, List.find?_eq_none]
  simp [names]

theorem mem_set {x : Key × Value} (member : x ∈ entries.set key v) : x ∈ entries ∨ x.2 = v := by
  induction entries with
  | nil =>
    rw [List.mem_singleton.mp member]
    exact Or.inr rfl
  | cons first rest ih =>
    unfold set at member
    split at member
    · rcases List.mem_cons.mp member with rfl | later
      · exact Or.inr rfl
      · exact Or.inl (List.mem_cons_of_mem _ later)
    · rcases List.mem_cons.mp member with rfl | later
      · exact Or.inl List.mem_cons_self
      · exact (ih later).imp (List.mem_cons_of_mem _) id

theorem names_set : (entries.set key v).names = if key.name ∈ entries.names then entries.names
    else entries.names ++ [key.name] := by
  induction entries with
  | nil => rfl
  | cons first rest ih =>
    unfold set
    split
    · rename_i same
      have here : key.name ∈ names (first :: rest) := same ▸ List.mem_cons_self
      rw [if_pos here]
      rfl
    · rename_i other
      have names_cons (es : Entries) : names (first :: es) = first.1.name :: names es := rfl
      rw [names_cons, names_cons, ih]
      by_cases later : key.name ∈ names rest
      · rw [if_pos later, if_pos (List.mem_cons_of_mem _ later)]
      · have new : key.name ∉ first.1.name :: names rest := fun member =>
          (List.mem_cons.mp member).elim (fun same => other same.symm) later
        rw [if_neg later, if_neg new]
        rfl

theorem nodup_concat (distinct : entries.names.Nodup) (new : key.name ∉ entries.names) :
    (names (entries ++ [(key, v)])).Nodup := by
  have all : names (entries ++ [(key, v)]) = entries.names.concat key.name := by simp [names]
  rw [all]
  exact distinct.concat new

theorem nodup_set (distinct : entries.names.Nodup) : (entries.set key v).names.Nodup := by
  rw [names_set]
  split
  · exact distinct
  · rename_i new
    rw [← List.concat_eq_append]
    exact distinct.concat new

end Entries

/-- Every table in a value has each name once. -/
inductive Value.Tidy : Value → Prop where
  | text (span : Span) (s : String) : (Value.text span s).Tidy
  | integer (span : Span) (n : Int) : (Value.integer span n).Tidy
  | float (span : Span) (x : Float) : (Value.float span x).Tidy
  | bool (span : Span) (b : Bool) : (Value.bool span b).Tidy
  | datetime (span : Span) : (Value.datetime span).Tidy
  | array {span : Span} {items : List Value} (each : ∀ v ∈ items, v.Tidy) : (Value.array span items).Tidy
  | tables {items : List Value} (each : ∀ v ∈ items, v.Tidy) : (Value.tables items).Tidy
  | table {span : Option Span} {origin : Origin} {entries : Entries} (distinct : entries.names.Nodup)
      (each : ∀ x ∈ entries, x.2.Tidy) : (Value.table span origin entries).Tidy

/-- Entries that a table in such a value can have. -/
structure Entries.Tidy (entries : Entries) : Prop where
  distinct : entries.names.Nodup
  each : ∀ x ∈ entries, x.2.Tidy

variable {α : Type} {entries : Entries} {key : Key} {name : String} {v v' : Value}

namespace Entries.Tidy

theorem nil : Entries.Tidy [] := ⟨List.nodup_nil, nofun⟩

theorem table (h : entries.Tidy) (span : Option Span) (origin : Origin) : (Value.table span origin entries).Tidy :=
  .table h.distinct h.each

theorem get? (h : entries.Tidy) (found : entries.get? name = some v) : v.Tidy := by
  obtain ⟨key, -, member⟩ := mem_of_get? found
  exact h.each (key, v) member

theorem set (h : entries.Tidy) (tidy : v.Tidy) : (entries.set key v).Tidy := by
  refine ⟨nodup_set h.distinct, fun x member => ?_⟩
  rcases mem_set member with old | new
  · exact h.each x old
  · rw [new]
    exact tidy

theorem concat (h : entries.Tidy) (tidy : v.Tidy) (new : entries.get? key.name = none) :
    Entries.Tidy (entries ++ [(key, v)]) := by
  refine ⟨nodup_concat h.distinct (get?_eq_none_iff.mp new), fun x member => ?_⟩
  rcases List.mem_append.mp member with old | last
  · exact h.each x old
  · rw [List.mem_singleton.mp last]
    exact tidy

theorem erase (h : entries.Tidy) (name : String) : (entries.erase name).Tidy :=
  ⟨h.distinct.sublist (List.filter_sublist.map _), fun x member => h.each x (List.mem_of_mem_filter member)⟩

end Entries.Tidy

theorem Value.Tidy.inside {span : Option Span} {origin : Origin} (h : (Value.table span origin entries).Tidy) :
    entries.Tidy := by
  cases h with
  | table distinct each => exact ⟨distinct, each⟩

theorem Value.Tidy.latest {items : List Value} (h : (Value.tables (v :: items)).Tidy) :
    v.Tidy ∧ ∀ w ∈ items, w.Tidy := by
  cases h with
  | tables each => exact List.forall_mem_cons.mp each

/-! ### Adding to tables -/

/-- A change that keeps tables tidy, and gives what has a property, keeps the table around them tidy. -/
theorem descend_tidy {dotted : Bool} {change : Value → Option (Value × α)} {P : α → Prop}
    (keeps : ∀ {t t' : Value} {a : α}, t.Tidy → change t = some (t', a) → t'.Tidy ∧ P a) {path : List Key} {a : α}
    (tidy : v.Tidy) (changed : descend dotted change path v = some (v', a)) : v'.Tidy ∧ P a := by
  induction path generalizing v v' with
  | nil => exact keeps tidy changed
  | cons key path ih =>
    cases v with
    | text | integer | float | bool | datetime | array | tables => cases changed
    | table span origin entries =>
      have around {inner : Value} (step : inner.Tidy ∧ P a) :
          (Value.table span origin (Entries.set entries key inner)).Tidy ∧ P a :=
        ⟨(tidy.inside.set step.1).table _ _, step.2⟩
      have old : ((Entries.get? entries key.name).getD
          (Value.table none (if dotted then .dotted else .implied) [])).Tidy := by
        cases here : Entries.get? entries key.name with
        | none => exact Entries.Tidy.nil.table _ _
        | some w => exact tidy.inside.get? here
      unfold descend at changed
      dsimp only at changed
      split at changed
      · rename_i there
        rw [there] at old
        split at changed
        · cases changed
        · obtain ⟨⟨inner, found⟩, reached, same⟩ := Option.bind_eq_some_iff.mp changed
          cases same
          exact around (ih old reached)
      · rename_i latest items there
        rw [there] at old
        obtain ⟨last, others⟩ := old.latest
        obtain ⟨⟨latest', found⟩, reached, same⟩ := Option.bind_eq_some_iff.mp changed
        cases same
        obtain ⟨first, property⟩ := ih last reached
        exact around ⟨.tables (List.forall_mem_cons.mpr ⟨first, others⟩), property⟩
      · cases changed

theorem setNew_tidy {dotted : Bool} {u : Unit} {t : Value} (tidy : v.Tidy) (table : t.Tidy)
    (changed : setNew dotted key v t = some (v', u)) : v'.Tidy := by
  cases t with
  | text | integer | float | bool | datetime | array | tables => cases changed
  | table span origin entries =>
    cases there : Entries.get? entries key.name with
    | none =>
      simp only [setNew, there] at changed
      split at changed
      · cases changed
        exact (table.inside.concat tidy there).table _ _
      · cases changed
    | some w =>
      simp only [setNew, there] at changed
      split at changed
      · cases changed
      · cases changed

theorem setInline_tidy {dotted : Bool} {path : List Key} {t t' : Value} (tidy : v.Tidy) (table : t.Tidy)
    (changed : setInline dotted key v path t = some t') : t'.Tidy := by
  induction path generalizing t t' with
  | nil =>
    obtain ⟨⟨_, u⟩, here, rfl⟩ := Option.map_eq_some_iff.mp changed
    exact setNew_tidy tidy table here
  | cons k path ih =>
    cases t with
    | text | integer | float | bool | datetime | array | tables => cases changed
    | table span origin entries =>
      unfold setInline at changed
      dsimp only at changed
      split at changed
      · obtain ⟨inner, reached, same⟩ := Option.bind_eq_some_iff.mp changed
        cases same
        exact (table.inside.set (ih (Entries.Tidy.nil.table _ _) reached)).table _ _
      · rename_i there
        obtain ⟨inner, reached, same⟩ := Option.bind_eq_some_iff.mp changed
        cases same
        exact (table.inside.set (ih (table.inside.get? there) reached)).table _ _
      · cases changed

theorem foldlM_keeps {β : Type} {f : α → β → Option α} {P : α → Prop} {xs : List β}
    (keeps : ∀ x ∈ xs, ∀ a a', P a → f a x = some a' → P a') {a a' : α} (start : P a)
    (done : xs.foldlM f a = some a') : P a' := by
  induction xs generalizing a with
  | nil =>
    cases done
    exact start
  | cons x rest ih =>
    obtain ⟨first, later⟩ := List.forall_mem_cons.mp keeps
    rw [List.foldlM_cons] at done
    obtain ⟨b, here, done⟩ := Option.bind_eq_some_iff.mp done
    exact ih later (first a b start here) done

theorem inlineTable_tidy {pairs : List (List Key × Value)} (each : ∀ p ∈ pairs, p.2.Tidy)
    (made : inlineTable pairs = some entries) : entries.Tidy := by
  obtain ⟨t, done, same⟩ := Option.bind_eq_some_iff.mp made
  have tidy : t.Tidy := by
    refine foldlM_keeps (fun p member t t' tidy changed => ?_) (Entries.Tidy.nil.table _ _) done
    obtain ⟨keys, v⟩ := p
    dsimp only at changed
    split at changed
    · exact setInline_tidy (each (keys, v) member) tidy changed
    · cases changed
  split at same
  · cases same
    exact tidy.inside
  · cases same

/-! ### Values -/

theorem plainValue_tidy {r rest : Rest} (read : plainValue r = some (v, rest)) : v.Tidy := by
  unfold plainValue at read
  split at read
  · cases read
    exact .bool _ _
  · cases read
    exact .bool _ _
  · split at read
    · cases read
      exact .text _ _
    · cases read
      exact .datetime _
    · cases read
      exact .float _ _
    · cases read
      exact .integer _ _
    · cases read

section

variable {item : Rest → Option (Value × Rest)} (items_tidy : ∀ {r rest : Rest} {v : Value}, item r = some (v, rest) → v.Tidy)
include items_tidy

theorem arrayItems_tidy {fuel : Nat} {r rest : Rest} {out items : List Value} (before : ∀ v ∈ out, v.Tidy)
    (read : arrayItems item fuel r out = some (items, rest)) : ∀ v ∈ items, v.Tidy := by
  induction fuel generalizing r out with
  | zero => cases read
  | succ fuel ih =>
    obtain ⟨blank, -, read⟩ := Option.bind_eq_some_iff.mp read
    split at read
    · cases read
      exact fun v member => before v (List.mem_reverse.mp member)
    · obtain ⟨⟨v, r⟩, here, read⟩ := Option.bind_eq_some_iff.mp read
      obtain ⟨blank, -, read⟩ := Option.bind_eq_some_iff.mp read
      have now : ∀ w ∈ v :: out, w.Tidy := List.forall_mem_cons.mpr ⟨items_tidy here, before⟩
      split at read
      · exact ih now read
      · cases read
        exact fun w member => now w (List.mem_reverse.mp member)
      · cases read

theorem pair_tidy {r rest : Rest} {keys : List Key} (read : pair item r = some ((keys, v), rest)) : v.Tidy := by
  obtain ⟨⟨keys, r⟩, -, read⟩ := Option.bind_eq_some_iff.mp read
  obtain ⟨r, -, read⟩ := Option.bind_eq_some_iff.mp read
  obtain ⟨⟨w, r⟩, here, read⟩ := Option.bind_eq_some_iff.mp read
  cases read
  exact items_tidy here

theorem inlinePairs_tidy {fuel : Nat} {r rest : Rest} {out pairs : List (List Key × Value)}
    (before : ∀ p ∈ out, p.2.Tidy) (read : inlinePairs item fuel r out = some (pairs, rest)) :
    ∀ p ∈ pairs, p.2.Tidy := by
  induction fuel generalizing r out with
  | zero => cases read
  | succ fuel ih =>
    obtain ⟨⟨⟨keys, v⟩, r⟩, here, read⟩ := Option.bind_eq_some_iff.mp read
    have now : ∀ p ∈ (keys, v) :: out, p.2.Tidy := List.forall_mem_cons.mpr ⟨pair_tidy items_tidy here, before⟩
    dsimp only at read
    split at read
    · exact ih now read
    · cases read
      exact fun p member => now p (List.mem_reverse.mp member)
    · cases read

end

theorem value_tidy {size depth : Nat} {r rest : Rest} (read : value size depth r = some (v, rest)) : v.Tidy := by
  induction depth generalizing r rest v with
  | zero => exact plainValue_tidy read
  | succ depth ih =>
    unfold value at read
    split at read
    · obtain ⟨⟨items, r⟩, here, read⟩ := Option.bind_eq_some_iff.mp read
      cases read
      exact .array (arrayItems_tidy ih (List.forall_mem_nil _) here)
    · split at read
      · cases read
        exact Entries.Tidy.nil.table _ _
      · obtain ⟨⟨pairs, r⟩, here, read⟩ := Option.bind_eq_some_iff.mp read
        obtain ⟨entries, made, read⟩ := Option.bind_eq_some_iff.mp read
        cases read
        exact (inlineTable_tidy (inlinePairs_tidy ih (List.forall_mem_nil _) here) made).table _ _
    · exact plainValue_tidy read

/-! ### Documents -/

namespace Draft

variable {d d' : Draft} {several : Bool}

/-- Both what is finished and what is added to are tidy. -/
structure Tidy (d : Draft) : Prop where
  root : d.root.Tidy
  current : d.current.Tidy

theorem start_tidy : Tidy {} := ⟨Entries.Tidy.nil.table _ _, Entries.Tidy.nil.table _ _⟩

theorem place_tidy {u : Unit} {t : Value} (tidy : v.Tidy) (table : t.Tidy)
    (placed : place key several v t = some (v', u)) : v'.Tidy := by
  cases t with
  | text | integer | float | bool | datetime | array | tables => cases placed
  | table span origin entries =>
    unfold place at placed
    dsimp only at placed
    split at placed
    · rename_i new
      cases placed
      exact (table.inside.concat tidy new).table _ _
    · rename_i items there
      cases placed
      have old := table.inside.get? there
      cases old with
      | tables each => exact (table.inside.set (.tables (List.forall_mem_cons.mpr ⟨tidy, each⟩))).table _ _
    · rename_i new
      cases placed
      exact (table.inside.concat (.tables (List.forall_mem_singleton.mpr tidy)) new).table _ _
    · cases placed

theorem Tidy.finish (h : d.Tidy) (done : d.finish = some v) : v.Tidy := by
  unfold Draft.finish at done
  split at done
  · cases done
    exact h.current
  · obtain ⟨⟨_, u⟩, here, rfl⟩ := Option.map_eq_some_iff.mp done
    exact (descend_tidy (P := fun _ => True) (fun table placed => ⟨place_tidy h.current table placed, trivial⟩)
      h.root here).1

theorem reopen_tidy {found : Entries} {t : Value} (table : t.Tidy) (opened : reopen key several t = some (v', found)) :
    v'.Tidy ∧ found.Tidy := by
  cases t with
  | text | integer | float | bool | datetime | array | tables => cases opened
  | table span origin entries =>
    unfold reopen at opened
    dsimp only at opened
    split at opened
    · cases opened
      exact ⟨table, .nil⟩
    · cases opened
      exact ⟨table, .nil⟩
    · rename_i there
      cases opened
      exact ⟨(table.inside.erase _).table _ _, (table.inside.get? there).inside⟩
    · cases opened

theorem Tidy.header {keys : List Key} {span : Span} (h : d.Tidy) (opened : d.header keys several span = some d') :
    d'.Tidy := by
  obtain ⟨key, -, opened⟩ := Option.bind_eq_some_iff.mp opened
  obtain ⟨root, finished, opened⟩ := Option.bind_eq_some_iff.mp opened
  obtain ⟨⟨root', found⟩, here, opened⟩ := Option.bind_eq_some_iff.mp opened
  cases opened
  obtain ⟨parent, entries⟩ := descend_tidy reopen_tidy (h.finish finished) here
  exact ⟨parent, entries.table _ _⟩

theorem Tidy.assign {keys : List Key} (h : d.Tidy) (tidy : v.Tidy) (set : d.assign keys v = some d') : d'.Tidy := by
  obtain ⟨key, -, set⟩ := Option.bind_eq_some_iff.mp set
  obtain ⟨⟨current, u⟩, here, set⟩ := Option.bind_eq_some_iff.mp set
  cases set
  refine ⟨h.root, (descend_tidy (P := fun _ => True)
    (fun table changed => ⟨setNew_tidy tidy table changed, trivial⟩) ?_ here).1⟩
  split
  · rename_i same _
    exact (same ▸ h.current).inside.table _ _
  · exact h.current

end Draft

theorem lines_tidy {size fuel : Nat} {d : Draft} {r : Rest} (h : d.Tidy) (read : lines size fuel d r = some v) :
    v.Tidy := by
  induction fuel generalizing d r with
  | zero => cases read
  | succ fuel ih =>
    unfold lines at read
    split at read
    · exact h.finish read
    · exact ih h read
    · exact ih h read
    · obtain ⟨r, -, read⟩ := Option.bind_eq_some_iff.mp read
      exact ih h read
    · obtain ⟨⟨keys, r⟩, -, read⟩ := Option.bind_eq_some_iff.mp read
      obtain ⟨r, -, read⟩ := Option.bind_eq_some_iff.mp read
      obtain ⟨r, -, read⟩ := Option.bind_eq_some_iff.mp read
      obtain ⟨d', opened, read⟩ := Option.bind_eq_some_iff.mp read
      obtain ⟨r, -, read⟩ := Option.bind_eq_some_iff.mp read
      exact ih (h.header opened) read
    · obtain ⟨⟨keys, r⟩, -, read⟩ := Option.bind_eq_some_iff.mp read
      obtain ⟨r, -, read⟩ := Option.bind_eq_some_iff.mp read
      obtain ⟨d', opened, read⟩ := Option.bind_eq_some_iff.mp read
      obtain ⟨r, -, read⟩ := Option.bind_eq_some_iff.mp read
      exact ih (h.header opened) read
    · obtain ⟨⟨⟨keys, v⟩, r⟩, here, read⟩ := Option.bind_eq_some_iff.mp read
      obtain ⟨d', set, read⟩ := Option.bind_eq_some_iff.mp read
      obtain ⟨r, -, read⟩ := Option.bind_eq_some_iff.mp read
      exact ih (h.assign (pair_tidy value_tidy here) set) read

/-- No name stands twice in a table of a document. -/
theorem read_tidy {text : String} (ok : read text = some entries) : entries.Tidy := by
  unfold read at ok
  dsimp only at ok
  split at ok
  · rename_i done
    cases ok
    exact (lines_tidy Draft.start_tidy done).inside
  · cases ok

end BrokerTrial.Toml

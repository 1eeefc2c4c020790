import Potfile.Registry
import Potfile.Proofs.Quoting
import Mathlib.Data.List.Basic
import Mathlib.Data.List.Induction
import Mathlib.Data.List.Nodup

/-! # What a registry holds

A registry is a function of its history, the list of the occurrences that were folded into it.
That function, `tally`, is stated without running anything:

* `keys`: the messages of a history in the order of their first appearance.
* `entryOf`: the entry of one message, from the occurrences that mention it.
* `conflict?`: the conflict that one more occurrence raises.

`register_tally` is the step from a history to the history with one more occurrence, and
`registerAll_tally` follows a whole run along it.
-/

namespace Potfile.Registry

open Text (trim)
open Quoting (escape escape_inj escape_injective)

/-! ## Lists without repetitions -/

section EraseDups

variable {α : Type} [DecidableEq α]

theorem eraseDups_concat (items : List α) (item : α) :
    (items ++ [item]).eraseDups =
      if item ∈ items then items.eraseDups else items.eraseDups ++ [item] := by
  rw [List.eraseDups_append]
  by_cases known : item ∈ items
  · simp [List.removeAll, known]
  · simp [List.removeAll, known, List.eraseDups_cons]

theorem nodup_eraseDups (items : List α) : items.eraseDups.Nodup := by
  induction items using List.reverseRecOn with
  | nil => simp
  | append_singleton items item inductionHypothesis =>
    rw [eraseDups_concat]
    split
    · exact inductionHypothesis
    · next fresh =>
      rw [List.nodup_append]
      refine ⟨inductionHypothesis, List.nodup_singleton item, ?_⟩
      intro a memberA b memberB equal
      rw [List.mem_singleton] at memberB
      subst memberB equal
      exact fresh (List.mem_eraseDups.mp memberA)

end EraseDups

/-! ## The history of a message -/

/-- The messages of a history, each where it first appears. -/
def keys (history : List Occurrence) : List String :=
  ((history.map fun o => trim o.text).filter (· ≠ "")).eraseDups

/-- The occurrences of one message. -/
def mentions (history : List Occurrence) (message : String) : List Occurrence :=
  history.filter fun o => trim o.text = message

/-- A plural, if there is one that is not empty. -/
def givenPlural? (o : Occurrence) : Option String := o.plural.filter (· ≠ "")

/-- The plural that a message was first given. -/
def firstPlural? (history : List Occurrence) (message : String) : Option String :=
  (mentions history message).findSome? givenPlural?

section Locations

variable (locate : String → Option String → String)

/-- The places of a message, each where it first appears. -/
def locations (history : List Occurrence) (message : String) : List String :=
  ((mentions history message).map fun o => locate message o.plural).eraseDups

def entryOf (history : List Occurrence) (message : String) : Entry :=
  { msgid := escape message
    plural := (firstPlural? history message).map escape
    references := locations locate history message
    msgstr := if (firstPlural? history message).isSome then ["", ""] else [""] }

def tally (history : List Occurrence) : Registry :=
  { entries := (keys history).map fun message => (message, entryOf locate history message) }

/-- The conflict of an occurrence with what was there before: it gives its message another plural
    than the first one. -/
def conflict? (earlier : List Occurrence) (o : Occurrence) : Option PluralConflict :=
  if trim o.text = "" then none
  else
    match givenPlural? o, firstPlural? earlier (trim o.text) with
    | some plural, some first =>
      if plural = first then none
      else some
        { message := trim o.text, existing := escape first, conflicting := escape plural,
          references := locations locate (earlier ++ [o]) (trim o.text) }
    | _, _ => none

end Locations

/-! ## One more occurrence -/

theorem mem_keys {history : List Occurrence} {message : String} :
    message ∈ keys history ↔ message ≠ "" ∧ ∃ o ∈ history, trim o.text = message := by
  simp only [keys, List.mem_eraseDups, List.mem_filter, List.mem_map, decide_eq_true_eq]
  exact and_comm

theorem nodup_keys (history : List Occurrence) : (keys history).Nodup := nodup_eraseDups _

theorem keys_concat_of_blank {o : Occurrence} (blank : trim o.text = "")
    (history : List Occurrence) : keys (history ++ [o]) = keys history := by
  simp [keys, blank]

theorem keys_concat {o : Occurrence} (some : trim o.text ≠ "") (history : List Occurrence) :
    keys (history ++ [o]) =
      if trim o.text ∈ keys history then keys history else keys history ++ [trim o.text] := by
  rw [keys, List.map_append, List.filter_append, List.map_singleton,
    List.filter_cons_of_pos (by simpa using some), List.filter_nil, eraseDups_concat]
  simp only [keys, List.mem_eraseDups]

theorem mentions_concat_self (history : List Occurrence) (o : Occurrence) :
    mentions (history ++ [o]) (trim o.text) = mentions history (trim o.text) ++ [o] := by
  simp [mentions]

theorem mentions_concat_other {o : Occurrence} {message : String} (other : trim o.text ≠ message)
    (history : List Occurrence) : mentions (history ++ [o]) message = mentions history message := by
  simp [mentions, other]

theorem firstPlural?_concat_self (history : List Occurrence) (o : Occurrence) :
    firstPlural? (history ++ [o]) (trim o.text) =
      (firstPlural? history (trim o.text)).or (givenPlural? o) := by
  rw [firstPlural?, mentions_concat_self, List.findSome?_append, firstPlural?]
  congr 1
  cases given : givenPlural? o <;> simp [given]

theorem firstPlural?_concat_other {o : Occurrence} {message : String}
    (other : trim o.text ≠ message) (history : List Occurrence) :
    firstPlural? (history ++ [o]) message = firstPlural? history message := by
  rw [firstPlural?, mentions_concat_other other, firstPlural?]

section Step

variable (locate : String → Option String → String)

theorem locations_concat_self (history : List Occurrence) (o : Occurrence) :
    locations locate (history ++ [o]) (trim o.text) =
      if locate (trim o.text) o.plural ∈ locations locate history (trim o.text) then
        locations locate history (trim o.text)
      else locations locate history (trim o.text) ++ [locate (trim o.text) o.plural] := by
  rw [locations, mentions_concat_self, List.map_append, List.map_singleton, eraseDups_concat]
  simp only [locations, List.mem_eraseDups]

theorem entryOf_concat_other {o : Occurrence} {message : String} (other : trim o.text ≠ message)
    (history : List Occurrence) :
    entryOf locate (history ++ [o]) message = entryOf locate history message := by
  rw [entryOf, firstPlural?_concat_other other, locations, mentions_concat_other other,
    entryOf, locations]

theorem refer_eq (e : Entry) (reference : String) :
    e.refer reference =
      { e with references :=
          if reference ∈ e.references then e.references else e.references ++ [reference] } := by
  rw [Entry.refer]
  split <;> rfl

/-- The reference of an occurrence goes to the places of its message. -/
theorem refer_entryOf (history : List Occurrence) (o : Occurrence) :
    (entryOf locate history (trim o.text)).refer (locate (trim o.text) o.plural) =
      { entryOf locate history (trim o.text) with
        references := locations locate (history ++ [o]) (trim o.text) } := by
  rw [refer_eq, locations_concat_self, entryOf]

/-- A message that has no entry yet starts out with the entry of an empty history. -/
theorem entryOf_of_not_mem {history : List Occurrence} {message : String} (some : message ≠ "")
    (fresh : message ∉ keys history) :
    entryOf locate history message = { msgid := escape message } := by
  have none : mentions history message = [] := by
    rw [mentions, List.filter_eq_nil_iff]
    intro o member equal
    exact fresh (mem_keys.mpr ⟨some, o, member, by simpa using equal⟩)
  simp [entryOf, firstPlural?, locations, none]

theorem get?_tally (history : List Occurrence) (message : String) :
    (tally locate history).get? message =
      if message ∈ keys history then some (entryOf locate history message) else none := by
  rw [get?, tally]
  split
  · next known => exact List.lookup_graph (entryOf locate history) known
  · next fresh =>
    rw [List.lookup_eq_none_iff]
    rintro ⟨key, e⟩ member
    simp only [List.mem_map, Prod.mk.injEq] at member
    obtain ⟨_, known, rfl, -⟩ := member
    simp only [bne_iff_ne]
    rintro rfl
    exact fresh known

theorem getD_get?_tally {message : String} (some : message ≠ "") (history : List Occurrence) :
    ((tally locate history).get? message).getD { msgid := escape message } =
      entryOf locate history message := by
  rw [get?_tally]
  split
  · rfl
  · next fresh => rw [entryOf_of_not_mem locate some fresh]; rfl

/-- Putting a value under a key of a table changes the table there and nowhere else. A new key
    goes to the end. -/
theorem go_table {message : String} {before after : String → Entry}
    (same : ∀ key, key ≠ message → after key = before key) {keys : List String}
    (nodup : keys.Nodup) :
    put.go message (after message) (keys.map fun key => (key, before key)) =
      (if message ∈ keys then keys else keys ++ [message]).map fun key => (key, after key) := by
  induction keys with
  | nil => simp [put.go]
  | cons key keys inductionHypothesis =>
    rw [List.nodup_cons] at nodup
    rw [List.map_cons, put.go]
    by_cases here : key = message
    · subst here
      have rest : keys.map (fun key => (key, before key)) = keys.map fun key => (key, after key) := by
        apply List.map_congr_left
        intro other member
        have different : other ≠ key := by
          rintro rfl
          exact nodup.1 member
        rw [same other different]
      simp [rest]
    · have swap : message ∈ key :: keys ↔ message ∈ keys := by
        simp [Ne.symm here]
      rw [if_neg here, inductionHypothesis nodup.2]
      simp only [swap]
      split <;> simp [same key here]

theorem tally_concat_of_blank {o : Occurrence} (blank : trim o.text = "")
    (history : List Occurrence) : tally locate (history ++ [o]) = tally locate history := by
  rw [tally, tally, keys_concat_of_blank blank]
  congr 1
  apply List.map_congr_left
  intro message member
  have other : trim o.text ≠ message := by
    rw [blank]
    exact (mem_keys.mp member).1.symm
  rw [entryOf_concat_other locate other]

theorem put_tally {o : Occurrence} (some : trim o.text ≠ "") (history : List Occurrence) :
    (tally locate history).put (trim o.text) (entryOf locate (history ++ [o]) (trim o.text)) =
      tally locate (history ++ [o]) := by
  rw [put, tally, tally, keys_concat some]
  congr 1
  apply go_table _ (nodup_keys history)
  intro key different
  exact entryOf_concat_other locate different.symm history

/-- Folding in one occurrence leads from the registry of a history to that of the longer one. -/
theorem register_tally (history : List Occurrence) (o : Occurrence) :
    (tally locate history).register locate o =
      (tally locate (history ++ [o]), conflict? locate history o) := by
  rw [register, request?, conflict?]
  by_cases blank : trim o.text = ""
  · simp [blank, tally_concat_of_blank]
  · have longer := put_tally locate blank history
    rw [entryOf, firstPlural?_concat_self] at longer
    have read : o.plural.filter (· ≠ "") = givenPlural? o := rfl
    rw [if_neg (by simpa using blank), if_neg blank]
    simp only [getD_get?_tally locate blank, refer_entryOf, read]
    simp only [entryOf]
    -- The entry changes with the plurals that were given before and now.
    cases given : givenPlural? o with
    | none =>
      rw [given, Option.or_none] at longer
      simp only [longer]
    | some text =>
      rw [given] at longer
      cases first : firstPlural? history (trim o.text) with
      | none =>
        rw [first] at longer
        simpa [Entry.pluralize] using longer
      | some existing =>
        rw [first, Option.some_or] at longer
        by_cases agree : existing = text
        · subst agree
          simpa using longer
        · simpa [agree, Ne.symm agree, escape_inj] using longer

end Step

/-! ## Runs -/

section Runs

variable (locate : String → Option String → String)

/-- The conflicts of occurrences that follow a history: one for each that contradicts what stands
    before it. -/
def conflictsFrom (history occurrences : List Occurrence) : List PluralConflict :=
  (List.range occurrences.length).filterMap fun i =>
    occurrences[i]?.bind (conflict? locate (history ++ occurrences.take i))

theorem conflictsFrom_cons (history : List Occurrence) (o : Occurrence)
    (rest : List Occurrence) :
    conflictsFrom locate history (o :: rest) =
      (conflict? locate history o).toList ++ conflictsFrom locate (history ++ [o]) rest := by
  rw [conflictsFrom, List.length_cons, List.range_succ_eq_map, List.filterMap_cons,
    List.filterMap_map, conflictsFrom]
  simp only [Function.comp_def, List.getElem?_cons_succ, List.take_succ_cons, List.append_assoc,
    List.singleton_append]
  simp only [List.getElem?_cons_zero, Option.bind_some, List.take_zero, List.append_nil]
  cases conflict? locate history o <;> rfl

/-- A run leads from the registry of one history to that of the longer one, and reports what
    contradicts the occurrences before it. -/
theorem registerAll_tally (history occurrences : List Occurrence) :
    registerAll locate (tally locate history) occurrences =
      (tally locate (history ++ occurrences), conflictsFrom locate history occurrences) := by
  induction occurrences generalizing history with
  | nil => simp [registerAll, conflictsFrom]
  | cons o rest inductionHypothesis =>
    rw [registerAll, register_tally]
    simp only [inductionHypothesis, conflictsFrom_cons, List.append_assoc, List.singleton_append]

theorem registerAll_empty (occurrences : List Occurrence) :
    registerAll locate empty occurrences =
      (tally locate occurrences, conflictsFrom locate [] occurrences) :=
  registerAll_tally locate [] occurrences

end Runs

/-! ## What holds of every registry -/

/-- Only the entry of the message itself is touched, in whatever registry. -/
theorem filter_put (r : Registry) (message : String) (e : Entry) :
    (r.put message e).entries.filter (·.1 ≠ message) = r.entries.filter (·.1 ≠ message) := by
  obtain ⟨entries⟩ := r
  simp only [put]
  induction entries with
  | nil => simp [put.go]
  | cons head rest inductionHypothesis =>
    obtain ⟨key, old⟩ := head
    rw [put.go]
    by_cases here : key = message
    · simp [here]
    · rw [if_neg here, List.filter_cons, List.filter_cons, inductionHypothesis]

theorem filter_register (locate : String → Option String → String) (r : Registry)
    (o : Occurrence) :
    (r.register locate o).1.entries.filter (·.1 ≠ trim o.text) =
      r.entries.filter (·.1 ≠ trim o.text) := by
  by_cases blank : trim o.text = ""
  · simp [register, request?, blank]
  · have put : ∃ e, (r.register locate o).1 = r.put (trim o.text) e := by
      rw [register, request?, if_neg (by simpa using blank)]
      simp only
      repeat' split
      all_goals exact ⟨_, rfl⟩
    obtain ⟨e, put⟩ := put
    rw [put, filter_put]

/-- The registry of a run that starts with the empty one. -/
def ofHistory (locate : String → Option String → String) (history : List Occurrence) : Registry :=
  (empty.registerAll locate history).1

theorem ofHistory_eq_tally (locate : String → Option String → String)
    (history : List Occurrence) : ofHistory locate history = tally locate history := by
  rw [ofHistory, registerAll_empty]

theorem msgid_entryOf (locate : String → Option String → String) (history : List Occurrence)
    (message : String) : (entryOf locate history message).msgid = escape message := rfl

theorem msgids_tally (locate : String → Option String → String) (history : List Occurrence) :
    (tally locate history).toList.map (·.msgid) = (keys history).map escape := by
  simp [tally, toList, Function.comp_def, msgid_entryOf]

/-- What a registry holds after a run. It has the messages of the history as its keys, each with
    the entry that the occurrences of this message determine. -/
theorem entries_ofHistory (locate : String → Option String → String)
    (history : List Occurrence) :
    (ofHistory locate history).entries =
        (keys history).map (fun message => (message, entryOf locate history message)) ∧
      (∀ message, (ofHistory locate history).get? message =
        if message ∈ keys history then some (entryOf locate history message) else none) ∧
      (ofHistory locate history).toList = (keys history).map (entryOf locate history) ∧
      ((ofHistory locate history).toList.map (·.msgid)).Nodup ∧
      "" ∉ (ofHistory locate history).toList.map (·.msgid) ∧
      ∀ o, ((ofHistory locate history).register locate o).1.entries.filter (·.1 ≠ trim o.text) =
        (ofHistory locate history).entries.filter (·.1 ≠ trim o.text) := by
  rw [ofHistory_eq_tally, msgids_tally]
  refine ⟨rfl, get?_tally locate history, ?_, ?_, ?_, filter_register locate _⟩
  · simp [tally, toList, Function.comp_def]
  · exact (nodup_keys history).map escape_injective
  · intro member
    obtain ⟨message, known, empty⟩ := List.mem_map.mp member
    exact (mem_keys.mp known).1 (Quoting.escape_eq_empty.mp empty)

end Potfile.Registry

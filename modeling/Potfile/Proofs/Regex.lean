import Mathlib.Data.String.Basic
import Potfile.Regex

/-! # Matches of regular expressions

* `Accepts`: what an expression stands for, without any order of preference.
* `mem_results_iff`: the results at a place are exactly what the expression accepts there.
* `pairwise_sequence`, `pairwise_along`: the order of preference, from part to whole.
* `search_eq_none_iff`, `search_eq_some`: a search finds the preferred match of the leftmost
  place that has one.
-/

namespace Potfile

/-! ## Bytes -/

@[simp] theorem utf8Size_nil : utf8Size [] = 0 := rfl

@[simp] theorem utf8Size_cons (c : Char) (cs : List Char) :
    utf8Size (c :: cs) = c.utf8Size + utf8Size cs := rfl

@[simp] theorem utf8Size_append (cs ds : List Char) :
    utf8Size (cs ++ ds) = utf8Size cs + utf8Size ds := by
  induction cs with
  | nil => simp
  | cons c cs inductionHypothesis => simp [inductionHypothesis, Nat.add_assoc]

theorem utf8Size_eq_zero_iff {cs : List Char} : utf8Size cs = 0 ↔ cs = [] := by
  cases cs with
  | nil => simp
  | cons c cs =>
    have := c.utf8Size_pos
    simp only [utf8Size_cons, reduceCtorEq, iff_false]
    omega

theorem utf8Size_eq_utf8Len (cs : List Char) : utf8Size cs = String.utf8Len cs := by
  induction cs with
  | nil => rfl
  | cons c cs inductionHypothesis =>
    rw [utf8Size_cons, String.utf8Len_cons, inductionHypothesis, Nat.add_comm]

theorem utf8Size_toList (s : String) : utf8Size s.toList = s.utf8ByteSize := by
  rw [utf8Size_eq_utf8Len, ← String.utf8ByteSize_ofList, String.ofList_toList]

/-- A text can be cut at a byte in one way only. -/
theorem append_inj_of_utf8Size {front front' back back' : List Char}
    (equal : front ++ back = front' ++ back') (size : utf8Size front = utf8Size front') :
    front = front' ∧ back = back' := by
  induction front generalizing front' with
  | nil =>
    have empty := utf8Size_eq_zero_iff.mp size.symm
    subst empty
    exact ⟨rfl, equal⟩
  | cons c front inductionHypothesis =>
    cases front' with
    | nil => cases utf8Size_eq_zero_iff.mp size
    | cons c' front' =>
      obtain ⟨rfl, rest⟩ := List.cons.inj equal
      obtain ⟨rfl, rfl⟩ := inductionHypothesis rest (by simpa using size)
      exact ⟨rfl, rfl⟩

/-- Of two cuts of a text, the one at the later byte has more in front. -/
theorem exists_append_of_utf8Size_le {front front' back back' : List Char}
    (equal : front ++ back = front' ++ back') (size : utf8Size front ≤ utf8Size front') :
    ∃ between, front' = front ++ between ∧ back = between ++ back' := by
  obtain ⟨between, rfl, rfl⟩ | ⟨between, rfl, rfl⟩ := List.append_eq_append_iff.mp equal
  · exact ⟨between, rfl, rfl⟩
  · have empty : between = [] := by
      rw [utf8Size_append] at size
      exact utf8Size_eq_zero_iff.mp (by omega)
    exact ⟨[], by simp [empty], by simp [empty]⟩

namespace Regex

/-! ## Places -/

/-- From `p`, the text goes on with `word`, and `q` is the place behind it. -/
def Place.Reads (p : Place) (word : List Char) (q : Place) : Prop :=
  p.rest = word ++ q.rest ∧ q.offset = p.offset + utf8Size word

@[simp] theorem Place.reads_nil {p q : Place} : p.Reads [] q ↔ p = q := by
  cases p
  cases q
  simp only [Reads, List.nil_append, utf8Size_nil, Nat.add_zero, Place.mk.injEq]
  constructor <;> rintro ⟨rfl, rfl⟩ <;> exact ⟨rfl, rfl⟩

theorem Place.reads_append {p q : Place} {front back : List Char} :
    p.Reads (front ++ back) q ↔ ∃ m, p.Reads front m ∧ m.Reads back q := by
  constructor
  · rintro ⟨rest, offset⟩
    refine ⟨⟨p.offset + utf8Size front, back ++ q.rest⟩, ⟨by simp [rest], rfl⟩, rfl, ?_⟩
    simp [offset, Nat.add_assoc]
  · rintro ⟨m, ⟨rest, offset⟩, rest', offset'⟩
    exact ⟨by simp [rest, rest'], by simp [offset, offset', Nat.add_assoc]⟩

theorem Place.reads_cons {p q : Place} {c : Char} {word : List Char} :
    p.Reads (c :: word) q ↔
      ∃ rest, p.rest = c :: rest ∧ (Place.mk (p.offset + c.utf8Size) rest).Reads word q := by
  constructor
  · rintro ⟨rest, offset⟩
    exact ⟨word ++ q.rest, rest, rfl, by simp [offset, Nat.add_assoc]⟩
  · rintro ⟨rest, front, rfl, offset⟩
    exact ⟨front, by simpa [Nat.add_assoc] using offset⟩

theorem Place.after?_eq_some_iff {word : List Char} {p q : Place} :
    p.after? word = some q ↔ p.Reads word q := by
  induction word generalizing p with
  | nil => simp [after?]
  | cons w word inductionHypothesis =>
    obtain ⟨offset, rest⟩ := p
    rw [reads_cons]
    cases rest with
    | nil => simp [after?]
    | cons c rest =>
      rw [after?]
      split
      · next same => simp [same, inductionHypothesis]
      · next other => simp [Ne.symm other]

theorem Place.mem_along_iff {holds : Char → Bool} {p q : Place} :
    q ∈ p.along holds ↔ ∃ word, (∀ c ∈ word, holds c) ∧ p.Reads word q := by
  obtain ⟨offset, rest⟩ := p
  rw [along]
  induction rest generalizing offset with
  | nil =>
    rw [stretch, List.mem_singleton]
    constructor
    · rintro rfl
      exact ⟨[], by simp, by simp⟩
    · rintro ⟨word, _, reads⟩
      have empty := List.append_eq_nil_iff.mp reads.1.symm
      rw [empty.1] at reads
      exact (reads_nil.mp reads).symm
  | cons c rest inductionHypothesis =>
    rw [stretch, List.mem_cons]
    constructor
    · rintro (rfl | further)
      · exact ⟨[], by simp, by simp⟩
      · split at further
        · next kind =>
          obtain ⟨word, all, reads⟩ := (inductionHypothesis _).mp further
          exact ⟨c :: word, by simpa [kind] using all, reads_cons.mpr ⟨rest, rfl, reads⟩⟩
        · contradiction
    · rintro ⟨word, all, reads⟩
      cases word with
      | nil => exact .inl (reads_nil.mp reads).symm
      | cons c' word =>
        obtain ⟨rest', front, reads⟩ := reads_cons.mp reads
        obtain ⟨rfl, rfl⟩ := List.cons.inj front
        rw [if_pos (all c (by simp))]
        exact .inr ((inductionHypothesis _).mpr ⟨word, fun d member => all d (by simp [member]), reads⟩)

/-- Of two places that are reached over characters of one kind, the nearer one stands in front
    of a character of that kind. -/
theorem Place.pairwise_along (holds : Char → Bool) (p : Place) :
    (p.along holds).Pairwise fun q q' =>
      q.offset < q'.offset ∧ ∃ c rest, q.rest = c :: rest ∧ holds c := by
  obtain ⟨offset, rest⟩ := p
  rw [along]
  induction rest generalizing offset with
  | nil => exact List.pairwise_singleton _ _
  | cons c rest inductionHypothesis =>
    rw [stretch]
    split
    · next kind =>
      refine List.pairwise_cons.mpr ⟨fun q' member => ?_, inductionHypothesis _⟩
      have reached : q' ∈ (Place.mk (offset + c.utf8Size) rest).along holds := member
      obtain ⟨word, _, _, further⟩ := mem_along_iff.mp reached
      have positive := c.utf8Size_pos
      simp only at further
      exact ⟨by simp only; omega, c, rest, rfl, kind⟩
    · exact List.pairwise_singleton _ _

/-! ## Acceptance -/

/-- The expression can be matched from `p` to `q`, with these groups. -/
def Accepts : Regex → (p q : Place) → List Group → Prop
  | start, p, q, groups => p.offset = 0 ∧ p = q ∧ groups = []
  | literal word, p, q, groups => p.Reads word q ∧ groups = []
  | greedy holds, p, q, groups | lazy holds, p, q, groups =>
    (∃ word, (∀ c ∈ word, holds c) ∧ p.Reads word q) ∧ groups = []
  | group number r, p, q, groups => ∃ inner, r.Accepts p q inner ∧ groups = ⟨number, p, q⟩ :: inner
  | sequence r s, p, q, groups =>
    ∃ m front back, r.Accepts p m front ∧ s.Accepts m q back ∧ groups = front ++ back
  | either r s, p, q, groups => r.Accepts p q groups ∨ s.Accepts p q groups

theorem accepts_literal_sequence_iff {word : List Char} {r : Regex} {p q : Place}
    {groups : List Group} :
    (sequence (literal word) r).Accepts p q groups ↔ ∃ m, p.Reads word m ∧ r.Accepts m q groups := by
  rw [Accepts]
  constructor
  · rintro ⟨m, _, back, ⟨reads, rfl⟩, accepted, rfl⟩
    exact ⟨m, reads, accepted⟩
  · rintro ⟨m, reads, accepted⟩
    exact ⟨m, [], groups, ⟨reads, rfl⟩, accepted, rfl⟩

theorem accepts_greedy_sequence_iff {holds : Char → Bool} {r : Regex} {p q : Place}
    {groups : List Group} :
    (sequence (greedy holds) r).Accepts p q groups ↔
      ∃ word m, (∀ c ∈ word, holds c) ∧ p.Reads word m ∧ r.Accepts m q groups := by
  rw [Accepts]
  constructor
  · rintro ⟨m, _, back, ⟨⟨word, kind, reads⟩, rfl⟩, accepted, rfl⟩
    exact ⟨word, m, kind, reads, accepted⟩
  · rintro ⟨word, m, kind, reads, accepted⟩
    exact ⟨m, [], groups, ⟨⟨word, kind, reads⟩, rfl⟩, accepted, rfl⟩

theorem mem_map_bare {p q : Place} {groups : List Group} {stops : List Place} :
    Match.mk p q groups ∈ stops.map (Match.mk p · []) ↔ q ∈ stops ∧ groups = [] := by
  simp only [List.mem_map, Match.mk.injEq, true_and]
  constructor
  · rintro ⟨_, member, rfl, rfl⟩
    exact ⟨member, rfl⟩
  · rintro ⟨member, rfl⟩
    exact ⟨q, member, rfl, rfl⟩

/-- The results are exactly what an expression accepts: nothing else is found, and no way to
    match is overlooked. -/
theorem mem_results_iff {r : Regex} {p q : Place} {groups : List Group} :
    ⟨p, q, groups⟩ ∈ r.results p ↔ r.Accepts p q groups := by
  induction r generalizing p q groups with
  | start =>
    rw [results, Accepts]
    split
    · next first => simp [first, eq_comm]
    · next inside => simp [inside]
  | literal word =>
    rw [results, Accepts, mem_map_bare, Option.mem_toList, Place.after?_eq_some_iff]
  | greedy holds =>
    rw [results, Accepts, mem_map_bare, List.mem_reverse, Place.mem_along_iff]
  | lazy holds =>
    rw [results, Accepts, mem_map_bare, Place.mem_along_iff]
  | group number r inductionHypothesis =>
    rw [results, Accepts, List.mem_map]
    constructor
    · rintro ⟨⟨start, stop, inner⟩, member, equal⟩
      have here : start = p := start_of_mem_results member
      cases equal
      exact ⟨inner, inductionHypothesis.mp member, rfl⟩
    · rintro ⟨inner, accepted, rfl⟩
      exact ⟨⟨p, q, inner⟩, inductionHypothesis.mpr accepted, rfl⟩
  | sequence r s front back =>
    rw [results, Accepts, List.mem_flatMap]
    constructor
    · rintro ⟨⟨start, m, groups⟩, member, within⟩
      have here : start = p := start_of_mem_results member
      subst here
      obtain ⟨⟨start', stop, groups'⟩, member', equal⟩ := List.mem_map.mp within
      have there : start' = m := start_of_mem_results member'
      subst there
      cases equal
      exact ⟨start', groups, groups', front.mp member, back.mp member', rfl⟩
    · rintro ⟨m, groups, groups', accepted, accepted', rfl⟩
      refine ⟨⟨p, m, groups⟩, front.mpr accepted, List.mem_map.mpr ?_⟩
      exact ⟨⟨m, q, groups'⟩, back.mpr accepted', rfl⟩
  | either r s left right =>
    rw [results, Accepts, List.mem_append, left, right]

theorem accepts_of_mem_results {r : Regex} {p : Place} {m : Match} (member : m ∈ r.results p) :
    r.Accepts p m.stop m.groups := by
  obtain ⟨start, stop, groups⟩ := m
  obtain rfl : start = p := start_of_mem_results member
  exact mem_results_iff.mp member

/-! ## Preference -/

theorem pairwise_sequence {r s : Regex} {p : Place} {R : Match → Match → Prop}
    (same : ∀ m ∈ r.results p, (s.results m.stop).Pairwise fun a b =>
      R ⟨p, a.stop, m.groups ++ a.groups⟩ ⟨p, b.stop, m.groups ++ b.groups⟩)
    (other : (r.results p).Pairwise fun m m' => ∀ a ∈ s.results m.stop, ∀ b ∈ s.results m'.stop,
      R ⟨p, a.stop, m.groups ++ a.groups⟩ ⟨p, b.stop, m'.groups ++ b.groups⟩) :
    ((sequence r s).results p).Pairwise R := by
  rw [results, List.pairwise_flatMap]
  refine ⟨fun m member => List.pairwise_map.mpr (same m member), other.imp fun apart => ?_⟩
  simp only [List.mem_map, forall_exists_index, and_imp, forall_apply_eq_imp_iff₂]
  exact apart

/-- A word is matched in one way at most. -/
theorem pairwise_literal (word : List Char) (p : Place) (R : Match → Match → Prop) :
    ((literal word).results p).Pairwise R := by
  rw [results]
  cases p.after? word with
  | none => exact List.Pairwise.nil
  | some q => exact List.pairwise_singleton _ _

theorem pairwise_start (p : Place) (R : Match → Match → Prop) : (start.results p).Pairwise R := by
  rw [results]
  split
  · exact List.pairwise_singleton _ _
  · exact List.Pairwise.nil

theorem pairwise_sequence_of_unique {r s : Regex} {p : Place} {R : Match → Match → Prop}
    (unique : ∀ R, (r.results p).Pairwise R) (bare : ∀ m ∈ r.results p, m.groups = [])
    (same : ∀ q, (s.results q).Pairwise fun a b => R ⟨p, a.stop, a.groups⟩ ⟨p, b.stop, b.groups⟩) :
    ((sequence r s).results p).Pairwise R := by
  refine pairwise_sequence (fun m member => ?_) (unique _)
  simpa [bare m member] using same m.stop

theorem pairwise_literal_sequence {word : List Char} {s : Regex} {p : Place}
    {R : Match → Match → Prop}
    (same : ∀ q, (s.results q).Pairwise fun a b => R ⟨p, a.stop, a.groups⟩ ⟨p, b.stop, b.groups⟩) :
    ((sequence (literal word) s).results p).Pairwise R :=
  pairwise_sequence_of_unique (pairwise_literal word p)
    (fun _ member => (accepts_of_mem_results member).2) same

/-- An expression that matches nowhere in front of a character of one kind. -/
def Avoids (holds : Char → Bool) (r : Regex) : Prop :=
  ∀ p c rest, p.rest = c :: rest → holds c → r.results p = []

theorem avoids_literal {holds : Char → Bool} {c : Char} {word : List Char}
    (other : holds c = false) : (literal (c :: word)).Avoids holds := by
  rintro ⟨offset, _⟩ d rest rfl kind
  have apart : c ≠ d := by rintro rfl; simp [other] at kind
  simp [results, Place.after?, apart]

theorem Avoids.sequence {holds : Char → Bool} {r : Regex} (avoids : r.Avoids holds) (s : Regex) :
    (sequence r s).Avoids holds := by
  intro p c rest front kind
  rw [results, avoids p c rest front kind, List.flatMap_nil]

theorem Avoids.either {holds : Char → Bool} {r s : Regex} (left : r.Avoids holds)
    (right : s.Avoids holds) : (either r s).Avoids holds := by
  intro p c rest front kind
  rw [results, left p c rest front kind, right p c rest front kind, List.append_nil]

theorem pairwise_greedy_sequence {holds : Char → Bool} {s : Regex} {p : Place}
    {R : Match → Match → Prop} (avoids : s.Avoids holds)
    (same : ∀ q, (s.results q).Pairwise fun a b => R ⟨p, a.stop, a.groups⟩ ⟨p, b.stop, b.groups⟩) :
    ((sequence (greedy holds) s).results p).Pairwise R := by
  apply pairwise_sequence
  · intro m member
    obtain ⟨q, _, rfl⟩ := List.mem_map.mp member
    simpa using same q
  · -- The nearer of two places stands in front of such a character, where `s` matches nowhere.
    rw [results, List.pairwise_map, List.pairwise_reverse]
    refine (Place.pairwise_along holds p).imp ?_
    rintro q' q ⟨_, c, rest, front, kind⟩ a _ b member
    rw [avoids q' c rest front kind] at member
    contradiction

/-! ## Search -/

/-- The places of a text. -/
def Place.In (text : String) (p : Place) : Prop :=
  ∃ before, text.toList = before ++ p.rest ∧ p.offset = utf8Size before

theorem Place.In.offset_le {text : String} {p : Place} (inText : p.In text) :
    p.offset ≤ text.utf8ByteSize := by
  obtain ⟨before, split, offset⟩ := inText
  rw [← utf8Size_toList, split, utf8Size_append, offset]
  exact Nat.le_add_right _ _

theorem Place.In.of_reads {text : String} {p q : Place} {word : List Char} (inText : p.In text)
    (reads : p.Reads word q) : q.In text := by
  obtain ⟨before, split, offset⟩ := inText
  exact ⟨before ++ word, by simp [split, reads.1], by simp [reads.2, offset]⟩

theorem Place.In.eq_of_offset {text : String} {p q : Place} (inText : p.In text)
    (inText' : q.In text) (same : p.offset = q.offset) : p = q := by
  obtain ⟨before, split, offset⟩ := inText
  obtain ⟨before', split', offset'⟩ := inText'
  obtain ⟨rfl, rest⟩ := append_inj_of_utf8Size (split.symm.trans split') (by omega)
  cases p
  cases q
  exact congrArg₂ Place.mk same rest

theorem matchAt?_eq_none_iff {r : Regex} {cursor : Nat} {p : Place} :
    r.matchAt? cursor p = none ↔ (cursor ≤ p.offset → r.results p = []) := by
  by_cases reached : cursor ≤ p.offset <;> simp [matchAt?, reached]

theorem matchAt?_eq_some_iff {r : Regex} {cursor : Nat} {p : Place} {m : Match} :
    r.matchAt? cursor p = some m ↔ cursor ≤ p.offset ∧ (r.results p).head? = some m := by
  by_cases reached : cursor ≤ p.offset <;> simp [matchAt?, reached]

theorem searchFrom_eq_findSome? (r : Regex) (cursor offset : Nat) (rest : List Char) :
    r.searchFrom cursor offset rest =
      ((Place.mk offset rest).along fun _ => true).findSome? (r.matchAt? cursor) := by
  rw [Place.along]
  induction rest generalizing offset with
  | nil =>
    rw [searchFrom, stretch, List.findSome?_singleton]
  | cons c rest inductionHypothesis =>
    rw [searchFrom, stretch, if_pos rfl, List.findSome?_cons, inductionHypothesis]
    cases r.matchAt? cursor ⟨offset, c :: rest⟩ <;> rfl

theorem Place.mem_along_text_iff {text : String} {p : Place} :
    p ∈ (Place.mk 0 text.toList).along (fun _ => true) ↔ p.In text := by
  simp [mem_along_iff, In, Reads]

theorem search_eq_none_iff {r : Regex} {text : String} {cursor : Nat} :
    r.search text cursor = none ↔ ∀ p, p.In text → cursor ≤ p.offset → r.results p = [] := by
  simp only [search, searchFrom_eq_findSome?, List.findSome?_eq_none_iff, Place.mem_along_text_iff,
    matchAt?_eq_none_iff]

/-- What is found is the preferred match of a place, and no place further left has a match. -/
theorem search_eq_some {r : Regex} {text : String} {cursor : Nat} {m : Match}
    (found : r.search text cursor = some m) :
    m.start.In text ∧ cursor ≤ m.start.offset ∧ (r.results m.start).head? = some m ∧
      ∀ p, p.In text → cursor ≤ p.offset → p.offset < m.start.offset → r.results p = [] := by
  rw [search, searchFrom_eq_findSome?, List.findSome?_eq_some_iff] at found
  obtain ⟨nearer, p, further, split, here, none⟩ := found
  obtain ⟨reached, first⟩ := matchAt?_eq_some_iff.mp here
  have start : m.start = p := start_of_mem_results (List.mem_of_head? first)
  have inText : p.In text := Place.mem_along_text_iff.mp (by simp [split])
  have order := Place.pairwise_along (fun _ => true) (Place.mk 0 text.toList)
  rw [split, List.pairwise_append, List.pairwise_cons] at order
  rw [start]
  refine ⟨inText, reached, first, fun q inText' reached' before => ?_⟩
  have member := Place.mem_along_text_iff.mpr inText'
  rw [split, List.mem_append, List.mem_cons] at member
  obtain front | rfl | back := member
  · exact matchAt?_eq_none_iff.mp (none q front) reached'
  · exact absurd before (Nat.lt_irrefl _)
  · -- The places behind the one that was found are not further left.
    exact absurd (order.2.1.1 q back).1 (Nat.lt_asymm before)

end Regex

end Potfile

/-! # Regular expressions

Only what interpolations are searched with. There is no compiled form: an expression is matched
by trying all ways, in the order in which backtracking would come upon them.

* `Regex.Place`: a position in a text. Positions are counted in bytes.
* `Regex.results`: all matches of an expression at a place, the preferred one first.
* `Regex.search`: the preferred match at the leftmost place that has one.
-/

namespace Potfile

/-- The number of bytes that characters take in UTF-8. -/
def utf8Size (cs : List Char) : Nat := cs.foldr (fun c n => c.utf8Size + n) 0

inductive Regex where
  /-- Nothing, at the start of a text only. -/
  | start
  | literal (word : List Char)
  /-- Any number of characters of one kind, rather more of them than fewer. -/
  | greedy (holds : Char → Bool)
  /-- Any number of characters of one kind, rather fewer of them than more. -/
  | lazy (holds : Char → Bool)
  /-- A group whose text can be asked for by its number. -/
  | group (number : Nat) (r : Regex)
  | sequence (r s : Regex)
  /-- One of two expressions, rather the first one. -/
  | either (r s : Regex)

namespace Regex

/-! ## Places -/

/-- A position in a text: the number of bytes in front of it, and the characters from it on. -/
structure Place where
  offset : Nat
  rest : List Char
deriving DecidableEq, Repr, Inhabited

/-- The place behind `word`, if that word follows. -/
def Place.after? : (word : List Char) → Place → Option Place
  | [], p => some p
  | _ :: _, ⟨_, []⟩ => none
  | w :: word, ⟨offset, c :: rest⟩ =>
    if w = c then Place.after? word ⟨offset + c.utf8Size, rest⟩ else none

/-- The places that are reached over characters of one kind, the nearest one first. -/
def stretch (holds : Char → Bool) (offset : Nat) : (rest : List Char) → List Place
  | [] => [⟨offset, []⟩]
  | c :: rest =>
    ⟨offset, c :: rest⟩ :: if holds c then stretch holds (offset + c.utf8Size) rest else []

/-- The places that can be reached from `p` over characters of one kind, the nearest one first. -/
def Place.along (holds : Char → Bool) (p : Place) : List Place := stretch holds p.offset p.rest

/-! ## Matches -/

/-- What a group of an expression stands for. -/
structure Group where
  number : Nat
  start : Place
  stop : Place
deriving DecidableEq, Repr

def Group.text (g : Group) : List Char :=
  g.start.rest.take (g.start.rest.length - g.stop.rest.length)

/-- A match, with the groups that take part in it. -/
structure Match where
  start : Place
  stop : Place
  groups : List Group := []
deriving DecidableEq, Repr

/-- The group of a number, if it takes part in the match. -/
def Match.group? (m : Match) (number : Nat) : Option Group :=
  m.groups.find? (·.number = number)

/-- All matches at a place, the preferred one first. -/
def results : Regex → Place → List Match
  | start, p => if p.offset = 0 then [⟨p, p, []⟩] else []
  | literal word, p => (p.after? word).toList.map (⟨p, ·, []⟩)
  | greedy holds, p => (p.along holds).reverse.map (⟨p, ·, []⟩)
  | lazy holds, p => (p.along holds).map (⟨p, ·, []⟩)
  | group number r, p =>
    (r.results p).map fun m => { m with groups := ⟨number, m.start, m.stop⟩ :: m.groups }
  | sequence r s, p =>
    (r.results p).flatMap fun m =>
      (s.results m.stop).map fun m' => ⟨p, m'.stop, m.groups ++ m'.groups⟩
  | either r s, p => r.results p ++ s.results p

theorem start_of_mem_results {r : Regex} {p : Place} {m : Match} (member : m ∈ r.results p) :
    m.start = p := by
  induction r generalizing p m with
  | start =>
    simp only [results] at member
    split at member <;> simp_all
  | literal | greedy | lazy =>
    obtain ⟨q, _, rfl⟩ := List.mem_map.mp member
    rfl
  | group number r inductionHypothesis =>
    obtain ⟨inner, within, rfl⟩ := List.mem_map.mp member
    exact (inductionHypothesis within : inner.start = p)
  | sequence r s =>
    obtain ⟨front, _, within⟩ := List.mem_flatMap.mp member
    obtain ⟨back, _, rfl⟩ := List.mem_map.mp within
    rfl
  | either r s left right => exact (List.mem_append.mp member).elim left right

/-! ## Search -/

/-- The preferred match at a place, unless the place is in front of byte `cursor`. -/
def matchAt? (r : Regex) (cursor : Nat) (p : Place) : Option Match :=
  if cursor ≤ p.offset then (r.results p).head? else none

/-- The preferred match at the leftmost place from `offset` on that has one. -/
def searchFrom (r : Regex) (cursor offset : Nat) : (rest : List Char) → Option Match
  | [] => r.matchAt? cursor ⟨offset, []⟩
  | c :: rest =>
    match r.matchAt? cursor ⟨offset, c :: rest⟩ with
    | some m => some m
    | none => searchFrom r cursor (offset + c.utf8Size) rest

/-- The first match in a text that does not start in front of byte `cursor`. -/
def search (r : Regex) (text : String) (cursor : Nat) : Option Match :=
  r.searchFrom cursor 0 text.toList

theorem le_start_of_matchAt? {r : Regex} {cursor : Nat} {p : Place} {m : Match}
    (found : r.matchAt? cursor p = some m) : cursor ≤ m.start.offset := by
  simp only [matchAt?] at found
  split at found
  · next reached => rwa [start_of_mem_results (List.mem_of_head? found)]
  · contradiction

theorem le_start_of_searchFrom {r : Regex} {cursor offset : Nat} {rest : List Char} {m : Match}
    (found : r.searchFrom cursor offset rest = some m) : cursor ≤ m.start.offset := by
  induction rest generalizing offset with
  | nil => exact le_start_of_matchAt? found
  | cons c rest inductionHypothesis =>
    simp only [searchFrom] at found
    split at found
    · next here => exact le_start_of_matchAt? (here.trans found)
    · exact inductionHypothesis found

/-- A match does not start in front of the byte at which the search starts. -/
theorem le_start_of_search {r : Regex} {text : String} {cursor : Nat} {m : Match}
    (found : r.search text cursor = some m) : cursor ≤ m.start.offset :=
  le_start_of_searchFrom found

end Regex

end Potfile

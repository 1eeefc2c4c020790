import Potfile.Path
import Mathlib.Data.List.TakeWhile

/-! # Paths and their components

* `isName_of_mem_names`: what the names in a path look like.
* `components_ofNames`: a path that is written from such names has these as its components.
* `components_join`: the components below a base follow those of the base.
* `walk`: where components lead; names lead further down (`walk_names`).
-/

namespace Potfile.Path

/-! ## Pieces -/

theorem pieces_eq_splitOn (cs : List Char) : pieces cs = cs.splitOn '/' := by
  induction cs with
  | nil => rfl
  | cons c cs inductionHypothesis =>
    rw [pieces, List.splitOn_cons_eq_if_modifyHead, inductionHypothesis]
    simp only [beq_iff_eq]
    split
    · rfl
    · have some := List.splitOn_ne_nil '/' cs
      cases split : cs.splitOn '/' with
      | nil => contradiction
      | cons piece rest => rfl

theorem pieces_ne_nil (cs : List Char) : pieces cs ≠ [] := by
  rw [pieces_eq_splitOn]
  exact List.splitOn_ne_nil '/' cs

theorem pieces_append (front back : List Char) :
    pieces (front ++ '/' :: back) = pieces front ++ pieces back := by
  simp only [pieces_eq_splitOn]
  exact List.splitOn_append_cons_self front back

theorem pieces_intercalate {ps : List (List Char)} (some : ps ≠ []) (whole : ∀ p ∈ ps, '/' ∉ p) :
    pieces (['/'].intercalate ps) = ps := by
  rw [pieces_eq_splitOn]
  exact List.splitOn_intercalate '/' whole some

theorem slash_not_mem_piece {cs piece : List Char} (member : piece ∈ pieces cs) : '/' ∉ piece := by
  induction cs generalizing piece with
  | nil =>
    rw [pieces, List.mem_singleton] at member
    simp [member]
  | cons c cs inductionHypothesis =>
    rw [pieces] at member
    split at member
    · rw [List.mem_cons] at member
      obtain rfl | member := member
      · simp
      · exact inductionHypothesis member
    · next other =>
      cases rest : pieces cs with
      | nil => exact absurd rest (pieces_ne_nil cs)
      | cons first others =>
        rw [rest] at member inductionHypothesis
        simp only [List.mem_cons] at member inductionHypothesis
        obtain rfl | member := member
        · have apart := inductionHypothesis (.inl rfl)
          simp [Ne.symm other, apart]
        · exact inductionHypothesis (.inr member)

/-! ## Names -/

/-- What a component that is a name looks like. -/
structure IsName (text : String) : Prop where
  whole : '/' ∉ text.toList
  some : text ≠ ""
  notCurrent : text ≠ "."
  notParent : text ≠ ".."

theorem component?_of_isName {text : String} (isName : IsName text) :
    component? text.toList = some (.name text) := by
  have notVoid : ¬(text.toList = [] ∨ text.toList = ['.']) := by
    rintro (empty | current)
    · exact isName.some (String.toList_inj.mp empty)
    · exact isName.notCurrent (String.toList_inj.mp current)
  have notParent : text.toList ≠ ['.', '.'] := fun parent =>
    isName.notParent (String.toList_inj.mp parent)
  rw [component?, if_neg notVoid, if_neg notParent, String.ofList_toList]

theorem filterMap_component? {names : List String} (isName : ∀ name ∈ names, IsName name) :
    (names.map String.toList).filterMap component? = names.map .name := by
  induction names with
  | nil => rfl
  | cons name names inductionHypothesis =>
    rw [List.forall_mem_cons] at isName
    rw [List.map_cons, List.filterMap_cons_some (component?_of_isName isName.1),
      inductionHypothesis isName.2, List.map_cons]

theorem isName_of_component? {piece : List Char} {text : String} (whole : '/' ∉ piece)
    (named : component? piece = some (.name text)) : IsName text := by
  rw [component?] at named
  split at named
  · contradiction
  · next notVoid =>
    split at named
    · cases named
    · next notParent =>
      cases named
      rw [not_or] at notVoid
      refine ⟨by simpa using whole, ?_, ?_, ?_⟩
      · intro empty
        exact notVoid.1 (by simpa using congrArg String.toList empty)
      · intro current
        exact notVoid.2 (by simpa using congrArg String.toList current)
      · intro parent
        exact notParent (by simpa using congrArg String.toList parent)

/-- A name among the components of a path is one of its pieces: what is led in is none. -/
theorem exists_piece_of_name {path text : String} (within : .name text ∈ components path) :
    ∃ piece ∈ pieces path.toList, component? piece = some (.name text) := by
  rw [components, List.mem_append] at within
  obtain lead | piece := within
  · split at lead
    · simp at lead
    · split at lead <;> simp at lead
  · exact List.mem_filterMap.mp piece

theorem isName_of_mem_names {path text : String} (member : text ∈ names path) : IsName text := by
  obtain ⟨component, within, named⟩ := List.mem_filterMap.mp member
  cases component with
  | root | current | parent => cases named
  | name other =>
    obtain rfl : other = text := by simpa using named
    obtain ⟨piece, member, named⟩ := exists_piece_of_name within
    exact isName_of_component? (slash_not_mem_piece member) named

/-! ## Parents -/

theorem isVoid_eq_false {piece : List Char} {text : String}
    (named : component? piece = some (.name text)) : isVoid piece = false := by
  rw [component?] at named
  split at named
  · contradiction
  · next notVoid => simpa [isVoid] using notVoid

theorem exists_dropWhile_eq_cons {ps : List (List Char)} {piece : List Char} (member : piece ∈ ps)
    (notVoid : isVoid piece = false) :
    ∃ last rest, ps.reverse.dropWhile isVoid = last :: rest := by
  apply List.exists_cons_of_ne_nil
  intro none
  have void := List.dropWhile_eq_nil_iff.mp none piece (List.mem_reverse.mpr member)
  rw [notVoid] at void
  contradiction

/-- A path that is absolute or starts with `.` has a void piece in front. -/
theorem take_one_of_led {path : String}
    (led : isAbsolute path = true ∨ (pieces path.toList).head? = some ['.']) :
    ∃ front, (pieces path.toList).take 1 = [front] ∧ isVoid front = true := by
  obtain absolute | current := led
  · obtain ⟨rest, equal⟩ : ∃ rest, path.toList = '/' :: rest := by
      rw [isAbsolute, beq_iff_eq] at absolute
      exact List.head?_eq_some_iff.mp absolute
    exact ⟨[], by rw [equal, pieces, if_pos rfl, List.take_succ_cons, List.take_zero], rfl⟩
  · obtain ⟨rest, equal⟩ := List.head?_eq_some_iff.mp current
    exact ⟨['.'], by rw [equal, List.take_succ_cons, List.take_zero], rfl⟩

/-- A path with a name in it has a parent. -/
theorem exists_parent?_of_name {path text : String} (within : .name text ∈ components path) :
    ∃ parent, parent? path = some parent := by
  obtain ⟨piece, member, named⟩ := exists_piece_of_name within
  have notVoid := isVoid_eq_false named
  -- What is set aside at the start of the path is void, so that the name is in the rest.
  have behind : piece ∈ (pieces path.toList).drop
      (if isAbsolute path = true ∨ (pieces path.toList).head? = some ['.'] then
        (pieces path.toList).take 1 else []).length := by
    split
    · next led =>
      obtain ⟨front, taken, void⟩ := take_one_of_led led
      rw [← List.take_append_drop 1 (pieces path.toList), taken, List.mem_append,
        List.mem_singleton] at member
      rw [taken]
      exact member.resolve_left fun same => by simp [same, void] at notVoid
    · exact member
  obtain ⟨last, rest, body⟩ := exists_dropWhile_eq_cons behind notVoid
  unfold parent?
  simp only [body]
  split
  · split <;> exact ⟨_, rfl⟩
  · exact ⟨_, rfl⟩

/-! ## Composition -/

/-- What stands in front of the components that the pieces of a path make. -/
def lead (cs : List Char) : List Component :=
  if cs.head? = some '/' then [.root]
  else if (pieces cs).head? = some ['.'] then [.current] else []

theorem components_eq (path : String) :
    components path = lead path.toList ++ (pieces path.toList).filterMap component? := by
  simp only [components, lead, isAbsolute, beq_iff_eq]

theorem lead_append {front : List Char} (some : front ≠ []) (back : List Char) :
    lead (front ++ '/' :: back) = lead front := by
  obtain ⟨c, front, rfl⟩ := List.exists_cons_of_ne_nil some
  obtain ⟨piece, rest, pieces⟩ := List.exists_cons_of_ne_nil (pieces_ne_nil (c :: front))
  rw [lead, lead, pieces_append, pieces]
  rfl

/-- A path of names, written with separators between them. -/
theorem components_ofNames {path : String} {names : List String} (some : names ≠ [])
    (isName : ∀ name ∈ names, IsName name)
    (written : path.toList = ['/'].intercalate (names.map String.toList)) :
    isAbsolute path = false ∧ lead path.toList = [] ∧ components path = names.map .name := by
  have read : pieces path.toList = names.map String.toList := by
    rw [written]
    refine pieces_intercalate (by simpa using some) ?_
    simp only [List.forall_mem_map]
    exact fun name member => (isName name member).whole
  -- The first name decides that the path starts with neither a separator nor `.`.
  obtain ⟨first, rest, rfl⟩ := List.exists_cons_of_ne_nil some
  have firstName := isName first List.mem_cons_self
  have relative : path.toList.head? ≠ .some '/' := by
    intro absolute
    obtain ⟨others, equal⟩ := List.head?_eq_some_iff.mp absolute
    rw [equal, pieces, if_pos rfl, List.map_cons] at read
    exact firstName.some (String.toList_inj.mp (List.cons.inj read).1.symm)
  have unled : lead path.toList = [] := by
    have notCurrent : first.toList ≠ ['.'] := fun current =>
      firstName.notCurrent (String.toList_inj.mp current)
    rw [lead, if_neg relative, read, List.map_cons, List.head?_cons,
      if_neg (by simpa using notCurrent)]
  refine ⟨by simpa [isAbsolute] using relative, unled, ?_⟩
  rw [components_eq, unled, read, List.nil_append, filterMap_component? isName]

/-- The components of a relative path follow those of the base that it is joined to. -/
theorem components_join {base path : String} (relative : isAbsolute path = false)
    (unled : lead path.toList = []) :
    components (join base path) = components base ++ components path := by
  rw [join, if_neg (by simp [relative])]
  split
  · next ended =>
    obtain rfl | closed := ended
    · simp [components_eq, lead, pieces, component?]
    · -- The base ends with a separator, behind which it has an empty piece.
      obtain ⟨front, equal⟩ := List.getLast?_eq_some_iff.mp closed
      have written : (base ++ path).toList = front ++ '/' :: path.toList := by simp [equal]
      have empty : pieces ([] : List Char) = [[]] := rfl
      have led : lead (front ++ '/' :: path.toList) = lead (front ++ ['/']) := by
        cases front with
        | nil => rfl
        | cons c front => rw [lead_append (by simp), lead_append (by simp)]
      simp only [components_eq, written, equal, pieces_append, led, unled, empty]
      simp [component?]
  · next unended =>
    rw [not_or] at unended
    have some : base.toList ≠ [] := fun empty => unended.1 (String.toList_inj.mp empty)
    have written : (base ++ "/" ++ path).toList = base.toList ++ '/' :: path.toList := by simp
    rw [components_eq, written, lead_append some, pieces_append, List.filterMap_append,
      components_eq base, components_eq path, unled]
    simp

/-! ## Ways -/

/-- Where a component leads from a place. A place is given by the names that lead to it from the root,
    which has none above it. -/
def step (place : List String) : Component → List String
  | .root => []
  | .current => place
  | .parent => place.dropLast
  | .name text => place ++ [text]

/-- Where components lead from a place, one after another. -/
def walk (place : List String) (way : List Component) : List String := way.foldl step place

theorem walk_append (place : List String) (way rest : List Component) :
    walk place (way ++ rest) = walk (walk place way) rest := List.foldl_append

theorem walk_names (place names : List String) :
    walk place (names.map .name) = place ++ names := by
  induction names generalizing place with
  | nil => exact (List.append_nil place).symm
  | cons name names inductionHypothesis =>
    have further := inductionHypothesis (place ++ [name])
    rwa [List.append_assoc, List.singleton_append] at further

end Potfile.Path

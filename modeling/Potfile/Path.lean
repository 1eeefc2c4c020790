/-! # Paths

A path is the text that names a file. Its meaning is its list of components: empty pieces
between separators and pieces `.` behind the first one do not count.

* `components`: the meaning of a path, and `Path.same` and `Path.compare` on it.
* `fileName?`, `extension?`, `parent`, `join`: the parts of a path and their composition.
-/

namespace Potfile

inductive Component where
  | root
  | current
  | parent
  | name (text : String)
deriving DecidableEq, Repr, Inhabited

/-- The place of a component's kind in the order of components. -/
def Component.rank : Component → Nat
  | .root => 0
  | .current => 1
  | .parent => 2
  | .name _ => 3

/-- The root comes before `.`, this before `..`, and names come last, by their characters. -/
def Component.compare : Component → Component → Ordering
  | .name a, .name b => Ord.compare a b
  | a, b => Ord.compare a.rank b.rank

namespace Path

/-- The pieces of a path between its separators. -/
def pieces : List Char → List (List Char)
  | [] => [[]]
  | c :: cs =>
    if c = '/' then [] :: pieces cs
    else match pieces cs with
      | [] => [[c]]
      | piece :: rest => (c :: piece) :: rest

def isAbsolute (path : String) : Bool := path.toList.head? == some '/'

/-- The component of a piece behind the first one. -/
def component? (piece : List Char) : Option Component :=
  if piece = [] ∨ piece = ['.'] then none
  else if piece = ['.', '.'] then some .parent
  else some (.name (String.ofList piece))

/-- The components of a path. A leading `.` of a relative path is one. -/
def components (path : String) : List Component :=
  let ps := pieces path.toList
  let lead := if isAbsolute path then [Component.root]
    else if ps.head? = some ['.'] then [Component.current] else []
  lead ++ ps.filterMap component?

def names (path : String) : List String :=
  (components path).filterMap fun
    | .name text => some text
    | _ => none

def same (a b : String) : Bool := components a == components b

/-- The order of paths: that of their components, from the first on. -/
def compare (a b : String) : Ordering := go (components a) (components b)
where
  go : List Component → List Component → Ordering
    | [], [] => .eq
    | [], _ :: _ => .lt
    | _ :: _, [] => .gt
    | x :: xs, y :: ys => (Component.compare x y).then (go xs ys)

/-- The last component, if it is a name. -/
def fileName? (path : String) : Option String :=
  match (components path).getLast? with
  | some (.name text) => some text
  | _ => none

/-- What stands behind the last dot of the file name. A dot at its start counts for none. -/
def extension? (path : String) : Option String :=
  (fileName? path).bind fun name =>
    let cs := name.toList.reverse
    match cs.dropWhile (· != '.') with
    | _ :: _ :: _ => some (String.ofList (cs.takeWhile (· != '.')).reverse)
    | _ => none

def isVoid (piece : List Char) : Bool := piece == [] || piece == ['.']

/-- The path without its last component; `none` for an empty path and for the root. -/
def parent? (path : String) : Option String :=
  let ps := pieces path.toList
  let absolute := isAbsolute path
  let lead := if absolute ∨ ps.head? = some ['.'] then ps.take 1 else []
  let body := ((ps.drop lead.length).reverse.dropWhile isVoid)
  let text (front : List (List Char)) : String :=
    String.ofList (['/'].intercalate front)
  match body with
  | [] => if absolute then none else if lead = [] then none else some ""
  | _ :: rest =>
    match rest.dropWhile isVoid with
    | [] => if absolute then some "/" else some (text lead)
    | kept => some (text (lead ++ kept.reverse))

/-- `path` below `base`; an absolute path stays what it is. -/
def join (base path : String) : String :=
  if isAbsolute path then path
  else if base = "" ∨ base.toList.getLast? = some '/' then base ++ path
  else base ++ "/" ++ path

end Path

end Potfile

import Potfile.FileSystem
import Potfile.Path

/-! # Patterns of paths

A pattern is a path whose pieces may hold wildcards: `?` for one character, `*` for any number,
sets of characters in brackets, and a piece `**` for any number of directories.

* `Glob.compile`: the wildcards of a piece, or what is wrong with it.
* `Glob.fits`: whether a name fits a piece.
* `Glob.expand`: the paths that fit a pattern.
-/

namespace Potfile.Glob

/-! ## Wildcards -/

/-- An element of a set in brackets. -/
inductive Specifier where
  | single (c : Char)
  | range (low high : Char)
deriving DecidableEq, Repr

def Specifier.holds (c : Char) : Specifier → Bool
  | single x => c == x
  | range low high => low ≤ c && c ≤ high

inductive Token where
  | char (c : Char)
  | anyChar
  | anySequence
  | anyDirectories
  | within (set : List Specifier)
  | except (set : List Specifier)
deriving DecidableEq, Repr

/-- What is wrong with a pattern, and near which character. -/
structure PatternError where
  position : Nat
  reason : String
deriving DecidableEq, Repr

def PatternError.message (e : PatternError) : String :=
  "Pattern syntax error near position " ++ toString e.position ++ ": " ++ e.reason

def wildcardReason : String := "wildcards are either regular \x60*\x60 or recursive \x60**\x60"

def recursiveReason : String := "recursive wildcards must form a single path component"

def rangeReason : String := "invalid range pattern"

/-- The elements of a set in brackets: three characters around a hyphen are a range. -/
def specifiers : List Char → List Specifier
  | a :: '-' :: b :: rest => .range a b :: specifiers rest
  | a :: rest => .single a :: specifiers rest
  | [] => []

/-- The set behind an opening bracket, and what follows it. The first character of a set, and
    also the one behind the mark of an exception, does not end it. -/
def bracket? : List Char → Option (Token × List Char)
  | '!' :: c :: rest =>
    if ']' ∈ rest then
      some (.except (specifiers (c :: rest.takeWhile (· != ']'))),
        (rest.dropWhile (· != ']')).drop 1)
    else none
  | '!' :: [] => none
  | c :: rest =>
    if ']' ∈ rest then
      some (.within (specifiers (c :: rest.takeWhile (· != ']'))),
        (rest.dropWhile (· != ']')).drop 1)
    else none
  | [] => none

/-- Reads a pattern from `position` on. `start` tells that a piece begins here; `done` holds the
    tokens so far, the last one first. -/
def tokens : (fuel : Nat) → (position : Nat) → (start : Bool) → (done : List Token) →
    List Char → Except PatternError (List Token)
  | _, _, _, done, [] => .ok done.reverse
  | 0, _, _, done, _ :: _ => .ok done.reverse
  | fuel + 1, i, start, done, c :: cs =>
    if c = '?' then tokens fuel (i + 1) false (.anyChar :: done) cs
    else if c = '*' then
      let more := cs.takeWhile (· == '*')
      let rest := cs.dropWhile (· == '*')
      match more with
      | [] => tokens fuel (i + 1) false (.anySequence :: done) rest
      | [_] =>
        if !start then .error ⟨i - 1, recursiveReason⟩
        else
          let done' := match done with
            | .anyDirectories :: _ :: _ => done
            | _ => .anyDirectories :: done
          match rest with
          | [] => tokens fuel (i + 2) false done' []
          | '/' :: rest => tokens fuel (i + 3) true done' rest
          | _ => .error ⟨i + 2, recursiveReason⟩
      | _ => .error ⟨i + 2, wildcardReason⟩
    else if c = '[' then
      match bracket? cs with
      | some (token, rest) =>
        tokens fuel (i + (cs.length - rest.length) + 1) false (token :: done) rest
      | none => .error ⟨i, rangeReason⟩
    else tokens fuel (i + 1) (c == '/') (.char c :: done) cs

def compile (pattern : List Char) : Except PatternError (List Token) :=
  tokens pattern.length 0 true [] pattern

def fits : List Token → List Char → Bool
  | [], cs => cs.isEmpty
  | .anySequence :: ts, cs => anyRest ts cs
  | .anyDirectories :: ts, cs => anyRest ts cs
  | _ :: _, [] => false
  | .char x :: ts, c :: cs => x == c && fits ts cs
  | .anyChar :: ts, _ :: cs => fits ts cs
  | .within set :: ts, c :: cs => set.any (·.holds c) && fits ts cs
  | .except set :: ts, c :: cs => !set.any (·.holds c) && fits ts cs
where
  /-- Whether some end of a name fits a pattern. -/
  anyRest (ts : List Token) : List Char → Bool
    | [] => fits ts []
    | c :: cs => fits ts (c :: cs) || anyRest ts cs

/-- The text of a pattern without wildcards. -/
def plain? (ts : List Token) : Option String :=
  (ts.mapM fun | Token.char c => some c | _ => none).map String.ofList

/-! ## Search -/

/-- A pattern as a search takes it: where to start, the pieces to follow, and whether only
    directories count. -/
structure Search where
  start : String
  pieces : List (List Token)
  directoriesOnly : Bool

/-- The pieces of a path, of which the last one counts only if it is not empty. -/
def trimmedPieces (cs : List Char) : List (List Char) :=
  let ps := Path.pieces cs
  if ps.getLast? = some [] then ps.dropLast else ps

def prepare (pattern : String) : Except PatternError Search := do
  let cs := pattern.toList
  let _ ← compile cs
  let absolute := Path.isAbsolute pattern
  let body := if absolute then cs.drop 1 else cs
  let pieces ← (trimmedPieces body).mapM compile
  return {
    start := if absolute then "/" else "."
    pieces := if body.isEmpty then pieces ++ [[]] else pieces
    directoriesOnly := cs.getLast? == some '/' }

/-- A path to look at, and the pieces that it has to fit from its last name on; with no pieces
    it fits already. -/
abbrev Task := String × List (List Token)

variable {m : Type → Type} [Monad m]

/-- The path of a name in a directory; the working directory is left out. -/
def below (path name : String) : String :=
  if Path.same path "." then name else Path.join path name

/-- The paths to look at below `path`, in the order in which they are taken from the end. -/
def fill (dir : Directory m) (path : String) : List (List Token) → m (List Task)
  | [] => return []
  | piece :: rest => do
    let add (next : String) : m (List Task) :=
      if rest.isEmpty then return [(next, [])] else fill dir next rest
    let isDirectory ← dir.isDirectory path
    match plain? piece with
    | some name =>
      let next := below path name
      if name = "." ∨ name = ".." then
        if isDirectory then add next else return []
      else if ← dir.exists next then add next else return []
    | none =>
      if !isDirectory then return []
      let names := ((← dir.names path).getD []).mergeSort fun a b => b ≤ a
      let tasks := names.map fun name => (below path name, piece :: rest)
      if piece.head? = some (.char '.') then
        let dot ← if fits piece ['.'] then add (Path.join path ".") else pure []
        let dots ← if fits piece ['.', '.'] then add (Path.join path "..") else pure []
        return tasks ++ dot ++ dots
      else return tasks

/-- Whether a piece stands for any number of directories. -/
def isRecursive (piece : List Token) : Bool := piece.contains .anyDirectories

/-- Takes tasks from the end of the list until none is left; the paths that fit are found in
    this order. -/
def search (dir : Directory m) (directoriesOnly : Bool) :
    (fuel : Nat) → (tasks : List Task) → m (List String)
  | 0, _ => return []
  | fuel + 1, tasks => do
    let some (path, pieces) := tasks.getLast? | return []
    let tasks := tasks.dropLast
    let accept (path : String) (tasks : List Task) : m (List String) := do
      if !directoriesOnly || (← dir.isDirectory path) then
        return path :: (← search dir directoriesOnly fuel tasks)
      else search dir directoriesOnly fuel tasks
    /- Compares the last name of the path with a piece. -/
    let compareName (pieces : List (List Token)) (tasks : List Task) : m (List String) := do
      match pieces, Path.fileName? path with
      | piece :: rest, some name =>
        if fits piece name.toList then
          if rest.isEmpty then accept path tasks
          else search dir directoriesOnly fuel (tasks ++ (← fill dir path rest))
        else search dir directoriesOnly fuel tasks
      | _, _ => search dir directoriesOnly fuel tasks
    match pieces with
    | [] => accept path tasks
    | piece :: rest =>
      if isRecursive piece then
        let rest := rest.dropWhile isRecursive
        if ← dir.isDirectory path then
          let tasks := tasks ++ (← fill dir path (piece :: rest))
          if rest.isEmpty then return path :: (← search dir directoriesOnly fuel tasks)
          else compareName rest tasks
        else if rest.isEmpty then search dir directoriesOnly fuel tasks
        else compareName rest tasks
      else compareName pieces tasks

/-- The number of steps after which a search ends in any case. -/
def stepLimit : Nat := Nat.pow 2 60

def expand (dir : Directory m) (pattern : String) : m (Except PatternError (List String)) := do
  match prepare pattern with
  | .error e => return .error e
  | .ok s => return .ok (← search dir s.directoriesOnly stepLimit (← fill dir s.start s.pieces))

end Potfile.Glob

import Potfile.FileSystem.Tree
import Potfile.Proofs.FileSystem

/-! # What is asked of a file system

* `Call`: an operation that was asked for, and how it ended.
* `FileSystem.recorded`: a file system that keeps a list of the calls to it, and does otherwise what
  it did.
* `Issues`: the calls of a program, with its result and the state behind it. They are composed with
  the program (`Issues.bind`), and end where a step fails (`Issues.bind_error`).
* `Course`: a list of requests, made up to the first that fails.
* `Follows`: a program that makes the same requests in every state, up to the first that fails.
* `FileSystem.Steady`: reading changes nothing.
-/

namespace Potfile

variable {σ α β : Type}

/-! ## Calls -/

/-- What can be asked of a file system. -/
inductive Request where
  | read (path : String)
  | write (path : String) (bytes : ByteArray)
  | createDirs (path : String)

def Request.isRead : Request → Bool
  | read _ => true
  | write _ _ | createDirs _ => false

/-- A request, and the failure with which it ended, if it failed. -/
structure Call where
  request : Request
  failure : Option Failure

/-- The call that succeeds. -/
def Call.granted (request : Request) : Call := ⟨request, none⟩

/-- The call that fails. -/
def Call.refused (request : Request) (failure : Failure) : Call := ⟨request, some failure⟩

/-- The file that was written, and its bytes. -/
def Call.written? : Call → Option (String × ByteArray)
  | ⟨.write path bytes, none⟩ => some (path, bytes)
  | _ => none

def failure? : Except Failure α → Option Failure
  | .ok _ => none
  | .error failure => some failure

/-- The result of a step and the state behind it. -/
def perform (act : Attempt (StateM σ) α) (before : σ) : Except Failure α × σ :=
  (act.run.run before).run

/-- The step, with its call added to the list of calls. -/
def record (request : Request) (act : Attempt (StateM σ) α) : Attempt (StateM (σ × List Call)) α :=
  ExceptT.mk fun (state, calls) =>
    let (result, state') := perform act state
    (result, state', calls ++ [⟨request, failure? result⟩])

/-- The file system that does the same, and keeps a list of the calls to it. -/
def FileSystem.recorded (fs : FileSystem (StateM σ)) : FileSystem (StateM (σ × List Call)) where
  read path := record (.read path) (fs.read path)
  write path bytes := record (.write path bytes) (fs.write path bytes)
  createDirs path := record (.createDirs path) (fs.createDirs path)

/-! ## Programs -/

/-- A step that can be taken in any file system. -/
abbrev Program (α : Type) : Type 1 := (σ : Type) → FileSystem (StateM σ) → Attempt (StateM σ) α

/-- Against the file system, the program ends with a result in a state, and these are its calls. -/
structure Issues (fs : FileSystem (StateM σ)) (program : Program α) (before : σ)
    (calls : List Call) (result : Except Failure α) (after : σ) : Prop where
  ends : perform (program σ fs) before = (result, after)
  recorded (earlier : List Call) :
    perform (program _ fs.recorded) (before, earlier) = (result, after, earlier ++ calls)

theorem perform_bind (act : Attempt (StateM σ) α) (next : α → Attempt (StateM σ) β) (before : σ) :
    perform (act >>= next) before =
      match perform act before with
      | (.ok value, between) => perform (next value) between
      | (.error failure, between) => (.error failure, between) := by
  simp only [perform, ExceptT.run_bind, StateT.run_bind, Id.run_bind]
  cases (act.run.run before).run with
  | mk result between => cases result <;> rfl

variable {fs : FileSystem (StateM σ)} {before between after : σ} {calls more : List Call}

namespace Issues

variable {p : Program α} {q : α → Program β} {value : α} {result : Except Failure β}
variable {failure : Failure}

theorem pure (value : α) : Issues fs (fun _ _ => Pure.pure value) before [] (.ok value) before where
  ends := rfl
  recorded earlier := by rw [List.append_nil]; rfl

theorem bind (first : Issues fs p before calls (.ok value) between)
    (rest : Issues fs (q value) between more result after) :
    Issues fs (fun _ fs => p _ fs >>= (q · _ fs)) before (calls ++ more) result after where
  ends := by
    rw [perform_bind, first.ends]
    exact rest.ends
  recorded earlier := by
    rw [perform_bind, first.recorded, ← List.append_assoc]
    exact rest.recorded _

/-- Nothing is asked for behind a step that fails. -/
theorem bind_error (first : Issues fs p before calls (.error failure) after) :
    Issues fs (fun _ fs => p _ fs >>= (q · _ fs)) before calls (.error failure) after where
  ends := by rw [perform_bind, first.ends]
  recorded earlier := by rw [perform_bind, first.recorded]

/-! ## Operations -/

theorem read (path : String) (before : σ) :
    Issues fs (fun _ fs => fs.read path) before
      [⟨.read path, failure? (perform (fs.read path) before).1⟩]
      (perform (fs.read path) before).1 (perform (fs.read path) before).2 :=
  ⟨rfl, fun _ => rfl⟩

theorem write (path : String) (bytes : ByteArray) (before : σ) :
    Issues fs (fun _ fs => fs.write path bytes) before
      [⟨.write path bytes, failure? (perform (fs.write path bytes) before).1⟩]
      (perform (fs.write path bytes) before).1 (perform (fs.write path bytes) before).2 :=
  ⟨rfl, fun _ => rfl⟩

theorem createDirs (path : String) (before : σ) :
    Issues fs (fun _ fs => fs.createDirs path) before
      [⟨.createDirs path, failure? (perform (fs.createDirs path) before).1⟩]
      (perform (fs.createDirs path) before).1 (perform (fs.createDirs path) before).2 :=
  ⟨rfl, fun _ => rfl⟩

end Issues

/-! ## Courses -/

/-- The requests are made one after another, up to the first that fails. -/
inductive Course : List Request → List Call → Option Failure → Prop where
  | done : Course [] [] none
  | granted {requests : List Request} {calls : List Call} {ending : Option Failure}
      (request : Request) (rest : Course requests calls ending) :
      Course (request :: requests) (.granted request :: calls) ending
  | refused (request : Request) (requests : List Request) (failure : Failure) :
      Course (request :: requests) [.refused request failure] (some failure)

namespace Course

variable {requests others : List Request} {failure : Failure} {ending : Option Failure}

theorem single (request : Request) (ending : Option Failure) :
    Course [request] [⟨request, ending⟩] ending := by
  cases ending with
  | none => exact .granted request .done
  | some failure => exact .refused request [] failure

theorem append (first : Course requests calls none) (second : Course others more ending) :
    Course (requests ++ others) (calls ++ more) ending := by
  generalize completed : none = ending' at first
  induction first with
  | done => exact second
  | granted request _ inductionHypothesis => exact .granted request (inductionHypothesis completed)
  | refused => contradiction

theorem append_of_failed (first : Course requests calls (some failure)) (others : List Request) :
    Course (requests ++ others) calls (some failure) := by
  generalize failed : some failure = ending' at first
  induction first with
  | done => contradiction
  | granted request _ inductionHypothesis => exact .granted request (inductionHypothesis failed)
  | refused request requests failure' => exact .refused request _ failure'

theorem eq_of_completed (course : Course requests calls none) : calls = requests.map .granted := by
  generalize completed : none = ending' at course
  induction course with
  | done => rfl
  | granted _ _ inductionHypothesis => rw [List.map_cons, inductionHypothesis completed]
  | refused => contradiction

theorem exists_of_failed (course : Course requests calls (some failure)) :
    ∃ front request back, requests = front ++ request :: back ∧
      calls = front.map .granted ++ [.refused request failure] := by
  generalize failed : some failure = ending' at course
  induction course with
  | done => contradiction
  | granted first _ inductionHypothesis =>
    obtain ⟨front, request, back, rfl, rfl⟩ := inductionHypothesis failed
    exact ⟨first :: front, request, back, rfl, rfl⟩
  | refused request requests failure' =>
    obtain rfl := Option.some.inj failed
    exact ⟨[], request, requests, rfl, rfl⟩

/-- Everything asked for before a call was granted. -/
theorem exists_front {front back : List Call} {call : Call}
    (course : Course requests (front ++ call :: back) ending) :
    ∃ asked left, requests = asked ++ call.request :: left ∧ front = asked.map .granted := by
  generalize whole : front ++ call :: back = calls at course
  induction course generalizing front with
  | done => exact absurd whole (by simp)
  | granted request _ inductionHypothesis =>
    cases front with
    | nil =>
      obtain ⟨rfl, rfl⟩ := List.cons.inj whole
      exact ⟨[], _, rfl, rfl⟩
    | cons first front =>
      obtain ⟨rfl, rest⟩ := List.cons.inj whole
      obtain ⟨asked, left, rfl, rfl⟩ := inductionHypothesis rest
      exact ⟨request :: asked, left, rfl, rfl⟩
  | refused request requests failure =>
    obtain ⟨rfl, rfl, rfl⟩ : front = [] ∧ call = .refused request failure ∧ back = [] := by
      simpa [List.append_eq_singleton_iff] using whole
    exact ⟨[], requests, rfl, rfl⟩

theorem request_mem {call : Call} (course : Course requests calls ending) (member : call ∈ calls) :
    call.request ∈ requests := by
  obtain ⟨front, back, rfl⟩ := List.append_of_mem member
  obtain ⟨asked, left, rfl, _⟩ := course.exists_front
  exact List.mem_append_right _ List.mem_cons_self

/-- A course ends with a failure exactly if one of its calls fails. -/
theorem ending_ne_none_iff (course : Course requests calls ending) :
    ending ≠ none ↔ ∃ call ∈ calls, call.failure ≠ none := by
  induction course with
  | done => simp
  | granted _ _ inductionHypothesis => simp [inductionHypothesis, Call.granted]
  | refused => simp [Call.refused]

end Course

/-! ## Programs that follow a list -/

/-- In every state, the program makes the requests one after another, up to the first that fails,
    and with that it fails. -/
def Follows (fs : FileSystem (StateM σ)) (p : Program α) (requests : List Request) : Prop :=
  ∀ before, ∃ calls result after,
    Issues fs p before calls result after ∧ Course requests calls (failure? result)

namespace Follows

variable {p : Program α} {q : α → Program β} {requests others : List Request}

theorem pure (value : α) : Follows fs (fun _ _ => Pure.pure value) [] := fun before =>
  ⟨[], _, before, .pure value, .done⟩

theorem bind (first : Follows fs p requests) (rest : ∀ value, Follows fs (q value) others) :
    Follows fs (fun _ fs => p _ fs >>= (q · _ fs)) (requests ++ others) := by
  intro before
  obtain ⟨calls, result, between, issued, course⟩ := first before
  cases result with
  | error failure => exact ⟨calls, _, between, issued.bind_error, course.append_of_failed others⟩
  | ok value =>
    obtain ⟨more, result, after, issued', course'⟩ := rest value between
    exact ⟨calls ++ more, result, after, issued.bind issued', course.append course'⟩

theorem read (path : String) : Follows fs (fun _ fs => fs.read path) [.read path] :=
  fun before => ⟨_, _, _, .read path before, .single _ _⟩

theorem write (path : String) (bytes : ByteArray) :
    Follows fs (fun _ fs => fs.write path bytes) [.write path bytes] :=
  fun before => ⟨_, _, _, .write path bytes before, .single _ _⟩

theorem createDirs (path : String) : Follows fs (fun _ fs => fs.createDirs path) [.createDirs path] :=
  fun before => ⟨_, _, _, .createDirs path before, .single _ _⟩

theorem mapM {step : α → Program β} {requests : α → List Request}
    (each : ∀ item, Follows fs (step item) (requests item)) (items : List α) :
    Follows fs (fun _ fs => items.mapM (step · _ fs)) (items.flatMap requests) := by
  induction items with
  | nil => exact .pure []
  | cons item items inductionHypothesis =>
    simp only [List.mapM_cons]
    rw [List.flatMap_cons, ← List.append_nil (items.flatMap requests)]
    exact .bind (each item) fun _ => .bind inductionHypothesis fun _ => .pure _

end Follows

/-! ## Reading -/

/-- What is read at a path in a state, if it can be read. -/
def FileSystem.found? (fs : FileSystem (StateM σ)) (state : σ) (path : String) : Option ByteArray :=
  (perform (fs.read path) state).1.toOption

/-- Reading changes nothing, also where it fails. -/
def FileSystem.Steady (fs : FileSystem (StateM σ)) : Prop :=
  ∀ path state, (perform (fs.read path) state).2 = state

theorem FileSystem.Steady.yields_read (steady : fs.Steady) {path : String} {bytes : ByteArray}
    (found : fs.found? before path = some bytes) : Yields (fs.read path) before bytes before := by
  unfold found? at found
  change perform (fs.read path) before = _
  rw [Prod.ext_iff]
  refine ⟨?_, steady path before⟩
  cases result : (perform (fs.read path) before).1 with
  | error => simp [result, Except.toOption] at found
  | ok => simpa [result, Except.toOption] using found

theorem FileSystem.Steady.exists_read_error (steady : fs.Steady) {path : String}
    (missing : fs.found? before path = none) :
    ∃ failure, perform (fs.read path) before = (.error failure, before) := by
  unfold found? at missing
  cases result : (perform (fs.read path) before).1 with
  | error failure => exact ⟨failure, Prod.ext result (steady path before)⟩
  | ok => simp [result, Except.toOption] at missing

theorem Tree.steady : Tree.system.Steady := by
  intro path tree
  simp only [perform, system, FileSystem.ofReasons, ExceptT.run, ExceptT.mk, StateT.run_bind,
    StateT.run_get, bind_assoc, pure_bind]
  split
  · rfl
  · rfl

end Potfile

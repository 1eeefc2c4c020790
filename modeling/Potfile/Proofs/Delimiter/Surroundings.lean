import Potfile.Proofs.Delimiter.Openings

/-! # What stands in front of an interpolation

* `Scanner.Settled`: no message is left open when the text was walked through.
* `next_append_of_some`, `next_append_of_none`: one step, in a text that goes on.
* `toList_append_of_settled`: behind a settled text, a plain interpolation is found where it stands.
* `settled_iff_forall_mem_messages`: behind any other text, some are not; one such text ends with
  an interpolation of another filter (`message_lost_behind_other_filter`).
-/

namespace Potfile

open Delimiters (braces IsPlain plain plainParts toList_plain toList_plain_append tokens)

namespace Scanner

variable {s : Scanner} {pre tail : String} {cursor : Nat} {more : List Char}

/-! ## One step -/

/-- In a text that goes on with two braces, what is found next stays the same. -/
theorem next_append_of_some {s' : Scanner} {message : String}
    (braced : tail.toList = '{' :: '{' :: more) (covered : (walk pre cursor).Covered)
    (step : (walk pre cursor).next = (some message, s')) :
    (walk (pre ++ tail) cursor).next = (some message, walk (pre ++ tail) s'.cursor) := by
  obtain ⟨c, precedes, rfl, rfl⟩ := exists_of_next_eq_some step
  have inside := c.stop_le_utf8ByteSize
  have first : ∀ c', (c.extend tail).Precedes c' := by
    intro c'
    -- A candidate of the longer text that starts in the shorter one either ends in it too, or has
    -- a message that was left open there.
    change c.start < c'.start ∨ c.start = c'.start ∧
      (c.closed < c'.closed ∨ c.closed = c'.closed ∧ c'.stop ≤ c.stop)
    by_cases left : c'.start < pre.utf8ByteSize
    · obtain ⟨within, start, closed, stop⟩ | ⟨⟨o, start⟩, _, closed⟩ :=
        c'.cases_of_start_lt braced left
      · have before := precedes within
        rwa [Candidate.Precedes, start, closed, stop] at before
      · -- What was left open there ends later than anything in front of the braces.
        obtain ⟨other, further⟩ := covered o
        have before := precedes other
        have earlier := c.closed_lt_stop
        rw [Candidate.Precedes] at before
        simp only at inside
        omega
    · have filled := c.start_lt_stop
      simp only at inside
      omega
  exact next_of_precedes first

def plainCandidate (inside : cursor ≤ pre.utf8ByteSize) {message : String}
    (isPlain : IsPlain message) (post : String) :
    (walk (pre ++ (plain message ++ post)) cursor).Candidate where
  toInterpolation := plainParts message isPlain.oneLine
  before := pre.toList
  after := post.toList
  split := by simp [toList_plain isPlain.oneLine]
  reached := by rwa [utf8Size_toList]
  anchored := by simp [Delimiters.isAnchored, braces]

theorem plainCandidate_precedes_of_start (inside : cursor ≤ pre.utf8ByteSize) {message : String}
    (isPlain : IsPlain message) {post : String}
    (c : (walk (pre ++ (plain message ++ post)) cursor).Candidate)
    (start : c.start = pre.utf8ByteSize) :
    (plainCandidate inside isPlain post).Precedes c := by
  apply Candidate.precedes_of_start ⟨'}', rfl, by decide⟩
  · -- A plain message does not hold the apostrophe that closes it.
    intro within
    have quoted : '\'' ∈ message.toList := within.subset (List.mem_singleton_self _)
    exact (isPlain.2 _ quoted).1 rfl
  · rw [start, ← utf8Size_toList]
    rfl

/-- Where nothing more is found in a text, a plain interpolation behind it is found next. -/
theorem next_append_of_none {s' : Scanner} (covered : (walk pre cursor).Covered)
    (inside : cursor ≤ pre.utf8ByteSize) (silent : (walk pre cursor).next = (none, s'))
    {message : String} (isPlain : IsPlain message) (post : String) :
    (walk (pre ++ (plain message ++ post)) cursor).next =
      (some message,
        walk (pre ++ (plain message ++ post)) (pre ++ plain message).utf8ByteSize) := by
  have absent := isEmpty_of_next_eq_none silent
  have first : ∀ c, (plainCandidate inside isPlain post).Precedes c := by
    -- Further left there is neither a candidate nor, then, an opening.
    intro c
    obtain left | here | right := Nat.lt_trichotomy c.start pre.utf8ByteSize
    · obtain ⟨within, _⟩ | ⟨⟨o, _⟩, _⟩ := c.cases_of_start_lt (toList_plain_append post) left
      · exact absent.elim within
      · exact absent.elim (covered o).choose
    · exact plainCandidate_precedes_of_start inside isPlain c here
    · refine .inl ?_
      rw [Candidate.start, plainCandidate, utf8Size_toList]
      exact right
  have stop : (plainCandidate inside isPlain post).stop = (pre ++ plain message).utf8ByteSize := by
    rw [← utf8Size_toList, String.toList_append, toList_plain isPlain.oneLine]
    simp [Candidate.stop, plainCandidate]
  rw [next_of_precedes first, stop]
  simp [plainCandidate, plainParts]

/-! ## Whole walks -/

/-- The scanners that a walk comes to. -/
inductive Reached (start : Scanner) : Scanner → Prop
  | start : Reached start start
  | step {s s' : Scanner} {message : String} :
      Reached start s → s.next = (some message, s') → Reached start s'

theorem Reached.eq_walk (reached : Reached (walk pre 0) s) :
    s = walk pre s.cursor ∧ s.cursor ≤ pre.utf8ByteSize := by
  induction reached with
  | start => exact ⟨rfl, Nat.zero_le _⟩
  | step _ found inductionHypothesis =>
    rw [inductionHypothesis.1] at found
    obtain ⟨c, _, _, rfl⟩ := exists_of_next_eq_some found
    exact ⟨rfl, c.stop_le_utf8ByteSize⟩

/-- No message that is opened in the text is left over for what comes behind the text. -/
def Settled (text : String) : Prop := ∀ s, Reached (walk text 0) s → s.Covered

/-- Behind a settled text a walk comes to a plain interpolation, after what it finds in the text. -/
theorem toList_append_of_settled (settled : Settled pre) {message : String}
    (isPlain : IsPlain message) (post : String)
    (reached : Reached (walk pre 0) (walk pre cursor)) :
    (walk (pre ++ (plain message ++ post)) cursor).toList =
      (walk pre cursor).toList ++ (message, (pre ++ plain message).utf8ByteSize) ::
        (walk (pre ++ (plain message ++ post)) (pre ++ plain message).utf8ByteSize).toList := by
  have covered := settled _ reached
  -- The induction follows the walk through the text in front; each scanner on it is covered.
  induction here : walk pre cursor using toList.induct generalizing cursor with
  | case1 s s' silent =>
    subst here
    rw [toList_of_next_eq_some
      (next_append_of_none covered reached.eq_walk.2 silent isPlain post),
      toList_of_next_eq_none silent, List.nil_append]
  | case2 s message' s' step inductionHypothesis =>
    subst here
    have reached' := reached.step step
    have same := reached'.eq_walk.1
    rw [same] at reached'
    rw [toList_of_next_eq_some step, toList_of_next_eq_some
      (next_append_of_some (toList_plain_append post) covered step),
      inductionHypothesis reached' (settled _ reached') same.symm, List.cons_append]

/-! ## Messages that are lost -/

theorem isEmpty_candidate_of_lt (braced : tail.toList = '{' :: '{' :: more) (last : '{' ∉ more)
    (behind : pre.utf8ByteSize < cursor) : IsEmpty (walk (pre ++ tail) cursor).Candidate := by
  refine ⟨fun c => ?_⟩
  have split : pre.toList ++ '{' :: '{' :: more =
      c.before ++ '{' :: '{' :: (c.first ++ c.quote ++ c.message ++ c.back braces ++ c.after) := by
    have whole := c.split
    rw [String.toList_append, braced] at whole
    simpa [Interpolation.front, braces] using whole
  have further := Nat.lt_of_lt_of_le behind c.reached
  obtain ⟨part, before, inner⟩ | ⟨part, before, _⟩ := List.append_eq_append_iff.mp split
  · obtain ⟨rfl, _⟩ := braces_append_inj last inner
    rw [before, List.append_nil, utf8Size_toList] at further
    omega
  · rw [← utf8Size_toList, before, utf8Size_append] at further
    omega

/-- What closes a message that was opened with the given token. -/
def ending (quote : List Char) : String := String.ofList (quote ++ " | translate\x7d\x7d".toList)

namespace Opening

variable (o : (walk pre cursor).Opening)

def closedParts {message : String} (isPlain : IsPlain message) : Interpolation where
  quote := o.quote
  message := o.rest ++ (plain message).toList
  first := o.first
  second := [' ']
  third := [' ']
  fourth := []
  isToken := o.isToken
  oneLine := by
    rw [List.mem_append, not_or]
    exact ⟨o.oneLine, by simp [plain, isPlain.oneLine]⟩
  blank := by
    simp only [List.append_assoc, List.forall_mem_append]
    exact ⟨o.blank, by simpa using Delimiters.isBlank_space⟩

/-- A left open message as a candidate, when it is closed behind a plain interpolation. -/
def closedCandidate {message : String} (isPlain : IsPlain message) :
    (walk (pre ++ (plain message ++ ending o.quote)) cursor).Candidate where
  toInterpolation := o.closedParts isPlain
  before := o.before
  after := []
  split := by
    simp [o.split, closedParts, ending, Interpolation.front, Interpolation.back,
      Delimiters.filterName_eq, braces]
  reached := o.reached
  anchored := by simp [Delimiters.isAnchored, braces]

theorem start_lt : o.start < pre.utf8ByteSize := by
  have brace : 0 < utf8Size braces.opening := by decide
  rw [start, ← utf8Size_toList, o.split]
  simp only [utf8Size_append]
  omega

end Opening

/-- A message that was left open takes up a plain interpolation behind it, if its line goes on with
    the right token. Then nothing more is found. -/
theorem exists_toList_of_opening (o : (walk pre cursor).Opening)
    (uncovered : ∀ c : (walk pre cursor).Candidate, o.start < c.start) {message : String}
    (isPlain : IsPlain message) (solid : '{' ∉ message.toList) :
    ∃ entry, '{' ∈ entry.1.toList ∧
      (walk (pre ++ (plain message ++ ending o.quote)) cursor).toList = [entry] := by
  obtain ⟨c, precedes⟩ := exists_precedes ⟨o.closedCandidate isPlain⟩
  have left : c.start ≤ o.start := by
    have before := precedes (o.closedCandidate isPlain)
    rw [Candidate.Precedes] at before
    have start : (o.closedCandidate isPlain).start = o.start := rfl
    omega
  obtain ⟨within, start, _⟩ | ⟨_, brace, closed⟩ := c.cases_of_start_lt
    (toList_plain_append (ending o.quote)) (Nat.lt_of_le_of_lt left o.start_lt)
  · have right := uncovered within
    omega
  · refine ⟨(String.ofList c.message, c.stop), by simpa using brace, ?_⟩
    have last : '{' ∉ '\'' :: message.toList ++ "' | translate\x7d\x7d".toList ++
        (ending o.quote).toList := by
      have quote : '{' ∉ o.quote := (o.closedParts isPlain).brace_notMem_quote
      simp [ending, solid, quote]
    have absent : IsEmpty (walk (pre ++ (plain message ++ ending o.quote)) c.stop).Candidate :=
      isEmpty_candidate_of_lt (toList_plain_append (ending o.quote)) last
        (Nat.lt_of_le_of_lt closed c.closed_lt_stop)
    rw [toList_of_next_eq_some (next_of_precedes precedes),
      toList_of_next_eq_none (next_eq_none_iff.mpr absent)]

/-- A plain message that is too long to stand in a text. -/
def overlong (text : String) : String := String.ofList (List.replicate (text.length + 1) 'a')

theorem isPlain_overlong (text : String) : IsPlain (overlong text) := by
  refine ⟨?_, ?_⟩
  · simp [overlong]
  · intro c member
    simp only [overlong, String.toList_ofList, List.mem_replicate] at member
    rw [member.2]
    decide

/-- A walk that has found every plain interpolation up to some place meets no left open message
    there. -/
theorem covered_of_forall_mem {front : List (String × Nat)}
    (found : ∀ message post, IsPlain message →
      message ∈ braces.messages (pre ++ (plain message ++ post)))
    (short : ∀ entry ∈ front, entry.1.length ≤ pre.length)
    (passes : ∀ message post, IsPlain message →
      (walk (pre ++ (plain message ++ post)) 0).toList =
        front ++ (walk (pre ++ (plain message ++ post)) cursor).toList) :
    (walk pre cursor).Covered := by
  intro o
  by_contra uncovered
  -- A message is missing if it was left over: what was found before is shorter, and what is found
  -- instead has a brace in it.
  simp only [not_exists, Nat.not_le] at uncovered
  have solid : '{' ∉ (overlong pre).toList := by simp [overlong]
  obtain ⟨entry, brace, last⟩ := exists_toList_of_opening o uncovered (isPlain_overlong pre) solid
  have member := found (overlong pre) (ending o.quote) (isPlain_overlong pre)
  rw [Delimiters.messages, show Scanner.new braces _ = walk _ 0 from rfl,
    passes _ _ (isPlain_overlong pre), last, List.map_append, List.mem_append] at member
  obtain earlier | here := member
  · obtain ⟨entry, within, equal⟩ := List.mem_map.mp earlier
    have fits := short entry within
    rw [equal] at fits
    simp [overlong] at fits
  · have equal : overlong pre = entry.1 := by simpa using here
    exact solid (equal ▸ brace)

theorem settled_of_forall_mem
    (found : ∀ message post, IsPlain message →
      message ∈ braces.messages (pre ++ (plain message ++ post))) : Settled pre := by
  intro s reached
  obtain ⟨front, short, passes⟩ : ∃ front : List (String × Nat),
      (∀ entry ∈ front, entry.1.length ≤ pre.length) ∧ ∀ message post, IsPlain message →
        (walk (pre ++ (plain message ++ post)) 0).toList =
          front ++ (walk (pre ++ (plain message ++ post)) s.cursor).toList := by
    -- Up to each scanner that is reached, nothing is found behind the text, whatever comes there.
    induction reached with
    | start => exact ⟨[], by simp, fun _ _ _ => rfl⟩
    | @step s s' found' reached step inductionHypothesis =>
      obtain ⟨front, short, passes⟩ := inductionHypothesis
      rw [reached.eq_walk.1] at step
      have covered := covered_of_forall_mem found short passes
      refine ⟨front ++ [(found', s'.cursor)], ?_, fun message post isPlain => ?_⟩
      · rw [List.forall_mem_append]
        exact ⟨short, by simpa using length_le_of_next_eq_some step⟩
      · rw [passes message post isPlain, toList_of_next_eq_some
          (next_append_of_some (toList_plain_append post) covered step), List.append_assoc]
        rfl
  rw [reached.eq_walk.1]
  exact covered_of_forall_mem found short passes

/-- The interpolations that stand behind a text are all found, exactly if the text leaves no
    message open. -/
theorem settled_iff_forall_mem_messages :
    Settled pre ↔ ∀ message post, IsPlain message →
      message ∈ braces.messages (pre ++ plain message ++ post) := by
  simp only [String.append_assoc]
  constructor
  · intro settled message post isPlain
    rw [Delimiters.messages, show Scanner.new braces _ = walk _ 0 from rfl,
      toList_append_of_settled settled isPlain post .start]
    simp
  · exact settled_of_forall_mem

/-- Behind each opening delimiter of the text there is a closing one. -/
def Closes (text : String) : Prop :=
  ∀ before after, text.toList = before ++ '{' :: '{' :: after → ['}', '}'] <:+: after

/-- An interpolation with another filter leaves its message open, although it is closed itself. -/
theorem message_lost_behind_other_filter :
    Closes "\x7b\x7b'a' | upper\x7d\x7d " ∧ IsPlain "m" ∧
      "m" ∉ braces.messages ("\x7b\x7b'a' | upper\x7d\x7d " ++ plain "m" ++ "") := by
  refine ⟨fun before after split => ?_, ⟨by decide, by simp⟩, by decide +kernel⟩
  have whole : "\x7b\x7b'a' | upper\x7d\x7d ".toList =
      '{' :: '{' :: ("'a' | upper".toList ++ ['}', '}'] ++ [' ']) := rfl
  obtain ⟨_, rfl⟩ := braces_append_inj (by simp) (whole.symm.trans split)
  exact ⟨"'a' | upper".toList, [' '], rfl⟩

end Scanner

end Potfile

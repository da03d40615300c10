import Mathlib.Logic.ExistsUnique
import Peg.Proofs.Parse.Bracketing

/-!
# Transcripts are balanced

In the transcript of a parse, the line about the entry into a rule and the line about the exit from
it have the same indentation, and all lines between them are indented more deeply. This determines
which lines belong together, so that it can be read off the lines alone.
-/

namespace Peg

/-- The number of spaces in front of a line. -/
def indentOf (line : String) : Nat :=
  (line.toList.takeWhile (· = ' ')).length

/-- What stands behind the spaces in front of a line. -/
def contentOf (line : String) : List Char :=
  line.toList.dropWhile (· = ' ')

/-- The line tells of the entry into a rule. -/
def Enters (rule line : String) : Prop :=
  ∃ position : Nat, contentOf line = (s!"> {rule} @{position}").toList

/-- The line tells of the exit from a rule. -/
def Exits (rule line : String) : Prop :=
  ∃ (position : Nat) (result : String), (result = "ok" ∨ result = "fail") ∧
    contentOf line = (s!"< {rule} @{position} " ++ result).toList

/-- The lines of an entry and an exit belong together: they name the same rule, they have the same
indentation, and all lines between them are indented more deeply. -/
structure Encloses (rule opening : String) (between : List String) (closing : String) : Prop where
  enters : Enters rule opening
  exits : Exits rule closing
  indent : indentOf closing = indentOf opening
  deeper : ∀ line ∈ between, indentOf opening < indentOf line

/-- Every entry has exactly one later exit that belongs to it. -/
def EntriesClosed (lines : List String) : Prop :=
  ∀ before opening rest, lines = before ++ opening :: rest → ∀ rule, Enters rule opening →
    ∃! between, ∃ closing after, rest = between ++ closing :: after ∧
      Encloses rule opening between closing

/-- Every exit belongs to exactly one earlier entry, behind which all further entries are closed. -/
def ExitsOpened (lines : List String) : Prop :=
  ∀ before closing after, lines = before ++ closing :: after → ∀ rule, Exits rule closing →
    ∃! between, ∃ earlier opening, before = earlier ++ opening :: between ∧
      Encloses rule opening between closing ∧ EntriesClosed between

/-- The entries and the exits form a balanced nesting. -/
structure BalancedLines (lines : List String) : Prop where
  entries : EntriesClosed lines
  exits : ExitsOpened lines

/-- An element of joined lists stands in one of them. -/
theorem append_eq_append_cons {α : Type} {first second before rest : List α} {x : α}
    (h : first ++ second = before ++ x :: rest) :
    (∃ rest', first = before ++ x :: rest' ∧ rest = rest' ++ second) ∨
      ∃ before', before = first ++ before' ∧ second = before' ++ x :: rest := by
  rcases List.append_eq_append_iff.mp h with ⟨part, hbefore, hsecond⟩ | ⟨part, hfirst, hrest⟩
  · exact .inr ⟨part, hbefore, hsecond⟩
  · cases part with
    | nil => exact .inr ⟨[], by simpa using hfirst.symm, hrest.symm⟩
    | cons y part =>
      obtain ⟨rfl, rfl⟩ := List.cons_eq_cons.mp hrest
      exact .inl ⟨part, hfirst, rfl⟩

section Texts

variable {rule name line text : String} {depth : Nat}

/-- There are two spaces for each call under way. -/
theorem toList_indentation (depth : Nat) :
    (indentation depth).toList = List.replicate (depth * 2) ' ' := by
  have hunit : "  ".toList = List.replicate 2 ' ' := rfl
  rw [indentation, String.toList_join, List.flatMap_replicate, hunit,
    List.flatten_replicate_replicate]

/-- The indentation of a line can be told from the line if its text starts with no space. -/
theorem indentOf_indented (htext : text.toList.head? ≠ some ' ') :
    indentOf (indentation depth ++ text) = depth * 2 := by
  rw [indentOf, String.toList_append, toList_indentation, List.takeWhile_append_of_pos (by simp)]
  cases hchars : text.toList with
  | nil => simp
  | cons c cs =>
    have hc : c ≠ ' ' := by simpa [hchars] using htext
    simp [hc]

/-- The text of a line can be told from the line if it starts with no space. -/
theorem contentOf_indented (htext : text.toList.head? ≠ some ' ') :
    contentOf (indentation depth ++ text) = text.toList := by
  rw [contentOf, String.toList_append, toList_indentation, List.dropWhile_append_of_pos (by simp)]
  cases hchars : text.toList with
  | nil => rfl
  | cons c cs =>
    have hc : c ≠ ' ' := by simpa [hchars] using htext
    simp [hc]

/-- The line of an entry as characters, taken apart at its last at sign. -/
theorem toList_enterLine (rule : String) (position : Nat) :
    (s!"> {rule} @{position}").toList =
      '>' :: ' ' :: ((rule.toList ++ [' ']) ++ '@' :: Nat.toDigits 10 position) := by
  have hparts : s!"> {rule} @{position}" = "> " ++ rule ++ " @" ++ position.repr := rfl
  rw [hparts]
  simp

/-- The line of an exit as characters, taken apart at its last at sign. -/
theorem toList_exitLine (rule : String) (position : Nat) (result : String) :
    (s!"< {rule} @{position} " ++ result).toList = '<' :: ' ' ::
      ((rule.toList ++ [' ']) ++ '@' :: (Nat.toDigits 10 position ++ ' ' :: result.toList)) := by
  have hparts : s!"< {rule} @{position} " ++ result =
      "< " ++ rule ++ " @" ++ position.repr ++ " " ++ result := rfl
  rw [hparts]
  simp

/-- What stands in front of the last at sign is determined. -/
theorem eq_of_append_at {first first' second second' : List Char}
    (h : first ++ '@' :: second = first' ++ '@' :: second') (hsecond : '@' ∉ second)
    (hsecond' : '@' ∉ second') : first = first' := by
  rcases append_eq_append_cons h with ⟨part, _, hpart⟩ | ⟨part, rfl, hpart⟩
  · exact absurd (hpart ▸ by simp) hsecond'
  · cases part with
    | nil => exact (List.append_nil first).symm
    | cons _ part => exact absurd ((List.cons_eq_cons.mp hpart).2 ▸ by simp) hsecond

/-- An at sign is no digit. -/
theorem at_not_mem_toDigits (n : Nat) : '@' ∉ Nat.toDigits 10 n := fun hmem =>
  absurd (Nat.isDigit_of_mem_toDigits (by decide) (by decide) hmem) (by decide)

/-- A line tells of the entry into one rule only. -/
theorem Enters.unique (h : Enters rule line) (h' : Enters name line) : name = rule := by
  obtain ⟨position, h⟩ := h
  obtain ⟨position', h'⟩ := h'
  rw [h, toList_enterLine, toList_enterLine] at h'
  simp only [List.cons.injEq, true_and] at h'
  have hname := eq_of_append_at h' (at_not_mem_toDigits _) (at_not_mem_toDigits _)
  exact (String.toList_inj.mp (List.append_cancel_right hname)).symm

/-- A line tells of the exit from one rule only. -/
theorem Exits.unique (h : Exits rule line) (h' : Exits name line) : name = rule := by
  have hat : ∀ result : String, result = "ok" ∨ result = "fail" → ∀ n : Nat,
      '@' ∉ Nat.toDigits 10 n ++ ' ' :: result.toList := by
    rintro result (rfl | rfl) n <;> simp [at_not_mem_toDigits]
  obtain ⟨position, result, hresult, h⟩ := h
  obtain ⟨position', result', hresult', h'⟩ := h'
  rw [h, toList_exitLine, toList_exitLine] at h'
  simp only [List.cons.injEq, true_and] at h'
  have hname := eq_of_append_at h' (hat _ hresult _) (hat _ hresult' _)
  exact (String.toList_inj.mp (List.append_cancel_right hname)).symm

/-- The line of an entry is marked by its first sign. -/
theorem Enters.take (h : Enters rule line) : (contentOf line).take 2 = ['>', ' '] := by
  obtain ⟨position, h⟩ := h
  rw [h, toList_enterLine]
  rfl

/-- The line of an exit is marked by its first sign. -/
theorem Exits.take (h : Exits rule line) : (contentOf line).take 2 = ['<', ' '] := by
  obtain ⟨position, result, _, h⟩ := h
  rw [h, toList_exitLine]
  rfl

/-- No line tells of an entry and of an exit. -/
theorem Enters.not_exits (h : Enters rule line) : ¬ Exits name line := by
  intro hexits
  have htake := h.take
  rw [hexits.take] at htake
  cases htake

end Texts

section Matching

variable {rule opening closing : String} {between before rest : List String}

/-- The first line that is not indented more deeply is the only one that can close an entry. -/
theorem existsUnique_closing {after : List String} (hrest : rest = between ++ closing :: after)
    (h : Encloses rule opening between closing) :
    ∃! between, ∃ closing after, rest = between ++ closing :: after ∧
      Encloses rule opening between closing := by
  refine ⟨between, ⟨closing, after, hrest, h⟩, ?_⟩
  rintro between' ⟨closing', after', hrest', h'⟩
  rcases append_eq_append_cons (hrest.symm.trans hrest') with ⟨part, rfl, _⟩ | ⟨part, rfl, htail⟩
  · have hdeep := h.deeper closing' (by simp)
    have hindent := h'.indent
    omega
  · cases part with
    | nil => simp
    | cons line part =>
      obtain ⟨rfl, _⟩ := List.cons_eq_cons.mp htail
      have hdeep := h'.deeper closing (by simp)
      have hindent := h.indent
      omega

/-- The last line that is not indented more deeply is the only one that an exit can close. -/
theorem existsUnique_opening {earlier : List String}
    (hbefore : before = earlier ++ opening :: between)
    (h : Encloses rule opening between closing) (hclosed : EntriesClosed between) :
    ∃! between, ∃ earlier opening, before = earlier ++ opening :: between ∧
      Encloses rule opening between closing ∧ EntriesClosed between := by
  refine ⟨between, ⟨earlier, opening, hbefore, h, hclosed⟩, ?_⟩
  rintro between' ⟨earlier', opening', hbefore', h', _⟩
  rcases append_eq_append_cons (hbefore.symm.trans hbefore') with
    ⟨part, rfl, hpart⟩ | ⟨part, rfl, hpart⟩
  · have hdeep := h'.deeper opening (by simp [hpart])
    have hindent := h.indent
    have hindent' := h'.indent
    omega
  · cases part with
    | nil => exact (List.cons_eq_cons.mp hpart).2.symm
    | cons line part =>
      obtain ⟨rfl, rfl⟩ := List.cons_eq_cons.mp hpart
      have hdeep := h.deeper opening' (by simp)
      have hindent := h.indent
      have hindent' := h'.indent
      omega

end Matching

section Lines

variable {rule opening closing line : String} {lines inner first second : List String}

/-- All entries of two rows of lines are closed if those of each row are. -/
theorem EntriesClosed.append (hfirst : EntriesClosed first) (hsecond : EntriesClosed second) :
    EntriesClosed (first ++ second) := by
  intro before opening rest hlines rule hrule
  rcases append_eq_append_cons hlines with ⟨rest', hpart, rfl⟩ | ⟨before', _, hpart⟩
  · obtain ⟨between, ⟨closing, after, rfl, h⟩, _⟩ := hfirst _ _ _ hpart rule hrule
    exact existsUnique_closing (by rw [List.append_assoc, List.cons_append]) h
  · exact hsecond _ _ _ hpart rule hrule

/-- A line that tells of no entry needs none to be closed. -/
theorem EntriesClosed.cons (hline : ∀ rule, ¬ Enters rule line) (hlines : EntriesClosed lines) :
    EntriesClosed (line :: lines) := by
  intro before opening rest heq rule hrule
  cases before with
  | nil =>
    obtain ⟨rfl, _⟩ := List.cons_eq_cons.mp heq
    exact absurd hrule (hline rule)
  | cons _ before => exact hlines before opening rest (List.cons_eq_cons.mp heq).2 rule hrule

/-- All exits of two rows of lines are opened if those of each row are. -/
theorem ExitsOpened.append (hfirst : ExitsOpened first) (hsecond : ExitsOpened second) :
    ExitsOpened (first ++ second) := by
  intro before closing after hlines rule hrule
  rcases append_eq_append_cons hlines with ⟨_, hpart, _⟩ | ⟨before', rfl, hpart⟩
  · exact hfirst _ _ _ hpart rule hrule
  · obtain ⟨between, ⟨earlier, opening, rfl, h, hclosed⟩, _⟩ := hsecond _ _ _ hpart rule hrule
    exact existsUnique_opening (List.append_assoc first earlier _).symm h hclosed

/-- A line that tells of no exit needs none to be opened. -/
theorem ExitsOpened.cons (hline : ∀ rule, ¬ Exits rule line) (hlines : ExitsOpened lines) :
    ExitsOpened (line :: lines) := by
  intro before closing after heq rule hrule
  cases before with
  | nil =>
    obtain ⟨rfl, _⟩ := List.cons_eq_cons.mp heq
    exact absurd hrule (hline rule)
  | cons _ before =>
    obtain ⟨rfl, htail⟩ := List.cons_eq_cons.mp heq
    obtain ⟨between, ⟨earlier, opening, rfl, h, hclosed⟩, _⟩ := hlines _ _ _ htail rule hrule
    exact existsUnique_opening (List.cons_append ..).symm h hclosed

/-- There is nothing to balance without lines. -/
theorem balancedLines_nil : BalancedLines [] :=
  ⟨fun _ _ _ h => absurd h (by simp), fun _ _ _ h => absurd h (by simp)⟩

/-- Balanced lines followed by balanced lines are balanced. -/
theorem BalancedLines.append (hfirst : BalancedLines first) (hsecond : BalancedLines second) :
    BalancedLines (first ++ second) :=
  ⟨hfirst.entries.append hsecond.entries, hfirst.exits.append hsecond.exits⟩

/-- Balanced lines between an entry and its exit are balanced together with these. -/
theorem BalancedLines.enclosed (hinner : BalancedLines inner)
    (h : Encloses rule opening inner closing) :
    BalancedLines (opening :: (inner ++ [closing])) := by
  -- Behind the opening line, the exit is just another line that opens nothing.
  have hentries : EntriesClosed (inner ++ [closing]) :=
    hinner.entries.append
      (balancedLines_nil.entries.cons fun _ henters => henters.not_exits h.exits)
  constructor
  · intro before line rest heq name hname
    cases before with
    | nil =>
      obtain ⟨rfl, rfl⟩ := List.cons_eq_cons.mp heq
      obtain rfl := h.enters.unique hname
      exact existsUnique_closing rfl h
    | cons _ before => exact hentries before line rest (List.cons_eq_cons.mp heq).2 name hname
  · intro before line after heq name hname
    cases before with
    | nil =>
      obtain ⟨rfl, _⟩ := List.cons_eq_cons.mp heq
      exact absurd hname h.enters.not_exits
    | cons _ before =>
      obtain ⟨rfl, htail⟩ := List.cons_eq_cons.mp heq
      rcases append_eq_append_cons htail with ⟨_, hpart, _⟩ | ⟨before', rfl, hpart⟩
      · obtain ⟨between, ⟨earlier, entry, rfl, hbetween, hclosed⟩, _⟩ :=
          hinner.exits _ _ _ hpart name hname
        exact existsUnique_opening (List.cons_append ..).symm hbetween hclosed
      · cases before' with
        | nil =>
          obtain ⟨rfl, _⟩ := List.cons_eq_cons.mp hpart
          obtain rfl := h.exits.unique hname
          rw [List.append_nil]
          exact existsUnique_opening (List.nil_append _).symm h hinner.entries
        | cons _ before' =>
          have hnil := (List.cons_eq_cons.mp hpart).2
          cases before' <;> cases hnil

end Lines

section Events

variable {source : List Char} {verbosity : Verbosity} {event : Event} {text : String} {depth : Nat}

/-- What the line about any other event begins with. -/
theorem Event.IsPlain.take_line? (hevent : event.IsPlain)
    (h : event.line? source verbosity = some text) :
    text.toList.take 2 ∈ [['+', ' '], ['-', ' '], ['<', '<']] := by
  cases event with
  | enter => exact hevent.elim
  | exit => exact hevent.elim
  | success start stop =>
    cases verbosity with
    | default => cases h
    | verbose =>
      cases h
      simp [toString]
    | veryVerbose =>
      cases h
      simp [toString]
  | failure expectation position =>
    simp only [Event.line?] at h
    split at h
    · cases h
    · cases h
      simp [toString]
  | backtrack source target =>
    cases h
    simp [toString]

/-- The line about such an event tells of no entry and of no exit. -/
theorem Event.IsPlain.line_of_no_call (hevent : event.IsPlain)
    (h : event.line? source verbosity = some text) (depth : Nat) :
    indentOf (indentation depth ++ text) = depth * 2 ∧
      (∀ rule, ¬ Enters rule (indentation depth ++ text)) ∧
      ∀ rule, ¬ Exits rule (indentation depth ++ text) := by
  have htake := hevent.take_line? h
  have hspace : text.toList.head? ≠ some ' ' := by
    intro hhead
    obtain ⟨rest, hrest⟩ := List.head?_eq_some_iff.mp hhead
    simp [hrest] at htake
  have hcontent : contentOf (indentation depth ++ text) = text.toList := contentOf_indented hspace
  refine ⟨indentOf_indented hspace, fun rule henters => ?_, fun rule hexits => ?_⟩
  · have hsign := henters.take
    rw [hcontent] at hsign
    simp [hsign] at htake
  · have hsign := hexits.take
    rw [hcontent] at hsign
    simp [hsign] at htake

/-- The number of calls under way behind events that begin while `depth` calls are. -/
def depthAfter (depth : Nat) (events : List Event) : Nat :=
  events.foldl (fun depth event => (event.depths depth).2) depth

/-- The depth behind an event is the one at which the others begin. -/
theorem depthAfter_cons (event : Event) (events : List Event) :
    depthAfter depth (event :: events) = depthAfter (event.depths depth).2 events := rfl

/-- The depth behind some events is the one at which more events begin. -/
theorem depthAfter_append (events more : List Event) :
    depthAfter depth (events ++ more) = depthAfter (depthAfter depth events) more :=
  List.foldl_append

/-- A transcript starts with the line of its first event, if there is one, and goes on at the depth
behind it. -/
theorem transcriptFrom_cons (event : Event) (events : List Event) :
    transcriptFrom source verbosity depth (event :: events) =
      ((event.line? source verbosity).map (indentation (event.depths depth).1 ++ ·)).toList ++
        transcriptFrom source verbosity (event.depths depth).2 events := by
  rw [transcriptFrom]
  cases event.line? source verbosity with
  | none => rfl
  | some line => rfl

/-- Further events continue a transcript at the depth that it has reached. -/
theorem transcriptFrom_append (events more : List Event) :
    transcriptFrom source verbosity depth (events ++ more) =
      transcriptFrom source verbosity depth events ++
        transcriptFrom source verbosity (depthAfter depth events) more := by
  induction events generalizing depth with
  | nil => rfl
  | cons event events ih =>
    rw [List.cons_append, transcriptFrom_cons, transcriptFrom_cons, ih, List.append_assoc]
    rfl

end Events

section Brackets

variable {source : List Char} {verbosity : Verbosity} {rule : String} {position depth : Nat}
  {event : Event} {events rest : List Event}

/-- An event other than a call or a return is written at the depth at which it occurs. -/
theorem depths_plain (hevent : event.IsPlain) : event.depths depth = (depth, depth) := by
  cases event with
  | enter => exact hevent.elim
  | exit => exact hevent.elim
  | success => rfl
  | failure => rfl
  | backtrack => rfl

/-- Calls that have come back leave the depth as it was. -/
theorem Bracketed.depthAfter_eq (h : Bracketed events) (depth : Nat) :
    depthAfter depth events = depth := by
  induction h generalizing depth with
  | nil => rfl
  | @plain event rest hevent _ ih =>
    rw [depthAfter_cons, depths_plain hevent, ih]
  | @call rule start stop matched inner rest _ _ ihinner ihrest =>
    simp only [depthAfter_cons, depthAfter_append, Event.depths, ihinner, Nat.add_sub_cancel,
      ihrest]

/-- The lines about a call that came back. -/
theorem transcriptFrom_call {start stop : Nat} {matched : Bool} {inner : List Event}
    (hinner : Bracketed inner) :
    transcriptFrom source verbosity depth
        (.enter rule start :: (inner ++ .exit rule stop matched :: rest)) =
      (indentation depth ++ s!"> {rule} @{start}") ::
        (transcriptFrom source verbosity (depth + 1) inner ++
          [indentation depth ++ (s!"< {rule} @{stop} " ++ if matched then "ok" else "fail")]) ++
        transcriptFrom source verbosity depth rest := by
  rw [transcriptFrom_cons]
  simp only [Event.depths, Event.line?, transcriptFrom_append, hinner.depthAfter_eq,
    transcriptFrom_cons, Nat.add_sub_cancel]
  rw [List.cons_append, List.append_assoc]
  rfl

/-- The line that is written for a call tells of an entry. -/
theorem enters_enterLine : Enters rule (indentation depth ++ s!"> {rule} @{position}") :=
  ⟨position, contentOf_indented (by rw [toList_enterLine]; simp)⟩

/-- The line of an entry is indented by the calls that were under way before it. -/
theorem indentOf_enterLine :
    indentOf (indentation depth ++ s!"> {rule} @{position}") = depth * 2 :=
  indentOf_indented (by rw [toList_enterLine]; simp)

/-- The line that is written for a return tells of an exit. -/
theorem exits_exitLine {result : String} (hresult : result = "ok" ∨ result = "fail") :
    Exits rule (indentation depth ++ (s!"< {rule} @{position} " ++ result)) :=
  ⟨position, result, hresult, contentOf_indented (by rw [toList_exitLine]; simp)⟩

/-- The line of an exit is indented by the calls that are under way behind it. -/
theorem indentOf_exitLine {result : String} :
    indentOf (indentation depth ++ (s!"< {rule} @{position} " ++ result)) = depth * 2 :=
  indentOf_indented (by rw [toList_exitLine]; simp)

/-- No line about calls that have come back stands farther to the left than the first one. -/
theorem Bracketed.le_indentOf (h : Bracketed events) (depth : Nat) :
    ∀ line ∈ transcriptFrom source verbosity depth events, depth * 2 ≤ indentOf line := by
  induction h generalizing depth with
  | nil => simp [transcriptFrom]
  | @plain event rest hevent _ ih =>
    rw [transcriptFrom_cons, depths_plain hevent, List.forall_mem_append]
    refine ⟨fun line hline => ?_, ih depth⟩
    obtain ⟨text, htext, rfl⟩ := Option.map_eq_some_iff.mp (Option.mem_toList.mp hline)
    exact Nat.le_of_eq (hevent.line_of_no_call htext depth).1.symm
  | @call rule start stop matched inner rest hinner _ ihinner ihrest =>
    rw [transcriptFrom_call hinner, List.forall_mem_append, List.forall_mem_cons,
      List.forall_mem_append, List.forall_mem_singleton, indentOf_enterLine, indentOf_exitLine]
    refine ⟨⟨Nat.le_refl _, fun line hline => ?_, Nat.le_refl _⟩, ihrest depth⟩
    have hdeep := ihinner (depth + 1) line hline
    omega

/-- The lines about calls that have come back are balanced. -/
theorem Bracketed.balancedLines (h : Bracketed events) (depth : Nat) :
    BalancedLines (transcriptFrom source verbosity depth events) := by
  induction h generalizing depth with
  | nil => exact balancedLines_nil
  | @plain event rest hevent _ ih =>
    rw [transcriptFrom_cons, depths_plain hevent]
    cases hline : event.line? source verbosity with
    | none => exact ih depth
    | some text =>
      obtain ⟨_, hnoEntry, hnoExit⟩ := hevent.line_of_no_call hline depth
      exact ⟨(ih depth).entries.cons hnoEntry, (ih depth).exits.cons hnoExit⟩
  | @call rule start stop matched inner rest hinner _ ihinner ihrest =>
    -- The lines of the body stand one level deeper than those of the entry and the exit.
    rw [transcriptFrom_call hinner]
    refine .append (.enclosed (ihinner (depth + 1)) (?_ : Encloses rule _ _ _)) (ihrest depth)
    refine ⟨enters_enterLine, exits_exitLine ?_, ?_, fun line hline => ?_⟩
    · cases matched <;> simp
    · rw [indentOf_exitLine, indentOf_enterLine]
    · have hdeep := hinner.le_indentOf (depth + 1) line hline
      rw [indentOf_enterLine]
      omega

/-- In the lines about an unfinished parse, every exit belongs to an entry. -/
theorem Unfinished.exitsOpened (h : Unfinished events) (depth : Nat) :
    ExitsOpened (transcriptFrom source verbosity depth events) := by
  induction h generalizing depth with
  | done hdone => exact (hdone.balancedLines depth).exits
  | @call rule start before inner hbefore _ ih =>
    rw [transcriptFrom_append, hbefore.depthAfter_eq, transcriptFrom_cons]
    exact (hbefore.balancedLines depth).exits.append
      (ExitsOpened.cons (fun _ => enters_enterLine.not_exits) (ih (depth + 1)))

end Brackets

namespace Interpreter

/-- The transcript of a parse that ends with a result is a balanced nesting, and behind it the depth
is that from before. In a parse that ends with an error, every exit closes the latest entry that is
not closed yet, and the transcript is the beginning of a balanced nesting. -/
theorem transcript_balanced (i : Interpreter) (rule : RuleId) (input : List Char)
    (verbosity : Verbosity) (depth : Nat) :
    (∀ parse events, i.parseFrom rule input = .ok (parse, events) → i.events rule input = events ∧
      BalancedLines (transcriptFrom input verbosity depth events) ∧
        depthAfter depth events = depth) ∧
      ∀ error, i.parseFrom rule input = .error error →
        let lines := transcriptFrom input verbosity depth (i.events rule input)
        ExitsOpened lines ∧ ∃ rest, BalancedLines (lines ++ rest) := by
  constructor
  · intro parse events hparse
    have hbracketed := bracketed_of_parseFrom hparse
    exact ⟨events_eq_of_parseFrom hparse, hbracketed.balancedLines depth,
      hbracketed.depthAfter_eq depth⟩
  · intro _ _
    have hunfinished := unfinished_events i rule input
    obtain ⟨more, hmore⟩ := hunfinished.exists_append
    refine ⟨hunfinished.exitsOpened depth,
      transcriptFrom input verbosity (depthAfter depth (i.events rule input)) more, ?_⟩
    rw [← transcriptFrom_append]
    exact hmore.balancedLines depth

/-- A word with or without an exclamation mark behind it. -/
def exclamation (limit : Nat) : Interpreter where
  program :=
    ⟨[⟨"Root", .choice (.sequence (.call ⟨1⟩) (.literal "!")) (.call ⟨1⟩), true⟩,
      ⟨"Word", .repetition 1 none (.choice (.literal "a") (.literal "b")), true⟩], ⟨0⟩, by decide⟩
  patterns := .empty
  limit := limit
  compiled := rfl

/-- Two calls of a rule are told apart by the lines between them. If calls must not be nested, the
entry into the first rule stays open. -/
theorem exclamation_transcripts :
    (∃ parse events, (exclamation 2).parseFrom ⟨0⟩ "ab".toList = .ok (parse, events) ∧
      transcriptFrom "ab".toList .default 0 events =
        ["> Root @0", "  > Word @0", "  < Word @2 ok", "  << 2 -> 0", "  > Word @0",
          "  < Word @2 ok", "< Root @2 ok"] ∧
      BalancedLines (transcriptFrom "ab".toList .default 0 events) ∧ depthAfter 0 events = 0) ∧
    (exclamation 1).parseFrom ⟨0⟩ "ab".toList = .error (.recursionLimitExceeded 1) ∧
      transcriptFrom "ab".toList .default 0 ((exclamation 1).events ⟨0⟩ "ab".toList) =
        ["> Root @0"] ∧
      ∃ rest, BalancedLines (["> Root @0"] ++ rest) := by
  constructor
  · have hparse : (exclamation 2).parseFrom ⟨0⟩ "ab".toList = .ok (_, _) := rfl
    obtain ⟨_, hbalanced, hdepth⟩ :=
      (transcript_balanced (exclamation 2) ⟨0⟩ "ab".toList .default 0).1 _ _ hparse
    exact ⟨_, _, hparse, by decide +kernel, hbalanced, hdepth⟩
  · have hparse : (exclamation 1).parseFrom ⟨0⟩ "ab".toList =
        .error (.recursionLimitExceeded 1) := rfl
    have hlines : transcriptFrom "ab".toList .default 0
        ((exclamation 1).events ⟨0⟩ "ab".toList) = ["> Root @0"] := by decide +kernel
    have hprefix := (transcript_balanced (exclamation 1) ⟨0⟩ "ab".toList .default 0).2 _ hparse
    rw [hlines] at hprefix
    exact ⟨hparse, hlines, hprefix.2⟩

end Interpreter

end Peg

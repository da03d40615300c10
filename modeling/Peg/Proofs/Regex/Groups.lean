import Peg.Regex.Quote

/-!
# The groups of a pattern

A pattern is read from left to right to find its capturing groups, which are numbered in the order
in which they open. Parentheses count unless they are escaped, inside brackets or in a comment, and
what stands behind an opening parenthesis decides whether the group captures. The group that was
opened last is the only one that a character can change, so a part that can be read on its own is
read in the same way inside any groups.
-/

namespace Peg.Regex

/-- Where the reader of a pattern is. Brackets can be nested, and `depth` of them are open around
those that are being read. -/
inductive Place where
  /-- Between two parts of the pattern. -/
  | between
  /-- In a comment, which ends with the line. -/
  | comment
  | escape
  /-- Behind an opening parenthesis, and behind `(?`, `(?P` and `(?<`. -/
  | opening
  | question
  | letterP
  | angle
  /-- In the name of a group. -/
  | name
  /-- Among flags, behind a hyphen or not. Comments will be skipped or not. -/
  | flags (negated verbose : Bool)
  /-- Behind an opening bracket, and behind the sign that negates it. -/
  | bracketStart (depth : Nat)
  | bracketNegated (depth : Nat)
  | bracket (depth : Nat)
  | bracketEscape (depth : Nat)
  deriving DecidableEq, Repr

/-- A group that is open: how it was opened, what has been read of it since then, and the capturing
groups that have been found in it. -/
structure Frame where
  mark : List Char
  text : List Char
  groups : List String
  /-- Whether comments are skipped. -/
  verbose : Bool
  deriving DecidableEq, Repr

namespace Frame

/-- Nothing has been read. -/
def empty : Frame :=
  ⟨[], [], [], false⟩

/-- Whether a group has a number: it has if it was opened by a parenthesis alone or has a name. -/
def captures (f : Frame) : Bool :=
  f.mark = ['('] || (f.mark.getLast? = some '>' && f.mark ≠ ['(', '?', '>'])

/-- Read a character of a group. -/
def read (c : Char) (f : Frame) : Frame :=
  { f with text := f.text ++ [c] }

/-- Read a character that belongs to the opening of a group. -/
def lead (c : Char) (f : Frame) : Frame :=
  { f with mark := f.mark ++ [c] }

/-- Close a group that is inside another one. It was opened before the groups in it were. -/
def absorb (f inner : Frame) : Frame :=
  { f with
    text := f.text ++ (inner.mark ++ inner.text ++ [')'])
    groups := f.groups ++
      ((if inner.captures then [String.ofList inner.text] else []) ++ inner.groups) }

end Frame

/-- What a character does to the open groups. -/
inductive Move where
  /-- The character belongs to the innermost group. -/
  | read (next : Place)
  /-- The character belongs to the opening of the innermost group. -/
  | lead (next : Place)
  /-- The character ends flags that are for the innermost group. -/
  | begin (verbose : Bool)
  /-- The character opens a group, or closes one. -/
  | push
  | pop
  /-- The character ends flags that are for the group around them. -/
  | set (verbose : Bool)
  deriving DecidableEq, Repr

namespace Place

/-- A character between two parts. -/
def moveBetween (verbose : Bool) : Char → Move
  | '\\' => .read .escape
  | '(' => .push
  | ')' => .pop
  | '[' => .read (.bracketStart 0)
  | '#' => .read (if verbose then .comment else .between)
  | _ => .read .between

/-- A character among flags. -/
def moveFlag (negated verbose : Bool) (c : Char) : Option Move :=
  match c with
  | ':' => some (.begin verbose)
  | ')' => some (.set verbose)
  | '-' => some (.lead (.flags true verbose))
  | 'x' => some (.lead (.flags negated !negated))
  | _ => if c.isAlpha then some (.lead (.flags negated verbose)) else none

/-- A character inside brackets. A closing bracket that is the first one stands for itself. -/
def moveBracket (first : Bool) (depth : Nat) (c : Char) : Move :=
  if c = '[' then .read (.bracketStart (depth + 1))
  else if c = '\\' then .read (.bracketEscape depth)
  else if c = ']' && !first then
    match depth with
    | 0 => .read .between
    | outer + 1 => .read (.bracket outer)
  else .read (.bracket depth)

/-- What a character does at a place, unless it cannot stand there. -/
def move? (verbose : Bool) (c : Char) : Place → Option Move
  | .between => some (moveBetween verbose c)
  | .comment => some (.read (if c = '\n' then .between else .comment))
  | .escape => some (.read .between)
  | .opening => some (if c = '?' then .lead .question else moveBetween verbose c)
  | .question =>
    if [':', '=', '!', '>'].contains c then some (.lead .between)
    else if c = '<' then some (.lead .angle)
    else if c = 'P' then some (.lead .letterP)
    else moveFlag false verbose c
  | .letterP => if c = '<' then some (.lead .name) else none
  | .angle => some (.lead (if c = '=' || c = '!' then .between else .name))
  | .name => some (.lead (if c = '>' then .between else .name))
  | .flags negated verbose => moveFlag negated verbose c
  | .bracketStart depth =>
    some (if c = '^' then .read (.bracketNegated depth) else moveBracket true depth c)
  | .bracketNegated depth => some (moveBracket true depth c)
  | .bracket depth => some (moveBracket false depth c)
  | .bracketEscape depth => some (.read (.bracket depth))

end Place

/-- The place of the reader and the open groups around it, innermost first. The last one stands for
the whole pattern. -/
structure Reading where
  place : Place
  frames : List Frame
  deriving DecidableEq, Repr

namespace Reading

/-- What has been read as one group and the groups around that. -/
def within (f : Frame) (outer : List Frame) : Reading :=
  ⟨.between, f :: outer⟩

/-- Whether comments are skipped in the innermost group. -/
def isVerbose (r : Reading) : Bool :=
  (r.frames.head?.map Frame.verbose).getD false

/-- Do what a character does. -/
def apply (c : Char) (r : Reading) (m : Move) : Option Reading :=
  match m, r.frames with
  | .read next, f :: fs => some ⟨next, f.read c :: fs⟩
  | .lead next, f :: fs => some ⟨next, f.lead c :: fs⟩
  | .begin verbose, f :: fs => some ⟨.between, { f.lead c with verbose := verbose } :: fs⟩
  | .push, f :: fs => some ⟨.opening, ⟨[c], [], [], f.verbose⟩ :: f :: fs⟩
  | .pop, inner :: f :: fs => some ⟨.between, f.absorb inner :: fs⟩
  | .set verbose, inner :: f :: fs =>
    some ⟨.between, { f.absorb inner with verbose := verbose } :: fs⟩
  | _, _ => none

/-- Read a character. -/
def step (r : Reading) (c : Char) : Option Reading :=
  (r.place.move? r.isVerbose c).bind (r.apply c)

/-- Read all characters of a text. -/
def reads (r : Reading) (cs : List Char) : Option Reading :=
  cs.foldlM step r

end Reading

/-- The texts of the capturing groups of a pattern, in the order of their numbers. There are none if
the pattern ends too early or closes more groups than it opens. -/
def capturingGroups? (pattern : String) : Option (List String) :=
  match (Reading.within .empty []).reads pattern.toList with
  | some ⟨.between, [f]⟩ | some ⟨.comment, [f]⟩ => some f.groups
  | _ => none

example : capturingGroups? "a(b(?:c)[(\\])](?<n>d))\\(" = some ["b(?:c)[(\\])](?<n>d)", "d"] := by
  decide

namespace Frame

/-- What has been read of a group before and then of a pattern on its own, as one group. -/
def extend (base f : Frame) : Frame :=
  ⟨base.mark ++ f.mark, base.text ++ f.text, base.groups ++ f.groups, f.verbose⟩

/-- Groups the last of which goes on with `base`, which has others around it. -/
def graft (base : Frame) (outer : List Frame) : List Frame → List Frame
  | [] => []
  | [f] => base.extend f :: outer
  | inner :: f :: fs => inner :: graft base outer (f :: fs)

variable (base f inner : Frame) (c : Char)

/-- A group goes on with nothing outside of verbose mode. -/
@[simp] theorem extend_empty (h : base.verbose = false) : base.extend empty = base := by
  simp [extend, empty, ← h]

/-- A character that is read on its own is read in the group as well. -/
@[simp] theorem extend_read : base.extend (f.read c) = (base.extend f).read c := by
  simp [extend, read]

/-- A character of the opening is read in the group as well. -/
@[simp] theorem extend_lead : base.extend (f.lead c) = (base.extend f).lead c := by
  simp [extend, lead]

/-- A group that is closed inside the pattern is closed inside the group as well. -/
@[simp] theorem extend_absorb : base.extend (f.absorb inner) = (base.extend f).absorb inner := by
  simp [extend, absorb, List.append_assoc]

/-- The mode of a group is the latest one. -/
@[simp] theorem verbose_extend : (base.extend f).verbose = f.verbose := rfl

/-- A change of the mode is one in the group as well. -/
@[simp] theorem extend_with_verbose (verbose : Bool) :
    base.extend { f with verbose := verbose } = { base.extend f with verbose := verbose } := rfl

end Frame

namespace Reading

/-- What was read on its own, as a part of a group. -/
def onto (base : Frame) (outer : List Frame) (r : Reading) : Reading :=
  ⟨r.place, Frame.graft base outer r.frames⟩

variable {base : Frame} {outer : List Frame} {r r' : Reading} {c : Char} {m : Move}

/-- Inside of a group the mode is the same as on its own. -/
theorem isVerbose_onto : (r.onto base outer).isVerbose = r.isVerbose := by
  obtain ⟨place, frames⟩ := r
  rcases frames with _ | ⟨f, _ | ⟨f', fs⟩⟩ <;> rfl

/-- No move looks at what was read before. -/
theorem apply_onto (h : r.apply c m = some r') :
    (r.onto base outer).apply c m = some (r'.onto base outer) := by
  obtain ⟨place, frames⟩ := r
  rcases frames with _ | ⟨f, _ | ⟨f', _ | ⟨f'', fs⟩⟩⟩ <;> cases m <;> cases h <;>
    simp [apply, onto, Frame.graft]

/-- A character that can be read on its own can be read inside of a group as well. -/
theorem step_onto (h : r.step c = some r') :
    (r.onto base outer).step c = some (r'.onto base outer) := by
  obtain ⟨m, hm, happly⟩ := Option.bind_eq_some_iff.mp h
  rw [step, isVerbose_onto]
  exact Option.bind_eq_some_iff.mpr ⟨m, hm, apply_onto happly⟩

/-- What can be read on its own is read in the same way inside any groups. -/
theorem reads_onto {cs : List Char} (h : r.reads cs = some r') :
    (r.onto base outer).reads cs = some (r'.onto base outer) := by
  induction cs generalizing r with
  | nil =>
    cases h
    rfl
  | cons c cs ih =>
    obtain ⟨next, hnext, hrest⟩ := Option.bind_eq_some_iff.mp h
    exact Option.bind_eq_some_iff.mpr ⟨_, step_onto hnext, ih hrest⟩

/-- Texts in a row are read one after the other. -/
theorem reads_append (r : Reading) (cs cs' : List Char) :
    r.reads (cs ++ cs') = (r.reads cs).bind (·.reads cs') :=
  List.foldlM_append

end Reading

/-- A text can be read on its own, and it has the given capturing groups. -/
def HasGroups (cs : List Char) (groups : List String) : Prop :=
  (Reading.within .empty []).reads cs = some (.within ⟨[], cs, groups, false⟩ [])

/-- It can be decided which capturing groups a text has. -/
instance (cs : List Char) (groups : List String) : Decidable (HasGroups cs groups) :=
  inferInstanceAs (Decidable (_ = _))

namespace HasGroups

variable {cs cs' : List Char} {groups groups' : List String}

/-- A text that can be read on its own adds its groups to those of the group that it is in. -/
theorem inside (h : HasGroups cs groups) {f : Frame} (hf : f.verbose = false)
    (outer : List Frame) : (Reading.within f outer).reads cs =
      some (.within ⟨f.mark, f.text ++ cs, f.groups ++ groups, false⟩ outer) := by
  have hstart : (Reading.within .empty []).onto f outer = .within f outer := by
    simp [Reading.onto, Reading.within, Frame.graft, hf]
  have hread : ((Reading.within .empty []).onto f outer).reads cs =
      some ((Reading.within ⟨[], cs, groups, false⟩ []).onto f outer) := Reading.reads_onto h
  rw [hstart] at hread
  simpa [Reading.onto, Reading.within, Frame.graft, Frame.extend] using hread

/-- The groups of a text are found when it is read as a pattern. -/
theorem capturingGroups? {pattern : String} (h : HasGroups pattern.toList groups) :
    Regex.capturingGroups? pattern = some groups := by
  rw [Regex.capturingGroups?, h]
  rfl

/-- Nothing has no capturing groups. -/
theorem nil : HasGroups [] [] := rfl

/-- The capturing groups of texts in a row are those of the first and then those of the second. -/
theorem append (h : HasGroups cs groups) (h' : HasGroups cs' groups') :
    HasGroups (cs ++ cs') (groups ++ groups') := by
  rw [HasGroups, Reading.reads_append, h, Option.bind_some]
  exact h'.inside rfl []

/-- A body with a closing parenthesis behind it ends the group that was opened before it. -/
theorem closed (h : HasGroups cs groups) (mark : List Char) :
    (Reading.within ⟨mark, [], [], false⟩ [.empty]).reads (cs ++ [')']) =
      some (.within (Frame.empty.absorb ⟨mark, cs, groups, false⟩) []) := by
  rw [Reading.reads_append, h.inside rfl, Option.bind_some]
  rfl

/-- A group without a number has the groups of its body. -/
theorem group (h : HasGroups cs groups) {mark : List Char}
    (hmark : (Reading.within .empty []).reads mark = some (.within ⟨mark, [], [], false⟩ [.empty]))
    (hplain : (⟨mark, cs, groups, false⟩ : Frame).captures = false) :
    HasGroups (mark ++ cs ++ [')']) groups := by
  rw [HasGroups, List.append_assoc, Reading.reads_append, hmark, Option.bind_some, h.closed]
  simp [Frame.absorb, Frame.empty, hplain]

/-- Behind an opening parenthesis, any character but a question mark is the first one of a body. -/
theorem step_opening {frames : List Frame} {c : Char} (hne : c ≠ '?') :
    (Reading.mk .opening frames).step c = (Reading.mk .between frames).step c := by
  simp only [Reading.step, Place.move?, if_neg hne, Option.bind_some]
  rfl

/-- A group with a number comes before the groups of its body. The body must not look like the rest
of an opening. -/
theorem capture (h : HasGroups cs groups) (hhead : cs.head? ≠ some '?') :
    HasGroups ('(' :: cs ++ [')']) (String.ofList cs :: groups) := by
  have hopening : (Reading.mk .opening [⟨['('], [], [], false⟩, .empty]).reads (cs ++ [')']) =
      (Reading.within ⟨['('], [], [], false⟩ [.empty]).reads (cs ++ [')']) := by
    cases cs with
    | nil => rfl
    | cons c cs =>
      have hne : c ≠ '?' := by simpa using hhead
      simp only [Reading.reads, List.cons_append, List.foldlM_cons, step_opening hne]
      rfl
  have hpush : (Reading.within .empty []).reads ['('] =
      some ⟨.opening, [⟨['('], [], [], false⟩, .empty]⟩ := rfl
  have hcaptures : (⟨['('], cs, groups, false⟩ : Frame).captures = true := rfl
  rw [HasGroups, List.cons_append, ← List.singleton_append, Reading.reads_append, hpush,
    Option.bind_some, hopening, h.closed]
  simp [Frame.absorb, Frame.empty, hcaptures]

/-- Characters without a meaning of their own have no groups. -/
theorem plain (h : ∀ c ∈ cs, c ∉ ['\\', '(', ')', '[', '#']) : HasGroups cs [] := by
  induction cs with
  | nil => exact .nil
  | cons c cs ih =>
    obtain ⟨hc, hcs⟩ := List.forall_mem_cons.mp h
    have hmove : Place.moveBetween false c = .read .between := by
      unfold Place.moveBetween
      split <;> simp_all
    have hchar : HasGroups [c] [] := by
      have hstep : (Reading.within .empty []).step c =
          (Reading.within .empty []).apply c (.read .between) :=
        congrArg (fun m => (some m).bind ((Reading.within .empty []).apply c)) hmove
      rw [HasGroups, Reading.reads, List.foldlM_cons, hstep]
      rfl
    exact hchar.append (ih hcs)

/-- A quoted text has no groups, and it does not begin with a question mark. -/
theorem quote (text : String) : HasGroups (Regex.quote text).toList [] := by
  rw [Regex.quote, String.toList_ofList]
  induction text.toList with
  | nil => exact .nil
  | cons c cs ih =>
    have hchar : HasGroups (quoteChar c) [] := by
      rw [quoteChar]
      split
      · rfl
      next hmeta =>
        refine plain fun d hd => ?_
        obtain rfl := List.mem_singleton.mp hd
        have hsub : ['\\', '(', ')', '[', '#'] ⊆ metaCharacters := by decide
        exact fun hmem => hmeta (List.contains_iff_mem.mpr (hsub hmem))
    exact hchar.append ih

end HasGroups

end Peg.Regex

import Mathlib.Data.List.Nodup
import Peg.Proofs.Parse.Output
import Peg.Proofs.Parse.Silence

/-!
# The tree of the start rule

A result offers the first node of its root as the tree of the start rule. If the start rule is
captured then this is its own node, and it spans whatever was matched. If not, its output stands in
the root directly, and the first node there may be that of another rule which it calls without
dropping or collapsing the output.
-/

namespace Peg

open Peg.Text

/-- Whether the nodes of the operands are nodes of the combinator as well. -/
def Combinator.HandsOn : Combinator → Prop
  | .not _ | .drop _ | .terminal _ _ => False
  | .literal _ | .pattern _ _ | .sequence _ _ | .choice _ _ | .repetition _ _ _
  | .errorName _ _ _ | .call _ => True

namespace Program

/-- A captured rule whose nodes a combinator may hand on to its caller: it is called outside of
whatever throws nodes away, directly or by rules that are not captured. -/
inductive Surfaces (program : Program) : Combinator → Rule → Prop where
  | operand {c d : Combinator} {rule : Rule} : c.HandsOn → d ∈ c.operands →
      program.Surfaces d rule → program.Surfaces c rule
  | captured {id : RuleId} {rule : Rule} : program.rule? id = some rule → rule.capture = true →
      program.Surfaces (.call id) rule
  | spliced {id : RuleId} {rule other : Rule} : program.rule? id = some rule →
      rule.capture = false → program.Surfaces rule.body other → program.Surfaces (.call id) other

variable {program : Program} {c : Combinator} {rule other : Rule}

/-- A rule that is surfaced belongs to the program and is captured. -/
theorem Surfaces.of_captured (h : program.Surfaces c rule) :
    rule ∈ program.rules ∧ rule.capture = true := by
  induction h with
  | operand _ _ _ ih => exact ih
  | captured hrule hcapture => exact ⟨List.mem_of_getElem? hrule, hcapture⟩
  | spliced _ _ _ ih => exact ih

/-- A call of a rule that is not captured surfaces what the body of the rule does. -/
theorem Surfaces.of_call {id : RuleId} (h : program.Surfaces (.call id) other)
    (hrule : program.rule? id = some rule) (hcapture : rule.capture = false) :
    program.Surfaces rule.body other := by
  cases h with
  | operand _ hd => cases hd
  | captured hrule' hcapture' =>
    obtain rfl := Option.some.inj (hrule.symm.trans hrule')
    rw [hcapture] at hcapture'
    cases hcapture'
  | spliced hrule' _ hbody =>
    obtain rfl := Option.some.inj (hrule.symm.trans hrule')
    exact hbody

/-- Rules of a program that have the same name are the same rule. -/
theorem eq_of_name_eq (hrule : rule ∈ program.rules) (hother : other ∈ program.rules)
    (h : rule.name = other.name) : rule = other := by
  have hdistinct := (distinct_of_ruleDefect?_eq_none (defect?_eq_none program.sound).2).2
  exact List.inj_on_of_nodup_map hdistinct hrule hother h

end Program

/-- A node is a leaf, or it stands for a rule that a combinator surfaces. -/
def ParseTree.SurfacedBy (program : Program) (c : Combinator) (t : ParseTree) : Prop :=
  t.isLeaf = true ∨ ∃ rule, program.Surfaces c rule ∧ t.rule = some rule.name

/-- What an operand surfaces is surfaced by a combinator that hands on its nodes. -/
theorem ParseTree.SurfacedBy.operand {program : Program} {c d : Combinator} {t : ParseTree}
    (h : t.SurfacedBy program d) (hc : c.HandsOn) (hd : d ∈ c.operands) :
    t.SurfacedBy program c :=
  h.imp_right fun ⟨rule, hrule, hname⟩ => ⟨rule, .operand hc hd hrule, hname⟩

namespace Step

/-- Among the nodes behind the step there are only those from before and such as the combinator
surfaces. -/
def Exposes (program : Program) (c : Combinator) (step : Step) : Prop :=
  ∀ (s : ParseState) (node : ParseTree), ∀ t ∈ (step s node).node.children,
    t ∈ node.children ∨ t.SurfacedBy program c

variable {program : Program} {e : Setting} {left right body : Combinator} {l r b : Step}

/-- What is collected in a node of its own is surfaced. -/
theorem Exposes.of_empty (h : b.Exposes program body) {s : ParseState} {t : ParseTree}
    (ht : t ∈ (b s .empty).node.children) : t.SurfacedBy program body :=
  (h s .empty t ht).resolve_left List.not_mem_nil

/-- To halt at once adds no node. -/
theorem exposes_halt (c : Combinator) (error : ParseError) : (halt error).Exposes program c :=
  fun _ _ _ ht => .inl ht

/-- Accepted input adds no node but a leaf. -/
theorem exposes_accept {c : Combinator} {s : ParseState} {stop : Nat} {node t : ParseTree}
    (ht : t ∈ (accept e stop s node).node.children) :
    t ∈ node.children ∨ t.SurfacedBy program c := by
  rcases List.mem_append.mp ht with ht | ht
  · exact .inl ht
  · obtain rfl := List.mem_singleton.mp ht
    exact .inr (.inl rfl)

/-- A literal adds no node but a leaf. -/
theorem exposes_literal (text : String) : (literal e text).Exposes program (.literal text) := by
  intro s node t ht
  unfold literal at ht
  split at ht
  · exact exposes_accept ht
  · exact .inl ht

/-- A pattern adds no node but a leaf. -/
theorem exposes_pattern (id : Nat) (source : String) (times : Nat) :
    (pattern e id).Exposes program (.pattern source times) := by
  intro s node t ht
  unfold pattern at ht
  split at ht
  · exact .inl ht
  · exact exposes_accept ht
  · exact .inl ht

/-- A sequence adds the nodes that its parts add. -/
theorem Exposes.sequence (hleft : l.Exposes program left) (hright : r.Exposes program right) :
    (Step.sequence l r).Exposes program (.sequence left right) := by
  intro s node t ht
  simp only [Step.sequence] at ht
  split at ht
  · exact .inl ht
  · exact .inl ht
  · split at ht
    · exact .inl ht
    · exact .inl ht
    · rcases List.mem_append.mp ht with ht | ht
      · exact .inl ht
      right
      rcases hright _ _ t ht with ht | ht
      · exact (hleft.of_empty ht).operand trivial (.head _)
      · exact ht.operand trivial (.tail _ (.head _))

/-- A choice adds the nodes that its alternatives add. -/
theorem Exposes.choice (hleft : l.Exposes program left) (hright : r.Exposes program right) :
    (Step.choice l r).Exposes program (.choice left right) := by
  intro s node t ht
  simp only [Step.choice] at ht
  split at ht
  · exact .inl ht
  · rcases List.mem_append.mp ht with ht | ht
    · exact .inl ht
    · exact .inr ((hleft.of_empty ht).operand trivial (.head _))
  · split at ht
    · exact .inl ht
    · rcases List.mem_append.mp ht with ht | ht
      · exact .inl ht
      · exact .inr ((hright.of_empty ht).operand trivial (.tail _ (.head _)))
    · exact .inl ht

/-- Every turn of a loop adds nodes that the body surfaces. -/
theorem Exposes.loop (hbody : b.Exposes program body) (max : Option Nat) (fuel count : Nat)
    (s : ParseState) (node : ParseTree) :
    ∀ t ∈ (Step.loop max b fuel count s node).node.children,
      t ∈ node.children ∨ t.SurfacedBy program body := by
  induction fuel generalizing count s node with
  | zero => exact fun t ht => .inl ht
  | succ fuel ih =>
    intro t ht
    have hturn (ht : t ∈ (node.splice (b s .empty).node).children) :
        t ∈ node.children ∨ t.SurfacedBy program body :=
      (List.mem_append.mp ht).imp_right hbody.of_empty
    simp only [Step.loop] at ht
    split at ht
    · split at ht
      · exact .inl ht
      · exact .inl ht
      · split at ht
        · exact hturn ht
        · exact (ih _ _ _ t ht).elim hturn .inr
    · exact .inl ht

/-- A repetition adds the nodes that its turns add. -/
theorem Exposes.repetition (hbody : b.Exposes program body) (min : Nat) (max : Option Nat) :
    (Step.repetition e min max b).Exposes program (.repetition min max body) := by
  intro s node t ht
  simp only [Step.repetition] at ht
  split at ht
  · exact .inl ht
  · split at ht
    · exact .inl ht
    · rcases List.mem_append.mp ht with ht | ht
      · exact .inl ht
      · have hloop := (hbody.loop max _ 0 s .empty t ht).resolve_left List.not_mem_nil
        exact .inr (hloop.operand trivial (.head _))

/-- A lookahead adds no node. -/
theorem exposes_not : (Step.not b).Exposes program (.not body) :=
  fun s node _ ht => .inl (node_not s node ▸ ht)

/-- A part without output adds no node. -/
theorem exposes_drop : (Step.drop b).Exposes program (.drop body) :=
  fun _ _ _ ht => .inl ht

/-- A terminal adds no node but a leaf. -/
theorem exposes_terminal (decode : Bool) :
    (Step.terminal e decode b).Exposes program (.terminal decode body) := by
  intro s node t ht
  simp only [Step.terminal] at ht
  split at ht
  · exact .inl ht
  · exact .inl ht
  · exact .inl ht

/-- A label adds no node of its own. -/
theorem Exposes.errorName (hbody : b.Exposes program body) (label : String) (promote : Bool) :
    (Step.errorName label promote b).Exposes program (.errorName label promote body) :=
  fun s node t ht => (hbody { s with labels := ⟨label, promote, s.position⟩ :: s.labels } node t
    ht).imp_right fun h => h.operand trivial (.head _)

/-- The node that is handed to a step keeps its rule and its start. -/
theorem Atomic.rule_start (h : b.Atomic) (s : ParseState) (node : ParseTree) :
    (b s node).node.rule = node.rule ∧ (b s node).node.start = node.start := by
  obtain ⟨effect, heffect, _⟩ := h.effect s
  rw [heffect]
  cases effect with
  | matched => exact ⟨rfl, rfl⟩
  | failed => exact ⟨rfl, rfl⟩
  | halted => exact ⟨rfl, rfl⟩

/-- A captured rule adds its node, and any other rule the nodes that its body adds. -/
theorem Exposes.call {id : RuleId} {rule : Rule} (hrule : program.rule? id = some rule)
    (hatomic : b.Atomic) (hbody : b.Exposes program rule.body) :
    (Step.call e rule.name rule.capture b).Exposes program (.call id) := by
  intro s node t ht
  rcases Nat.lt_or_ge s.depth e.limit with hroom | hlimit
  · rw [call_of_lt hroom] at ht
    dsimp only at ht
    split at ht
    · exact .inl ht
    · exact .inl ht
    · cases hcapture : rule.capture with
      | true =>
        rw [hcapture, if_pos rfl] at ht
        rcases List.mem_append.mp ht with ht | ht
        · exact .inl ht
        · obtain rfl := List.mem_singleton.mp ht
          exact .inr (.inr ⟨rule, .captured hrule hcapture, (hatomic.rule_start _ _).1⟩)
      | false =>
        rw [hcapture, if_neg (by simp)] at ht
        rcases List.mem_append.mp ht with ht | ht
        · exact .inl ht
        · have hinside := (hbody _ _ t ht).resolve_left List.not_mem_nil
          exact .inr (hinside.imp_right fun ⟨other, hother, hname⟩ =>
            ⟨other, .spliced hrule hcapture hother, hname⟩)
  · rw [call_of_le hlimit] at ht
    exact .inl ht

end Step

namespace Interpreter

/-- In every run, a combinator adds leaves and nodes of rules that it surfaces, and nothing else. -/
theorem compositional_exposes (e : Setting) (program : Program) :
    Compositional e program fun c step => step.Atomic ∧ step.Exposes program c where
  literal text := ⟨Step.atomic_literal e text, Step.exposes_literal text⟩
  pattern _ := ⟨Step.atomic_pattern e _, Step.exposes_pattern _ _ _⟩
  uncompiled _ := ⟨Step.atomic_halt _, Step.exposes_halt _ _⟩
  sequence hleft hright := ⟨hleft.1.sequence hright.1, hleft.2.sequence hright.2⟩
  choice hleft hright := ⟨hleft.1.choice hright.1, hleft.2.choice hright.2⟩
  repetition min max _ _ hbody :=
    ⟨hbody.1.repetition e min max, hbody.2.repetition min max⟩
  not hbody := ⟨hbody.1.not, Step.exposes_not⟩
  drop hbody := ⟨hbody.1.drop, Step.exposes_drop⟩
  terminal decode _ _ hbody := ⟨hbody.1.terminal e decode, Step.exposes_terminal decode⟩
  errorName label promote _ _ hbody :=
    ⟨hbody.1.errorName label promote, hbody.2.errorName label promote⟩
  call hrule hbody := ⟨hbody.1.call e _ _, hbody.2.call hrule hbody.1⟩
  exhausted _ := ⟨Step.atomic_halt _, Step.exposes_halt _ _⟩

variable {i : Interpreter} {id : RuleId} {rule : Rule} {input : List Char}

/-- A start rule that matches has collected its output in a node of its own, from the start of the
input up to the cursor. This node goes into the root if the rule is captured. -/
theorem outcome_of_matched (hrule : i.program.rule? id = some rule)
    (hmatched : (i.outcome id input).verdict = .matched) :
    ∃ own : ParseTree, own.rule = some rule.name ∧ own.start = 0 ∧
      own.stop = (i.outcome id input).state.position ∧
      (i.outcome id input).node =
        if rule.capture then ParseTree.empty.addChild own else ParseTree.empty.splice own := by
  cases hlimit : i.limit with
  | zero =>
    simp only [outcome, hlimit, call] at hmatched
    cases hmatched
  | succ budget =>
    let e := i.setting input
    let body := eval e (call e i.program budget) rule.body
    have hatomic : Step.Atomic body :=
      ((compositional_atomic e i.program).eval_run budget (Program.resolves_body hrule))
    have hcall : i.outcome id input = Step.call e rule.name rule.capture body .initial .empty := by
      simp only [outcome, hlimit, call, hrule, e, body]
    have hroom : ParseState.initial.depth < e.limit := by
      simp [e, setting, hlimit, ParseState.initial]
    rw [hcall, Step.call_of_lt hroom] at hmatched ⊢
    let r := body (ParseState.initial.enterRule rule.name)
      (.ofRule rule.name ParseState.initial.position)
    obtain ⟨hname, hstart⟩ : r.node.rule = some rule.name ∧ r.node.start = 0 :=
      hatomic.rule_start _ _
    dsimp only at hmatched ⊢
    split at hmatched
    · cases hmatched
    · cases hmatched
    · exact ⟨{ r.node with stop := r.state.position }, hname, hstart, rfl, rfl⟩

/-- A start rule that is captured and matches is the rule of the tree that a result offers, and the
tree spans what the root spans. If the start rule is not captured then the tree is the first node of
its output as long as this is the node of another rule, one that the start rule surfaces. Otherwise
there is none. -/
theorem tree_of_start_rule {parse : Parse} {events : List Event}
    (hrule : i.program.rule? id = some rule)
    (hparse : i.parseFrom id input = .ok (parse, events))
    (hmatched : (i.outcome id input).verdict = .matched) :
    (rule.capture = true → ∃ n, parse.tree? = some n ∧ n.rule = some rule.name ∧ n.start = 0 ∧
        n.stop = parse.root.stop) ∧
      (rule.capture = false → ∀ n, parse.tree? = some n ↔
        parse.root.children.head? = some n ∧
          ∃ other, i.program.Surfaces rule.body other ∧ other.name ≠ rule.name ∧
            n.rule = some other.name) := by
  obtain ⟨own, hname, hstart, hstop, hnode⟩ := outcome_of_matched hrule hmatched
  have hroot := (root_of_parseFrom hparse).2.1
  constructor
  · intro hcapture
    rw [hcapture, if_pos rfl] at hnode
    refine ⟨own, ?_, hname, hstart, ?_⟩
    · simp [Parse.tree?, hroot, hnode, ParseTree.addChild, ParseTree.empty, ParseTree.isLeaf, hname]
    · rw [hroot]
      exact hstop
  · intro hcapture n
    have hexists : (i.program.rule? id).isSome = true := by simp [hrule]
    have hexposes := ((compositional_exposes (i.setting input) i.program).call_run i.limit
      hexists).2 .initial .empty
    simp only [Parse.tree?, Option.filter_eq_some_iff]
    refine and_congr_right fun hhead => ?_
    have hmem : n ∈ (i.outcome id input).node.children := by
      rw [hroot] at hhead
      exact List.mem_of_mem_head? hhead
    constructor
    · intro hinner
      rcases (hexposes n hmem).resolve_left List.not_mem_nil with hleaf | ⟨other, hother, hrulename⟩
      · simp [hleaf] at hinner
      · refine ⟨other, hother.of_call hrule hcapture, fun hsame => ?_, hrulename⟩
        obtain ⟨hmemother, hcaptured⟩ := hother.of_captured
        obtain rfl := Program.eq_of_name_eq hmemother (List.mem_of_getElem? hrule) hsame
        rw [hcapture] at hcaptured
        cases hcaptured
    · rintro ⟨other, _, _, hrulename⟩
      simp [ParseTree.isLeaf, hrulename]

/-- Letters, with or without parentheses around them. The start rule is not captured. -/
def bareLetters : Interpreter where
  program :=
    ⟨[⟨"S", .choice (.sequence (.literal "(") (.sequence (.call ⟨1⟩) (.literal ")"))) (.call ⟨1⟩),
        false⟩,
      ⟨"Letters", .repetition 1 none (.literal "a"), true⟩], ⟨0⟩, by decide⟩
  patterns := .empty
  limit := 8
  compiled := rfl

/-- For letters without parentheses, the tree is that of another rule than the start rule. -/
theorem bareLetters_tree_of_letters : ∃ rule parse events n,
    bareLetters.program.rule? ⟨0⟩ = some rule ∧ rule.capture = false ∧
      bareLetters.parseFrom ⟨0⟩ "aa".toList = .ok (parse, events) ∧
      (bareLetters.outcome ⟨0⟩ "aa".toList).verdict = .matched ∧
      parse.tree? = some n ∧ n.rule = some "Letters" :=
  ⟨_, _, _, _, rfl, rfl, rfl, rfl, rfl, rfl⟩

/-- The tree of the letters is their own, and there is none for what starts with a parenthesis. -/
theorem bareLetters_trees :
    (∃ rule parse events, bareLetters.program.rule? ⟨1⟩ = some rule ∧ rule.capture = true ∧
      bareLetters.parseFrom ⟨1⟩ "aab".toList = .ok (parse, events) ∧
      (bareLetters.outcome ⟨1⟩ "aab".toList).verdict = .matched ∧
      ∃ n, parse.tree? = some n ∧ n.rule = some rule.name ∧ n.start = 0 ∧
        n.stop = parse.root.stop) ∧
    ∃ rule parse events, bareLetters.program.rule? ⟨0⟩ = some rule ∧ rule.capture = false ∧
      bareLetters.parseFrom ⟨0⟩ "(aa)".toList = .ok (parse, events) ∧
      (bareLetters.outcome ⟨0⟩ "(aa)".toList).verdict = .matched ∧ parse.tree? = none := by
  constructor
  · have hrule : bareLetters.program.rule? ⟨1⟩ = some _ := rfl
    have hparse : bareLetters.parseFrom ⟨1⟩ "aab".toList = .ok (_, _) := rfl
    have hmatched : (bareLetters.outcome ⟨1⟩ "aab".toList).verdict = .matched := rfl
    exact ⟨_, _, _, hrule, rfl, hparse, hmatched, (tree_of_start_rule hrule hparse hmatched).1 rfl⟩
  · have hrule : bareLetters.program.rule? ⟨0⟩ = some _ := rfl
    have hparse : bareLetters.parseFrom ⟨0⟩ "(aa)".toList = .ok (_, _) := rfl
    have hmatched : (bareLetters.outcome ⟨0⟩ "(aa)".toList).verdict = .matched := rfl
    refine ⟨_, _, _, hrule, rfl, hparse, hmatched, ?_⟩
    refine Option.eq_none_iff_forall_ne_some.mpr fun n hn => ?_
    -- The first node of the root is the leaf of the parenthesis.
    obtain ⟨hhead, _, _, _, hname⟩ :=
      ((tree_of_start_rule hrule hparse hmatched).2 rfl n).mp hn
    cases hhead
    cases hname

end Interpreter

end Peg

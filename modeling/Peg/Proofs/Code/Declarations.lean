import Peg.Proofs.Code.Names

/-!
# What generated modules declare

The functions of a module start at the beginnings of lines, and the methods of its visitor are
indented once. So both can be read off the lines, and their names are distinct if the names of the
rules are.
-/

namespace Peg.Code

open Peg.Text

/-- The identifier behind the beginning of a line, if the line begins like that. -/
def nameBehind? (start line : String) : Option String :=
  if start.toList <+: line.toList then
    some (String.ofList ((line.toList.drop start.toList.length).takeWhile isIdentifierChar))
  else none

/-- The identifiers behind the beginning, in those lines that begin like that. -/
def namesBehind (start : String) (lines : List String) : List String :=
  lines.filterMap (nameBehind? start)

/-- The names of the functions that lines of code declare. -/
def functionNames (lines : List String) : List String :=
  namesBehind "pub fn " lines

/-- The names of the methods that lines of code declare. -/
def methodNames (lines : List String) : List String :=
  namesBehind "    fn " lines

/-- An empty line declares no function. -/
@[simp] theorem nameBehind?_pub_empty : nameBehind? "pub fn " "" = none := by decide

/-- An empty line declares no method. -/
@[simp] theorem nameBehind?_indented_empty : nameBehind? "    fn " "" = none := by decide

/-- Without lines nothing is declared. -/
@[simp] theorem namesBehind_nil (start : String) : namesBehind start [] = [] := rfl

/-- The name in the first line comes first. -/
@[simp] theorem namesBehind_cons (start line : String) (lines : List String) :
    namesBehind start (line :: lines) =
      (nameBehind? start line).toList ++ namesBehind start lines := by
  cases hline : nameBehind? start line <;> simp [namesBehind, hline]

/-- Names in two rows of lines come row by row. -/
@[simp] theorem namesBehind_append (start : String) (lines lines' : List String) :
    namesBehind start (lines ++ lines') = namesBehind start lines ++ namesBehind start lines' :=
  List.filterMap_append

/-- Names in lines made part by part come part by part. -/
theorem namesBehind_flatMap {α : Type} (start : String) (parts : List α) (f : α → List String) :
    namesBehind start (parts.flatMap f) = parts.flatMap fun part => namesBehind start (f part) := by
  induction parts with
  | nil => rfl
  | cons part parts ih => simp [ih]

/-- A line that begins differently has no such name. -/
theorem nameBehind?_eq_none {start first rest : String} (h : ¬ start.toList <+: first.toList)
    (h' : ¬ first.toList <+: start.toList) : nameBehind? start (first ++ rest) = none := by
  refine if_neg fun hstart => ?_
  rw [String.toList_append] at hstart
  rcases List.prefix_or_prefix_of_prefix hstart (List.prefix_append _ _) with hle | hle
  · exact h hle
  · exact h' hle

/-- A name is read behind the beginning of a line up to a character that no identifier has. -/
theorem nameBehind?_eq_some {start name next rest : String} (hname : IsPlain name)
    (hnext : next.toList.head?.any (fun c => !isIdentifierChar c) = true) :
    nameBehind? start (start ++ name ++ next ++ rest) = some name := by
  have hline : (start ++ name ++ next ++ rest).toList =
      start.toList ++ (name.toList ++ (next.toList ++ rest.toList)) := by
    simp [String.toList_append]
  rw [nameBehind?, hline, if_pos (List.prefix_append _ _), List.drop_left,
    List.takeWhile_append_of_pos hname]
  cases hchars : next.toList with
  | nil => simp [hchars] at hnext
  | cons c cs =>
    have hstop : isIdentifierChar c = false := by simpa [hchars] using hnext
    simp [hstop]

/-- Nothing begins at the left margin in a line that is indented. -/
theorem nameBehind?_indent_eq_none {start : String} (hempty : nameBehind? start "" = none)
    (h : ¬ start.toList <+: "    ".toList) (h' : ¬ "    ".toList <+: start.toList) (line : String) :
    nameBehind? start (indent line) = none := by
  rw [indent]
  split
  next hline =>
    rw [String.isEmpty_iff.mp hline]
    exact hempty
  · exact nameBehind?_eq_none h h'

/-- An indented method has been a method before. -/
theorem nameBehind?_indent (line : String) :
    nameBehind? "    fn " (indent line) = nameBehind? "fn " line := by
  rw [indent]
  split
  next hempty =>
    rw [String.isEmpty_iff.mp hempty]
    decide
  · have hstart : "    fn ".toList = "    ".toList ++ "fn ".toList := by decide
    have hdrop : ("    ".toList ++ line.toList).drop ("    ".toList ++ "fn ".toList).length =
        line.toList.drop "fn ".toList.length := by
      rw [List.length_append, List.drop_length_add_append]
    simp only [nameBehind?, String.toList_append, hstart, hdrop, List.prefix_append_right_inj]

/-- In indented lines nothing is declared by a beginning without indentation. -/
theorem namesBehind_map_indent_eq_nil {start : String} (hempty : nameBehind? start "" = none)
    (h : ¬ start.toList <+: "    ".toList) (h' : ¬ "    ".toList <+: start.toList)
    (lines : List String) : namesBehind start (lines.map indent) = [] := by
  rw [namesBehind, List.filterMap_map, List.filterMap_eq_nil_iff]
  exact fun line _ => nameBehind?_indent_eq_none hempty h h' line

/-- What indented lines declare is what the lines declare. -/
theorem namesBehind_map_indent (lines : List String) :
    namesBehind "    fn " (lines.map indent) = namesBehind "fn " lines := by
  rw [namesBehind, List.filterMap_map]
  exact List.filterMap_congr fun line _ => nameBehind?_indent line

/-- At the left margin, a block declares what its head declares. -/
theorem namesBehind_block {start : String} (hempty : nameBehind? start "" = none)
    (h : ¬ start.toList <+: "    ".toList) (h' : ¬ "    ".toList <+: start.toList)
    (hend : nameBehind? start "\x7d" = none) (head : String) (body : List String) :
    namesBehind start (block head body) = (nameBehind? start (head ++ " \x7b")).toList := by
  simp [block, namesBehind_map_indent_eq_nil hempty h h', hend]

/-- Of a block only the head can declare a function. -/
@[simp] theorem namesBehind_pub_block (head : String) (body : List String) :
    namesBehind "pub fn " (block head body) = (nameBehind? "pub fn " (head ++ " \x7b")).toList :=
  namesBehind_block (by decide) (by decide) (by decide) (by decide) head body

/-- Of a block only the head can declare a method. -/
@[simp] theorem namesBehind_fn_block (head : String) (body : List String) :
    namesBehind "fn " (block head body) = (nameBehind? "fn " (head ++ " \x7b")).toList :=
  namesBehind_block (by decide) (by decide) (by decide) (by decide) head body

/-- One step to the right, a block also declares what its body declares at the left margin. -/
@[simp] theorem namesBehind_indented_block (head : String) (body : List String) :
    namesBehind "    fn " (block head body) =
      (nameBehind? "    fn " (head ++ " \x7b")).toList ++ namesBehind "fn " body := by
  have hend : nameBehind? "    fn " "\x7d" = none := by decide
  simp [block, namesBehind_map_indent, hend]

namespace Module

/-- The list of patterns declares nothing. -/
theorem names_patternLines (patterns : List (String × Nat)) :
    functionNames (patternLines patterns) = [] ∧ methodNames (patternLines patterns) = [] := by
  cases patterns with
  | nil => decide
  | cons pattern patterns =>
    let entries := (pattern :: patterns).map fun entry =>
      s!"({Quoted.literal entry.1}, {entry.2}),"
    have hlines : patternLines (pattern :: patterns) =
        ["", "pub const PATTERNS: &[(&str, u32)] = &["] ++ entries.map indent ++ ["];"] := by
      simp [patternLines, entries]
    have hentries : namesBehind "fn " entries = [] := by
      refine List.filterMap_eq_nil_iff.mpr fun line hline => ?_
      obtain ⟨entry, _, rfl⟩ := List.mem_map.mp hline
      simp only [String.append_assoc]
      exact nameBehind?_eq_none (by decide) (by decide)
    have hpub : namesBehind "pub fn " (entries.map indent) = [] :=
      namesBehind_map_indent_eq_nil (by decide) (by decide) (by decide) entries
    rw [hlines, functionNames, methodNames]
    simp only [namesBehind_append, namesBehind_map_indent, hentries, hpub]
    decide

/-- The function that parses a whole input. -/
theorem names_entryLines (entry : Function) :
    functionNames (entryLines entry) = ["parse"] ∧ methodNames (entryLines entry) = [] := by
  have hcomment : ∀ start ∈ ["pub fn ", "    fn "], nameBehind? start
      s!"/// Parse `input` from `{entry.rule}`, requiring the whole input to match." = none := by
    intro start hstart
    simp only [String.append_assoc]
    simp only [List.mem_cons, List.not_mem_nil, or_false] at hstart
    rcases hstart with rfl | rfl <;> exact nameBehind?_eq_none (by decide) (by decide)
  have hcall : nameBehind? "fn " s!"parser.run(|p, n| {entry.name}(p, n))" = none := by
    simp only [String.append_assoc]
    exact nameBehind?_eq_none (by decide) (by decide)
  have hlines : ∀ line ∈ ["let patterns = PatternTable::new(PATTERNS.iter().copied())?;",
      "let mut parser = Parser::new(input, &patterns);"], nameBehind? "fn " line = none := by
    decide
  have hparse : nameBehind? "pub fn "
      "pub fn parse(input: &str) -> Result<Parse, RuntimeError> \x7b" = some "parse" := by decide
  have hmethod : nameBehind? "    fn "
      "pub fn parse(input: &str) -> Result<Parse, RuntimeError> \x7b" = none := by decide
  constructor
  · simp [entryLines, functionNames, hcomment, hparse]
  · simp [entryLines, methodNames, hcomment, hcall, hmethod, hlines]

/-- The function for a rule. -/
theorem names_functionLines {f : Function} (h : IsPlain f.name) :
    functionNames (functionLines f) = [f.name] ∧ methodNames (functionLines f) = [] := by
  have hname : nameBehind? "pub fn "
      (s!"pub fn {f.name}<T: Tracer>(p: &mut Parser<'_, T>, n: &mut ParseNode) -> ParseResult" ++
        " \x7b") = some f.name :=
    nameBehind?_eq_some h (by decide)
  have hmethod : nameBehind? "    fn "
      (s!"pub fn {f.name}<T: Tracer>(p: &mut Parser<'_, T>, n: &mut ParseNode) -> ParseResult" ++
        " \x7b") = none := by
    simp only [String.append_assoc]
    exact nameBehind?_eq_none (by decide) (by decide)
  have hbody : nameBehind? "fn "
      s!"p.call(n, {Quoted.literal f.rule}, {boolean f.capture}, {closure f.body})" = none := by
    simp only [String.append_assoc]
    exact nameBehind?_eq_none (by decide) (by decide)
  simp [functionLines, functionNames, methodNames, hname, hmethod, hbody]

/-- The lines of a method declare this method. -/
theorem names_methodLines {m : Method} (h : IsPlain m.name) :
    namesBehind "fn " (methodLines m) = [m.name] := by
  have hname : nameBehind? "fn " (s!"fn {m.name}(&mut self, node: &ParseNode)" ++ " \x7b") =
      some m.name := nameBehind?_eq_some h (by decide)
  have hempty : nameBehind? "fn " "" = none := by decide
  simp [methodLines, hname, hempty]

/-- The trait with its methods, and the function that chooses among them. -/
theorem names_visitorLines {v : Visitor} (h : ∀ m ∈ v.methods, IsPlain m.name) :
    functionNames (visitorLines v) = ["walk"] ∧
      methodNames (visitorLines v) = v.methods.map Method.name ++ ["visit_children"] := by
  have htrait : ∀ start ∈ ["pub fn ", "    fn "],
      nameBehind? start (s!"pub trait {v.name}" ++ " \x7b") = none := by
    intro start hstart
    simp only [String.append_assoc]
    simp only [List.mem_cons, List.not_mem_nil, or_false] at hstart
    rcases hstart with rfl | rfl <;> exact nameBehind?_eq_none (by decide) (by decide)
  have hwalk : nameBehind? "pub fn "
      (s!"pub fn walk<V: {v.name} + ?Sized>(visitor: &mut V, node: &ParseNode)" ++ " \x7b") =
        some "walk" := by
    have hstart : toString "pub fn walk<V: " = "pub fn " ++ "walk" ++ "<V: " := by decide
    simp only [String.append_assoc]
    rw [hstart]
    exact nameBehind?_eq_some (by decide) (by decide)
  have hwalk' : nameBehind? "    fn "
      (s!"pub fn walk<V: {v.name} + ?Sized>(visitor: &mut V, node: &ParseNode)" ++ " \x7b") =
        none := by
    simp only [String.append_assoc]
    exact nameBehind?_eq_none (by decide) (by decide)
  have hmethods : namesBehind "fn " (v.methods.flatMap methodLines) =
      v.methods.map Method.name := by
    rw [namesBehind_flatMap, List.map_eq_flatMap]
    exact List.flatMap_congr fun m hm => names_methodLines (h m hm)
  have hchildren : namesBehind "fn " childrenLines = ["visit_children"] := by decide
  have hmatch : nameBehind? "fn " "match node.rule.as_deref() \x7b" = none := by decide
  constructor
  · simp [visitorLines, functionNames, htrait, hwalk]
  · simp [visitorLines, methodNames, htrait, hwalk', hmethods, hchildren, hmatch]

/-- A module declares its own two functions and those for the rules, and the methods of its
visitor. -/
theorem names_lines {m : Module} (hfunctions : ∀ f ∈ m.functions, IsPlain f.name)
    (hmethods : ∀ v ∈ m.visitor, ∀ method ∈ v.methods, IsPlain method.name) :
    functionNames m.lines =
        "parse" :: m.functions.map Function.name ++ (if m.visitor.isSome then ["walk"] else []) ∧
      methodNames m.lines =
        (m.visitor.map fun v => v.methods.map Method.name ++ ["visit_children"]).getD [] := by
  have hheader : namesBehind "pub fn " header = [] ∧ namesBehind "    fn " header = [] := by decide
  obtain ⟨hpatterns, hpatterns'⟩ := names_patternLines m.patterns
  obtain ⟨hentry, hentry'⟩ := names_entryLines m.entry
  have hrules : functionNames (m.functions.flatMap functionLines) =
      m.functions.map Function.name := by
    rw [functionNames, namesBehind_flatMap, List.map_eq_flatMap]
    exact List.flatMap_congr fun f hf => (names_functionLines (hfunctions f hf)).1
  have hrules' : methodNames (m.functions.flatMap functionLines) = [] := by
    rw [methodNames, namesBehind_flatMap, List.flatMap_eq_nil_iff]
    exact fun f hf => (names_functionLines (hfunctions f hf)).2
  simp only [functionNames, methodNames] at hpatterns hpatterns' hentry hentry' hrules hrules' ⊢
  cases hvisitor : m.visitor with
  | none => simp [lines, hvisitor, hheader, hpatterns, hpatterns', hentry, hentry', hrules, hrules']
  | some v =>
    obtain ⟨hv, hv'⟩ := names_visitorLines (hmethods v hvisitor)
    simp only [functionNames, methodNames] at hv hv'
    simp [lines, hvisitor, hheader, hpatterns, hpatterns', hentry, hentry', hrules, hrules', hv,
      hv']

section Parts

variable (p : Program)

/-- There is one function for each rule. -/
theorem map_functionsOf :
    (functionsOf p (ruleNames p)).map Function.rule = p.rules.map Rule.name ∧
      (functionsOf p (ruleNames p)).map Function.name = (ruleNames p).map functionName := by
  have hlength := length_ruleNames p
  have hrules : (p.rules.zip ((ruleNames p).map functionName)).map Prod.fst = p.rules :=
    List.map_fst_zip (by simp [hlength])
  have hnames : (p.rules.zip ((ruleNames p).map functionName)).map Prod.snd =
      (ruleNames p).map functionName := List.map_snd_zip (by simp [hlength])
  constructor
  · simpa [functionsOf, Function.comp_def] using congrArg (List.map Rule.name) hrules
  · simpa [functionsOf, Function.comp_def] using hnames

/-- There is one method for each captured rule. -/
theorem map_methodsOf :
    (methodsOf p (ruleNames p)).map Method.rule = (p.rules.filter Rule.capture).map Rule.name ∧
      ((methodsOf p (ruleNames p)).map Method.name).Sublist ((ruleNames p).map methodName) := by
  have hlength := length_ruleNames p
  have hrules : (p.rules.zip (ruleNames p)).map Prod.fst = p.rules :=
    List.map_fst_zip (by simp [hlength])
  have hnames : (p.rules.zip (ruleNames p)).map Prod.snd = ruleNames p :=
    List.map_snd_zip (by simp [hlength])
  constructor
  · have hcaptured := congrArg (fun rules => (rules.filter Rule.capture).map Rule.name) hrules
    simpa [methodsOf, List.filter_map, Function.comp_def] using hcaptured
  · have hall : (p.rules.zip (ruleNames p)).map (fun entry => methodName entry.2) =
        (ruleNames p).map methodName := by
      simpa [Function.comp_def] using congrArg (List.map methodName) hnames
    rw [← hall, methodsOf, List.map_map]
    exact List.filter_sublist.map _

/-- The functions in the code have plain names. -/
theorem isPlain_functionsOf : ∀ f ∈ functionsOf p (ruleNames p), IsPlain f.name := by
  intro f hf
  have hmem : f.name ∈ (ruleNames p).map functionName :=
    (map_functionsOf p).2 ▸ List.mem_map_of_mem hf
  obtain ⟨name, _, heq⟩ := List.mem_map.mp hmem
  exact heq ▸ isPlain_functionName name

/-- The methods in the code have plain names. -/
theorem isPlain_methodsOf : ∀ m ∈ methodsOf p (ruleNames p), IsPlain m.name := by
  intro m hm
  have hmem := (map_methodsOf p).2.subset (List.mem_map_of_mem hm)
  obtain ⟨name, _, heq⟩ := List.mem_map.mp hmem
  exact heq ▸ isPlain_methodName name

/-- The visitor's own method is not one for a rule, unless the rule has its name. -/
theorem visit_children_not_mem_methodsOf {p : Program}
    (hplain : ∀ rule ∈ p.rules, IsPlain (snakeCase rule.name))
    (hchildren : ∀ rule ∈ p.rules, rule.capture = true → snakeCase rule.name ≠ "children") :
    "visit_children" ∉ (methodsOf p (ruleNames p)).map Method.name := by
  intro hmem
  obtain ⟨m, hm, heq⟩ := List.mem_map.mp hmem
  obtain ⟨⟨rule, name⟩, hentry, rfl⟩ := List.mem_map.mp hm
  obtain ⟨hzip, hcapture⟩ := List.mem_filter.mp hentry
  obtain ⟨hrule, hname⟩ := List.of_mem_zip hzip
  have hname := isPlain_of_mem_ruleNames hplain hname
  exact hchildren rule hrule hcapture
    (eq_children_of_methodName hname (numbered_of_mem_zip hzip) heq)

end Parts

/-- There is a visitor if the settings ask for one. -/
theorem isSome_visitor (p : Program) (c : Config) :
    (ofProgram p c).visitor.isSome = c.wantsVisitor := by
  cases hvisitor : c.wantsVisitor <;> simp [ofProgram, hvisitor]

/-- The visitor has the methods that are made for the rules. -/
theorem methods_of_visitor {p : Program} {c : Config} {v : Visitor}
    (h : (ofProgram p c).visitor = some v) : v.methods = methodsOf p (ruleNames p) := by
  simp only [ofProgram] at h
  split at h
  · cases h
    rfl
  · cases h

/-- What the module for a program declares. -/
theorem names_ofProgram (p : Program) (c : Config) :
    functionNames (ofProgram p c).lines =
        "parse" :: (ofProgram p c).functions.map Function.name ++
          (if c.wantsVisitor then ["walk"] else []) ∧
      ∀ v, (ofProgram p c).visitor = some v → methodNames (ofProgram p c).lines =
        v.methods.map Method.name ++ ["visit_children"] := by
  have hmethods : ∀ v ∈ (ofProgram p c).visitor, ∀ m ∈ v.methods, IsPlain m.name := by
    intro v hv
    rw [methods_of_visitor hv]
    exact isPlain_methodsOf p
  obtain ⟨hfunctionLines, hmethodLines⟩ := names_lines (isPlain_functionsOf p) hmethods
  rw [isSome_visitor] at hfunctionLines
  refine ⟨hfunctionLines, fun v hv => ?_⟩
  rw [hmethodLines, hv]
  rfl

end Module

/-- The function names of the module for a program are distinct, and so are the method names of its
visitor, if the names of the rules consist of what identifiers consist of and the visitor's own
method has no rule named like it. -/
theorem names_distinct {p : Program} {c : Config}
    (hplain : ∀ rule ∈ p.rules, IsPlain (snakeCase rule.name))
    (hchildren : ∀ rule ∈ p.rules, rule.capture = true → snakeCase rule.name ≠ "children") :
    ((Module.ofProgram p c).functions.map Function.rule = p.rules.map Rule.name ∧
        functionNames (Module.ofProgram p c).lines =
          "parse" :: (Module.ofProgram p c).functions.map Function.name ++
            (if c.wantsVisitor then ["walk"] else []) ∧
        (functionNames (Module.ofProgram p c).lines).Nodup) ∧
      ∀ v, (Module.ofProgram p c).visitor = some v →
        v.methods.map Method.rule = (p.rules.filter Rule.capture).map Rule.name ∧
          methodNames (Module.ofProgram p c).lines =
            v.methods.map Method.name ++ ["visit_children"] ∧
          (methodNames (Module.ofProgram p c).lines).Nodup := by
  obtain ⟨hrules, hfunctions⟩ := Module.map_functionsOf p
  obtain ⟨hcaptured, hmethods⟩ := Module.map_methodsOf p
  obtain ⟨hfunctionLines, hmethodLines⟩ := Module.names_ofProgram p c
  have hnames : ∀ name ∈ ruleNames p, IsPlain name := fun _ => isPlain_of_mem_ruleNames hplain
  refine ⟨⟨hrules, hfunctionLines, ?_⟩, fun v hv => ?_⟩
  · have hall := nodup_functionNames hnames (nodup_ruleNames p)
    rw [← hfunctions] at hall
    rw [hfunctionLines]
    refine hall.sublist (List.Sublist.append_left ?_ _)
    split
    · exact List.Sublist.refl _
    · exact List.nil_sublist _
  · have hfree := Module.visit_children_not_mem_methodsOf hplain hchildren
    rw [hmethodLines v hv, Module.methods_of_visitor hv]
    refine ⟨hcaptured, rfl, List.nodup_append.mpr ⟨?_, by simp, ?_⟩⟩
    · exact (nodup_methodNames hnames (nodup_ruleNames p)).sublist hmethods
    · rintro name hname other hother rfl
      exact hfree (List.mem_singleton.mp hother ▸ hname)

/-- The settings of a module with a visitor. -/
def withVisitor : Config :=
  { Config.empty with generateVisitor := some true }

/-- A program in which the last two names differ only in letters that identifiers cannot have, and
the second one is what the visitor's own method is named after. -/
def clashingNames : Program where
  rules :=
    [⟨"Root", .sequence (.call ⟨1⟩) (.sequence (.call ⟨2⟩) (.call ⟨3⟩)), true⟩,
      ⟨"Children", .literal "a", true⟩, ⟨"Größe", .literal "b", true⟩,
      ⟨"Grüße", .literal "c", true⟩]
  entry := ⟨0⟩
  sound := by decide

/-- Two functions of this module have the same name, and so have two methods of its visitor. -/
theorem clashingNames_not_distinct :
    ¬ (functionNames (Module.ofProgram clashingNames withVisitor).lines).Nodup ∧
      ¬ (methodNames (Module.ofProgram clashingNames withVisitor).lines).Nodup := by
  obtain ⟨hfunctions, hmethods⟩ := Module.names_ofProgram clashingNames withVisitor
  have hnames : ruleNames clashingNames = ["root", "children", "größe", "grüße"] := by decide
  have hfunctionNames : (Module.ofProgram clashingNames withVisitor).functions.map Function.name =
      ["parse_root", "parse_children", "parse_gr__e", "parse_gr__e"] := by
    refine (Module.map_functionsOf clashingNames).2.trans ?_
    rw [hnames]
    decide
  have hmethodNames : (Module.methodsOf clashingNames (ruleNames clashingNames)).map Method.name =
      ["visit_root", "visit_children", "visit_gr__e", "visit_gr__e"] := by
    rw [hnames]
    decide
  constructor
  · rw [hfunctions, hfunctionNames]
    decide
  · rw [hmethods ⟨_, Module.methodsOf clashingNames (ruleNames clashingNames)⟩ rfl, hmethodNames]
    decide

/-- A program whose last two names have the same snake case, which has to be told from the first one
with a number behind it. -/
def numberedNames : Program where
  rules :=
    [⟨"foo_bar_2", .sequence (.call ⟨1⟩) (.call ⟨2⟩), true⟩, ⟨"FooBar", .literal "a", true⟩,
      ⟨"Foo_Bar", .literal "b", false⟩]
  entry := ⟨0⟩
  sound := by decide

/-- The last rule gets the number 3, and nothing clashes. -/
theorem numberedNames_distinct :
    (∀ rule ∈ numberedNames.rules, IsPlain (snakeCase rule.name)) ∧
      (∀ rule ∈ numberedNames.rules, rule.capture = true → snakeCase rule.name ≠ "children") ∧
      (ruleNames numberedNames = ["foo_bar_2", "foo_bar", "foo_bar_3"]) ∧
      (functionNames (Module.ofProgram numberedNames withVisitor).lines).Nodup ∧
      (methodNames (Module.ofProgram numberedNames withVisitor).lines).Nodup := by
  have hplain : ∀ rule ∈ numberedNames.rules, IsPlain (snakeCase rule.name) := by
    have hchars : ∀ rule ∈ numberedNames.rules, rule.name.toList.all
        (fun c => isIdentifierChar c || Words.isSeparator c) = true := by decide
    refine fun rule hrule => isPlain_snakeCase fun c hc => ?_
    exact (Bool.or_eq_true _ _).mp (List.all_eq_true.mp (hchars rule hrule) c hc)
  have hchildren : ∀ rule ∈ numberedNames.rules, rule.capture = true →
      snakeCase rule.name ≠ "children" := by decide
  obtain ⟨⟨_, _, hfunctions⟩, hvisitor⟩ := names_distinct (c := withVisitor) hplain hchildren
  exact ⟨hplain, hchildren, by decide, hfunctions, (hvisitor _ rfl).2.2⟩

end Peg.Code

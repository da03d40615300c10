import Peg.Code.Expression
import Peg.Code.Layout
import Peg.Code.Lowering
import Peg.Code.Naming

/-!
# Generated modules

The code that is generated for a program: the list of its patterns, a function that parses a whole
input, a function for each rule and, if one is wanted, a visitor of parse trees.
-/

namespace Peg.Code

open Peg.Text

/-- The function for a rule. -/
structure Function where
  name : String
  rule : String
  capture : Bool
  body : String
  deriving DecidableEq, Repr

/-- A method of a visitor, and the rule whose nodes it visits. -/
structure Method where
  name : String
  rule : String
  deriving DecidableEq, Repr

/-- A visitor with a method for every captured rule. -/
structure Visitor where
  name : String
  methods : List Method
  deriving DecidableEq, Repr

/-- The parts of the code for a program. -/
structure Module where
  /-- The name of a module around the code. -/
  name : Option String
  patterns : List (String × Nat)
  entry : Function
  functions : List Function
  visitor : Option Visitor
  deriving DecidableEq, Repr

namespace Module

/-- The functions for the rules of a program. -/
def functionsOf (p : Program) (names : List String) : List Function :=
  let functionNames := names.map functionName
  (p.rules.zip functionNames).map fun (rule, name) =>
    ⟨name, rule.name, rule.capture, expression p.patterns functionNames rule.body⟩

/-- The methods for the captured rules of a program. -/
def methodsOf (p : Program) (names : List String) : List Method :=
  ((p.rules.zip names).filter fun (rule, _) => rule.capture).map fun (rule, name) =>
    ⟨methodName name, rule.name⟩

/-- The code for a program. -/
def ofProgram (p : Program) (c : Config) : Module :=
  let names := ruleNames p
  let functions := functionsOf p names
  { name := c.namespaceName.map moduleName
    patterns := p.patterns
    entry := (functions[p.entry.index]?).getD ⟨"", "", false, ""⟩
    functions := functions
    visitor := if c.wantsVisitor then some ⟨visitorName p c, methodsOf p names⟩ else none }

/-- The first lines of the code. -/
def header : List String :=
  ["// Generated by pegmate. Do not edit.", "",
    "use pegmate_vm::\x7bParse, ParseNode, ParseResult, Parser, PatternTable, RuntimeError, " ++
      "Tracer\x7d;"]

/-- The lines for the list of patterns. -/
def patternLines (patterns : List (String × Nat)) : List String :=
  let head := "pub const PATTERNS: &[(&str, u32)] = &["
  if patterns.isEmpty then ["", head ++ "];"]
  else
    ["", head] ++
      patterns.map (fun (source, times) => indent s!"({Quoted.literal source}, {times}),") ++
      ["];"]

/-- The lines for the function that parses a whole input. -/
def entryLines (entry : Function) : List String :=
  ["", s!"/// Parse `input` from `{entry.rule}`, requiring the whole input to match."] ++
    block "pub fn parse(input: &str) -> Result<Parse, RuntimeError>"
      ["let patterns = PatternTable::new(PATTERNS.iter().copied())?;",
        "let mut parser = Parser::new(input, &patterns);",
        s!"parser.run(|p, n| {entry.name}(p, n))"]

/-- The lines for the function of a rule. -/
def functionLines (f : Function) : List String :=
  "" :: block
    s!"pub fn {f.name}<T: Tracer>(p: &mut Parser<'_, T>, n: &mut ParseNode) -> ParseResult"
    [s!"p.call(n, {Quoted.literal f.rule}, {boolean f.capture}, {closure f.body})"]

/-- The lines for a method of the visitor. -/
def methodLines (m : Method) : List String :=
  block s!"fn {m.name}(&mut self, node: &ParseNode)" ["self.visit_children(node);"] ++ [""]

/-- The lines for the method that visits the children of a node. -/
def childrenLines : List String :=
  block "fn visit_children(&mut self, node: &ParseNode)"
    (block "for child in &node.children" ["walk(self, child);"])

/-- The line that chooses the method for the nodes of a rule. -/
def dispatchLine (m : Method) : String :=
  s!"Some({Quoted.literal m.rule}) => visitor.{m.name}(node),"

/-- The lines for the visitor and for the function that chooses its methods. -/
def visitorLines (v : Visitor) : List String :=
  "" :: block s!"pub trait {v.name}" (v.methods.flatMap methodLines ++ childrenLines) ++
  "" :: block s!"pub fn walk<V: {v.name} + ?Sized>(visitor: &mut V, node: &ParseNode)"
    (block "match node.rule.as_deref()"
      (v.methods.map dispatchLine ++ ["_ => visitor.visit_children(node),"]))

/-- The lines of the code, without a module around it. -/
def lines (m : Module) : List String :=
  header ++ patternLines m.patterns ++ entryLines m.entry ++ m.functions.flatMap functionLines ++
    (m.visitor.map visitorLines).getD []

/-- The text of the code. -/
def render (m : Module) : String :=
  match m.name with
  | none => unlines m.lines
  | some name => unlines (block s!"pub mod {name}" (m.lines.flatMap physicalLines))

end Module

/-- The program and the code for a grammar. The root has to be given and to be a rule. -/
def generate (g : Grammar) (a : Analysis) (c : Config) :
    Except LoweringError (Program × String) :=
  match c.root, a.root with
  | none, _ => .error .missingRoot
  | some name, none => .error (.unknownRoot name)
  | some _, some _ => do
    let program ← g.lower a
    return (program, (Module.ofProgram program c).render)

end Peg.Code

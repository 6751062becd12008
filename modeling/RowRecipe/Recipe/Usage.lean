import RowRecipe.Recipe.Argument
import RowRecipe.Recipe.Matching

/-!
# Usages

The usage of a directive declares its name, its parameters with their kinds, the words between them
and the groups that may be missing. It has a pattern, which begins with the name of the directive,
and turns the bindings of that pattern into arguments.
-/
namespace RowRecipe

inductive UsageToken where
  | parameter (name : String) (kind : Kind)
  | keyword (word : String)
  | optional (tokens : List UsageToken)
  deriving Repr

structure Parameter where
  name : String
  kind : Kind
  /-- Whether it stands outside all groups. -/
  required : Bool
  deriving Repr, DecidableEq

mutual

def UsageToken.parameters (required : Bool) : UsageToken → List Parameter
  | .parameter name kind => [⟨name, kind, required⟩]
  | .keyword _ => []
  | .optional tokens => parametersOf false tokens

def parametersOf (required : Bool) : List UsageToken → List Parameter
  | [] => []
  | token :: tokens => token.parameters required ++ parametersOf required tokens

end

mutual

def UsageToken.patternToken : UsageToken → PatternToken
  | .parameter name _ => .argument name
  | .keyword word => .literal word
  | .optional tokens => .optional (patternTokens tokens)

def patternTokens : List UsageToken → List PatternToken
  | [] => []
  | token :: tokens => token.patternToken :: patternTokens tokens

end

structure Usage where
  directive : String
  tokens : List UsageToken
  deriving Repr

inductive Declaration where
  | define (name : String) (kind : Kind)
  /-- A parameter in a group of its own. -/
  | defineOptional (name : String) (kind : Kind)
  | keyword (word : String)
  | optional (inner : List Declaration)

mutual

/-- The tokens that a declaration adds. A group without tokens adds none. -/
def Declaration.tokens : Declaration → List UsageToken
  | .define name kind => [.parameter name kind]
  | .defineOptional name kind => [.optional [.parameter name kind]]
  | .keyword word => [.keyword word]
  | .optional inner =>
    match declaredTokens inner with
    | [] => []
    | tokens => [.optional tokens]

def declaredTokens : List Declaration → List UsageToken
  | [] => []
  | declaration :: declarations => declaration.tokens ++ declaredTokens declarations

end

namespace Usage

/-- The usage that some declarations make. -/
def declare (directive : String) (declarations : List Declaration) : Usage :=
  ⟨directive, declaredTokens declarations⟩

def parameters (usage : Usage) : List Parameter :=
  parametersOf true usage.tokens

def kindOf? (usage : Usage) (name : String) : Option Kind :=
  (usage.parameters.find? (·.name = name)).map Parameter.kind

/-- The pattern, which begins with the name of the directive. -/
def pattern (usage : Usage) : Pattern :=
  .literal usage.directive :: patternTokens usage.tokens

def display (usage : Usage) : String :=
  usage.pattern.display

/-- Reads the bound tokens of parameters one after another. -/
def bindParameters (bindings : Bindings) :
    List Parameter → SortedMap Argument → Except ArgumentError (SortedMap Argument)
  | [], values => .ok values
  | parameter :: parameters, values =>
    match bindings.get? parameter.name with
    | some token => do
      let argument ← Argument.read parameter.kind parameter.name token
      bindParameters bindings parameters (values.insert parameter.name argument)
    | none =>
      if parameter.required then .error (.missing parameter.name)
      else bindParameters bindings parameters values

def bind (usage : Usage) (bindings : Bindings) (line : String) : Except ArgumentError Arguments :=
  (bindParameters bindings usage.parameters SortedMap.empty).map (⟨·, line⟩)

end Usage

end RowRecipe

import RowRecipe.Regex.Tree

/-!
# Matching regular expressions

A tree is compiled into steps between which a match goes on. All ways through the steps are walked
at once, one character at a time, in the order of their preference; of two ways at one step only the
preferred one is kept, so a text of some length takes a number of steps that is bounded by its
length times the size of the program.
-/
namespace RowRecipe.Regex

inductive Step where
  | char (codes : Text.CodeSet) (next : Nat)
  | place (place : Place) (next : Nat)
  /-- Notes the position in a slot. -/
  | note (slot : Nat) (next : Nat)
  /-- The first way is preferred. -/
  | fork (first second : Nat)
  | accept

/-- Steps with the number of the first one. -/
structure Program where
  steps : Array Step
  entry : Nat
  slotCount : Nat

/-- Appends a step, and gives its number. -/
def addStep (steps : Array Step) (step : Step) : Nat × Array Step :=
  (steps.size, steps.push step)

/-- A fork that prefers to go on inside, or to leave. -/
def preferring (greedy : Bool) (inside beyond : Nat) : Step :=
  if greedy then .fork inside beyond else .fork beyond inside

/-- Appends the steps of something in front of a next step. -/
abbrev Compiler := Nat → Array Step → Nat × Array Step

/-- Something a number of times in a row. -/
def compileCopies (inner : Compiler) : Nat → Compiler
  | 0, next, steps => (next, steps)
  | count + 1, next, steps =>
    let (entry, steps) := inner next steps
    compileCopies inner count entry steps

/-- Something a number of times at most in front of a rest, each time only behind the time before;
what is beyond follows where no other time is wanted. -/
def compileOptional (inner : Compiler) (greedy : Bool) (beyond : Nat) : Nat → Compiler
  | 0, rest, steps => (rest, steps)
  | count + 1, rest, steps =>
    let (entry, steps) := inner rest steps
    let (rest, steps) := addStep steps (preferring greedy entry beyond)
    compileOptional inner greedy beyond count rest steps

/-- Something once or more often. -/
def compileMany (inner : Compiler) (greedy : Bool) : Compiler := fun next steps =>
  let (loop, steps) := addStep steps .accept
  let (entry, steps) := inner loop steps
  (entry, steps.setIfInBounds loop (preferring greedy entry next))

/-- Something any number of times. If it may match nothing, leaving is decided once in front. -/
def compileAny (inner : Compiler) (solid greedy : Bool) : Compiler := fun next steps =>
  if solid then
    let (loop, steps) := addStep steps .accept
    let (entry, steps) := inner loop steps
    (loop, steps.setIfInBounds loop (preferring greedy entry next))
  else
    let (entry, steps) := compileMany inner greedy next steps
    addStep steps (preferring greedy entry next)

/-- Characters in a row, the last one first. -/
def compileText : List Char → Compiler
  | [], next, steps => (next, steps)
  | c :: cs, next, steps =>
    let (next, steps) := addStep steps (.char (.ofCodes [c.toNat]) next)
    compileText cs next steps

mutual

def Tree.compile : Tree → Compiler
  | .empty, next, steps => (next, steps)
  | .text cs, next, steps => compileText cs.reverse next steps
  | .char codes, next, steps => addStep steps (.char codes next)
  | .place spot, next, steps => addStep steps (.place spot next)
  | .group number inner, next, steps =>
    let (closing, steps) := addStep steps (.note (2 * number + 1) next)
    let (entry, steps) := inner.compile closing steps
    addStep steps (.note (2 * number) entry)
  | .row parts, next, steps => Tree.compileRow parts next steps
  | .choice parts, next, steps => Tree.compileChoice parts next steps
  | .repetition inner least none greedy, next, steps =>
    match least with
    | 0 => compileAny inner.compile inner.isSolid greedy next steps
    | least + 1 =>
      let (entry, steps) := compileMany inner.compile greedy next steps
      compileCopies inner.compile least entry steps
  | .repetition inner least (some most) greedy, next, steps =>
    let (entry, steps) := compileOptional inner.compile greedy next (most - least) next steps
    compileCopies inner.compile least entry steps

def Tree.compileRow : List Tree → Compiler
  | [], next, steps => (next, steps)
  | part :: parts, next, steps =>
    let (middle, steps) := Tree.compileRow parts next steps
    part.compile middle steps

def Tree.compileChoice : List Tree → Compiler
  | [], next, steps => addStep steps (.char .empty next)
  | [part], next, steps => part.compile next steps
  | part :: other :: parts, next, steps =>
    let (left, steps) := part.compile next steps
    let (right, steps) := Tree.compileChoice (other :: parts) next steps
    addStep steps (.fork left right)

end

/-- The program of a tree with so many groups; the whole match is group 0. -/
def Program.ofTree (tree : Tree) (groupCount : Nat) : Program :=
  let (entry, steps) := (Tree.group 0 tree).compile 0 #[.accept]
  ⟨steps, entry, 2 * groupCount + 2⟩

/-- The positions noted in slots. -/
abbrev Slots := List (Option Nat)

/-- A way through a program: the step it stands at, and its notes. -/
abbrev Way := Nat × Slots

/-- Follows ways to steps that take a character or accept, the preferred ones first. Each step is
passed once, so the number of moves is bounded. -/
def Program.settle (program : Program) (before after : Option Char) (position : Nat) :
    Nat → List Way → Array Bool → List Way
  | 0, _, _ => []
  | _ + 1, [], _ => []
  | moves + 1, (number, slots) :: ways, passed =>
    if passed.getD number true then program.settle before after position moves ways passed
    else
      let passed := passed.setIfInBounds number true
      match program.steps[number]? with
      | some (.fork first second) =>
        program.settle before after position moves
          ((first, slots) :: (second, slots) :: ways) passed
      | some (.note slot next) =>
        program.settle before after position moves ((next, slots.set slot (some position)) :: ways)
          passed
      | some (.place spot next) =>
        if spot.holds before after then
          program.settle before after position moves ((next, slots) :: ways) passed
        else program.settle before after position moves ways passed
      | _ => (number, slots) :: program.settle before after position moves ways passed

/-- The ways that take a character, up to the first one that accepts, and the notes of that. -/
def Program.advance (program : Program) (c : Option Char) : List Way → List Way × Option Slots
  | [] => ([], none)
  | (number, slots) :: ways =>
    match program.steps[number]? with
    | some .accept => ([], some slots)
    | some (.char codes next) =>
      let (others, accepted) := program.advance c ways
      (if c.any (codes.holds ·.toNat) then (next, slots) :: others else others, accepted)
    | _ => program.advance c ways

/-- The notes of the preferred match that begins where the ways stand. -/
def Program.run (program : Program) (ways : List Way) (before : Option Char) (position : Nat)
    (best : Option Slots) : List Char → Option Slots
  | [] =>
    let settled := program.settle before none position
      (ways.length + 2 * program.steps.size + 1) ways (Array.replicate program.steps.size false)
    (program.advance none settled).2.or best
  | c :: cs =>
    let settled := program.settle before (some c) position
      (ways.length + 2 * program.steps.size + 1) ways (Array.replicate program.steps.size false)
    let (ways, accepted) := program.advance (some c) settled
    let best := accepted.or best
    if ways.isEmpty then best else program.run ways (some c) (position + 1) best cs

/-- The notes of the leftmost match from a position on. -/
def Program.find? (program : Program) (before : Option Char) (position : Nat) :
    List Char → Option Slots
  | [] =>
    program.run [(program.entry, List.replicate program.slotCount none)] before position none []
  | c :: cs =>
    match program.run [(program.entry, List.replicate program.slotCount none)] before position none
        (c :: cs) with
    | some slots => some slots
    | none => program.find? (some c) (position + 1) cs

/-- What lies between two noted positions. -/
def span? (slots : Slots) (group : Nat) : Option (Nat × Nat) :=
  match slots.getD (2 * group) none, slots.getD (2 * group + 1) none with
  | some first, some beyond => some (first, beyond)
  | _, _ => none

end RowRecipe.Regex

import RowRecipe.Encoding.ByteMachine

/-!
# Verdicts on encodings

Each encoding that bytes may have is given a confidence between nothing and one. Bytes that an
encoding cannot have end the reading of it, and what was read before them still counts. When the
evidence for an encoding is overwhelming, the ones that would be asked behind it are not.
-/
namespace RowRecipe.Encoding

structure Verdict where
  name : String
  /-- Whether the evidence is overwhelming. -/
  isFound : Bool
  confidence : Rat

/-- The confidence in what cannot be ruled out. -/
def sureNo : Rat := 1 / 100

/-- The confidence in what is as good as certain. -/
def sureYes : Rat := 99 / 100

/-- The confidence above which an encoding is found. -/
def shortcut : Rat := 95 / 100

/-- The verdict after bytes were read that may have settled the matter. -/
def Verdict.after (name : String) (ending : Ending) (confidence : Rat) (isEnough : Bool) :
    Verdict :=
  let isFound := match ending with
    | .refused => false
    | .settled => true
    | .undecided => isEnough && shortcut < confidence
  ⟨name, isFound, confidence⟩

/-- The verdicts up to the first one that has found its encoding. -/
def upToFound : List Verdict → List Verdict
  | [] => []
  | verdict :: verdicts =>
    if verdict.isFound then [verdict] else verdict :: upToFound verdicts

/-- The more confident of two verdicts, the first one preferred. -/
def Verdict.better (best? : Option Verdict) (verdict : Verdict) : Option Verdict :=
  if (best?.map (·.confidence)).getD 0 < verdict.confidence then some verdict else best?

def mostConfident? (verdicts : List Verdict) : Option Verdict :=
  verdicts.foldl Verdict.better none

/-- The most confident verdict of those that are asked. -/
def groupVerdict? (verdicts : List Verdict) : Option Verdict :=
  mostConfident? (upToFound verdicts)

end RowRecipe.Encoding

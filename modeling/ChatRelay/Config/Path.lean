import ChatRelay.Decimal.Read

/-! Paths of settings as keys spell them: a name, then `.name` and `[i]` steps;
a key that is not such a path names one top-level entry. -/
namespace ChatRelay.Config

inductive Step where
  /-- The entry of a table with this name. -/
  | child (name : String)
  /-- The element of a list at this position. -/
  | index (i : Int)
  deriving DecidableEq, Repr

structure Path where
  first : String
  steps : List Step
  deriving DecidableEq, Repr

namespace Path

def isNameChar (c : Char) : Bool := c.isAlphanum || c = ' ' || c = '_' || c = '-'

/-- Whether a character is a blank around a position. -/
def isBlank (c : Char) : Bool := c = ' ' || c = '\t'

def minIndex : Int := -((Nat.pow 2 63 : Nat) : Int)

def maxIndex : Int := ((Nat.pow 2 63 - 1 : Nat) : Int)

/-- A position after its `[`, with the number of characters it takes up to and
including the `]`. -/
def subscript (cs : List Char) : Option (Int × Nat) :=
  let lead := (cs.takeWhile isBlank).length
  let signed := cs.drop lead
  let sign := if signed.head? = some '-' then 1 else 0
  let digits := (signed.drop sign).takeWhile Char.isDigit
  let after := (signed.drop sign).drop digits.length
  let trail := (after.takeWhile isBlank).length
  if digits.isEmpty || (after.drop trail).head? != some ']' then none
  else
    let magnitude : Int := ((Decimal.digitsValue digits : Nat) : Int)
    let v := if sign = 1 then -magnitude else magnitude
    if v < minIndex || maxIndex < v then none
    else some (v, lead + sign + digits.length + trail + 1)

def stepsOf (cs : List Char) : Option (List Step) :=
  match cs with
  | [] => some []
  | c :: rest =>
    if c = '.' then
      let name := rest.takeWhile isNameChar
      if name.isEmpty then none
      else (stepsOf (rest.drop name.length)).map (Step.child (String.ofList name) :: ·)
    else if c = '[' then
      match subscript rest with
      | some (i, used) => (stepsOf (rest.drop used)).map (Step.index i :: ·)
      | none => none
    else none
termination_by cs.length
decreasing_by all_goals simp only [List.length_drop, List.length_cons]; omega

/-- The path a key spells, if it spells one in full. -/
def parse? (key : String) : Option Path :=
  let cs := key.toList
  let first := cs.takeWhile isNameChar
  if first.isEmpty then none
  else (stepsOf (cs.drop first.length)).map fun steps => ⟨String.ofList first, steps⟩

/-- The path a key names: the path it spells, or else the top-level entry of
its whole text. -/
def ofKey (key : String) : Path := (parse? key).getD ⟨key, []⟩

def toSteps (p : Path) : List Step := .child p.first :: p.steps

end Path

end ChatRelay.Config

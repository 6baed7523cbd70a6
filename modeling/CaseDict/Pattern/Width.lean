import CaseDict.Pattern.Syntax
/-! # Widths

How many characters regular expressions take. -/

namespace CaseDict.Pattern

/-- Least and greatest number of characters. -/
abbrev Width := Nat × Nat

/-- Counts and widths are below this bound; a width at the bound stands for all greater ones. -/
def countBound : Nat := 0xffffffff

/-- Widths are kept up to the bound. -/
def Width.bounded (w : Width) : Width := (min w.1 countBound, min w.2 countBound)

def Width.add (v w : Width) : Width := Width.bounded (v.1 + w.1, v.2 + w.2)

/-- The width of one of two alternatives. -/
def Width.union (v w : Width) : Width := (min v.1 w.1, max v.2 w.2)

/-- The width of repetitions. -/
def Width.times (w : Width) (least : Nat) (most : Option Nat) : Width :=
  Width.bounded (w.1 * least, w.2 * most.getD countBound)

mutual

/-- The width of a part, given the widths of the groups it refers to. -/
def Node.width (groups : List (Nat × Width)) : Node → Width
  | .one _ => (1, 1)
  | .anchor _ | .ahead .. | .behind .. => (0, 0)
  | .branches alternatives => widthOfAny groups alternatives
  | .repeatOne least most _ _ => Width.times (1, 1) least most
  | .repeat least most _ body => (widthOfAll groups body).times least most
  | .group _ body | .atomic body => widthOfAll groups body
  | .sameAs i _ => (groups.lookup i).getD (0, 0)
  | .ifMatched _ thenBody elseBody =>
    (widthOfAll groups thenBody).union (widthOfAll groups elseBody)

/-- The width of parts one after the other. -/
def widthOfAll (groups : List (Nat × Width)) : List Node → Width
  | [] => (0, 0)
  | n :: ns => (n.width groups).add (widthOfAll groups ns)

/-- The width of alternatives. -/
def widthOfAny (groups : List (Nat × Width)) : List (List Node) → Width
  | [] => (0, 0)
  | [nodes] => widthOfAll groups nodes
  | nodes :: more => (widthOfAll groups nodes).union (widthOfAny groups more)

end

mutual

/-- The part and all parts in it. -/
def Node.parts : Node → List Node
  | .branches alternatives => .branches alternatives :: partsOfAny alternatives
  | .repeat least most strategy body => .repeat least most strategy body :: partsOfAll body
  | .group index body => .group index body :: partsOfAll body
  | .ahead negated body => .ahead negated body :: partsOfAll body
  | .behind negated width body => .behind negated width body :: partsOfAll body
  | .atomic body => .atomic body :: partsOfAll body
  | .ifMatched index thenBody elseBody =>
    .ifMatched index thenBody elseBody :: (partsOfAll thenBody ++ partsOfAll elseBody)
  | n => [n]

def partsOfAll : List Node → List Node
  | [] => []
  | n :: ns => n.parts ++ partsOfAll ns

def partsOfAny : List (List Node) → List Node
  | [] => []
  | nodes :: more => partsOfAll nodes ++ partsOfAny more

end

def Node.isRepetition : Node → Bool
  | .repeatOne .. | .repeat .. => true
  | _ => false

end CaseDict.Pattern

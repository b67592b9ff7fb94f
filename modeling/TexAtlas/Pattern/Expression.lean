/-
Expressions: what a written pattern consists of, with captures and with sequences and
choices of any length. They are built in a simplified form, in which neighbouring
letters are one literal and a choice between single characters is a class. The form
decides how much room a pattern takes; its meaning is the pattern that it stands for.
-/

import TexAtlas.Pattern.Basic

namespace TexAtlas

inductive Expression where
  | empty
  | literal (text : List Char)
  | oneOf (accepted : CharClass)
  | position (assertion : Assertion)
  | repeated (body : Expression) (low : Nat) (high : Option Nat) (greedy : Bool)
  | captured (body : Expression)
  | sequence (items : List Expression)
  | choice (branches : List Expression)

namespace Expression

mutual

/-- Whether an expression can match nothing but the empty text. -/
def isVoid : Expression → Bool
  | empty => true
  | literal text => text.isEmpty
  | oneOf _ => false
  | position _ => true
  | repeated body _ high _ => body.isVoid || high == some 0
  | captured body => body.isVoid
  | sequence items => areVoid items
  | choice branches => areVoid branches

def areVoid : List Expression → Bool
  | [] => true
  | item :: rest => item.isVoid && areVoid rest

end

mutual

/-- Whether every match has at least one character. -/
def consumes : Expression → Bool
  | empty => false
  | literal text => !text.isEmpty
  | oneOf _ => true
  | position _ => false
  | repeated body low _ _ => low != 0 && body.consumes
  | captured body => body.consumes
  | sequence items => someConsumes items
  | choice branches => allConsume branches

def someConsumes : List Expression → Bool
  | [] => false
  | item :: rest => item.consumes || someConsumes rest

def allConsume : List Expression → Bool
  | [] => true
  | branch :: rest => branch.consumes && allConsume rest

end

/-! ### Simplified forms -/

/-- A class of one character is that character. -/
def ofClass (accepted : CharClass) : Expression :=
  match accepted.intervals with
  | [(low, high)] => if low = high then literal [Char.ofNat low] else oneOf accepted
  | _ => oneOf accepted

/-- What an expression adds to a sequence that it becomes part of. -/
def asItems : Expression → List Expression
  | empty => []
  | sequence items => items
  | item => [item]

/-- Put an item before others. Literals that meet become one. -/
def meet : Expression → List Expression → List Expression
  | literal text, literal more :: rest => literal (text ++ more) :: rest
  | item, rest => item :: rest

def sequenceOf (items : List Expression) : Expression :=
  match (items.flatMap asItems).foldr meet [] with
  | [] => empty
  | [item] => item
  | joined => sequence joined

/-- What an expression adds to a choice that it becomes part of. -/
def asBranches : Expression → List Expression
  | choice branches => branches
  | branch => [branch]

/-- The class of an expression that matches single characters only. -/
def asClass? : Expression → Option CharClass
  | literal [c] => some (.single c)
  | oneOf accepted => some accepted
  | _ => none

def choiceOf (branches : List Expression) : Expression :=
  match branches.flatMap asBranches with
  | [branch] => branch
  | flat =>
    match flat.mapM asClass? with
    | some classes => ofClass (classes.foldr .union .nothing)
    | none => choice flat

/-- A repetition. Of a body that matches only the empty text, one turn is as good as
many. -/
def repeatedOf (body : Expression) (low : Nat) (high : Option Nat) (greedy : Bool) :
    Expression :=
  let least := if body.isVoid then min low 1 else low
  let most := if body.isVoid then some (min (high.getD 1) 1) else high
  if most = some 0 then empty
  else if least = 1 ∧ most = some 1 then body
  else repeated body least most greedy

/-! ### Meaning -/

mutual

def toPattern : Expression → Pattern
  | empty => .empty
  | literal text => Pattern.sequenceOf (text.map (fun c => .letter (.single c)))
  | oneOf accepted => .letter accepted
  | position assertion => .position assertion
  | repeated body low high greedy => .repeated body.toPattern low high greedy
  | captured body => body.toPattern
  | sequence items => Pattern.sequenceOf (toPatterns items)
  | choice branches => Pattern.choiceOf (toPatterns branches)

def toPatterns : List Expression → List Pattern
  | [] => []
  | item :: rest => item.toPattern :: toPatterns rest

end

end Expression

end TexAtlas

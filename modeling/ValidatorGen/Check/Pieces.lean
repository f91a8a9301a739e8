/-
Clauses as text and single-quoted literals in turn. A literal runs from a quote to the
next quote that is not doubled, or to the end of the clause. What is done to a clause
before it is read is done outside of its literals only (`mapPlain`).
-/
namespace ValidatorGen.Check

/-- The single quote, which encloses literals. -/
def quote : Char := '\x27'

/-- A stretch of a clause. -/
inductive Piece
  /-- Text outside of literals. -/
  | plain (text : List Char)
  /-- A literal, with its quotes. -/
  | literal (text : List Char)
  deriving DecidableEq, Repr

/-- The text of a piece. -/
def Piece.text : Piece → List Char
  | .plain t => t
  | .literal t => t

/-- Puts a character in front of the first piece. -/
def consText (c : Char) : List Piece → List Piece
  | [] => [.plain [c]]
  | .plain t :: ps => .plain (c :: t) :: ps
  | .literal t :: ps => .literal (c :: t) :: ps

mutual

/-- The pieces of a clause that starts outside of literals. -/
def pieces : List Char → List Piece
  | [] => [.plain []]
  | c :: rest =>
    if c = quote then .plain [] :: consText c (literalPieces rest)
    else consText c (pieces rest)

/-- The pieces of a clause that starts inside a literal. -/
def literalPieces : List Char → List Piece
  | [] => [.literal [], .plain []]
  | [c] => if c = quote then .literal [c] :: pieces [] else [.literal [c], .plain []]
  | c :: d :: rest =>
    if c = quote then
      if d = quote then consText c (consText d (literalPieces rest))
      else .literal [c] :: pieces (d :: rest)
    else consText c (literalPieces (d :: rest))

end

/-- The clause with `f` applied to every stretch outside of literals. -/
def mapPlain (f : List Char → List Char) (text : List Char) : List Char :=
  (pieces text).flatMap fun
    | .plain t => f t
    | .literal t => t

end ValidatorGen.Check

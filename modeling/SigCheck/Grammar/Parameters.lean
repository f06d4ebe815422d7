import SigCheck.Grammar.Follow

/-
  Parameter lists of functions and lambdas, and the rules
  for what may follow what in them and in calls.

  Key definitions include:
    * `ParamState`
    * `parameterList`
    * `checkParamNames`
    * `RawArg`, `checkArgs`
-/

namespace SigCheck

open Parse

------------------------------------------------------------
-- Parameter Lists
------------------------------------------------------------

/-
  A parameter list that is being read. Before a slash all
  parameters count as regular.
-/
structure ParamState where
  params : ParamDefs := {}
  slashed : Bool := false
  starAt : Option Nat := none
  closed : Bool := false

namespace ParamState

/- The list has a star parameter or a lone star. -/
def starred (s : ParamState) : Bool :=
  s.starAt.isSome

/- Nothing was read yet. -/
def isEmpty (s : ParamState) : Bool :=
  !s.slashed && s.params.regular.isEmpty

/- Add a parameter without a star. -/
def add (s : ParamState) (p : ParamDef) : ParamState :=
  if s.starred then
    { s with
      params :=
        { s.params with
          keywordOnly := s.params.keywordOnly ++ [p] } }
  else
    { s with
      params :=
        { s.params with
          regular := s.params.regular ++ [p] } }

/- All parameters so far are positional-only. -/
def slash (s : ParamState) : ParamState :=
  { s with
    slashed := true
    params :=
      { s.params with
        positionalOnly := s.params.regular
        regular := [] } }

/- A star, perhaps with a parameter, stands at a byte. -/
def star
    (s : ParamState)
    (offset : Nat)
    (p : Option ParamDef) : ParamState :=
  { s with
    starAt := some offset
    params := { s.params with star := p } }

/- Two stars end the list. -/
def doubleStar
    (s : ParamState)
    (p : Option ParamDef) : ParamState :=
  { s with
    closed := true
    params := { s.params with doubleStar := p } }

end ParamState

/- The ways of reading the parameters of a list. -/
structure ParamReaders where
  plain : Parse ParamDef
  star : Parse ParamDef
  doubleStar : Parse ParamDef

/- Read a parameter if a name comes next. -/
def optionalParam
    (reader : Parse ParamDef) : Parse (Option ParamDef) := do
  match ← peek with
  | some (.name _) => return some (← reader)
  | _ => return none

/- Read one item of a parameter list. -/
def paramItem
    (readers : ParamReaders)
    (s : ParamState) : Parse ParamState := do
  match ← peek with
  | some (.name _) =>
      if s.closed then unexpected
      else return s.add (← readers.plain)
  | some (.symbol "/") =>
      if s.closed || s.starred || s.isEmpty || s.slashed then
        unexpected
      else
        advance
        return s.slash
  | some (.symbol "*") =>
      if s.closed || s.starred then unexpected
      else
        let offset ← here
        advance
        return s.star offset (← optionalParam readers.star)
  | some (.symbol "**") =>
      if s.closed then unexpected
      else
        advance
        return s.doubleStar
          (← optionalParam readers.doubleStar)
  | _ => unexpected

/- Read items up to the sign that closes the list. -/
def paramItems
    (readers : ParamReaders)
    (closing : String) :
    Nat → ParamState → Parse ParamState
  | 0, _ => unexpected
  | fuel + 1, s => do
      let s ← paramItem readers s
      if ← accept "," then
        if ← atSign closing then return s
        else paramItems readers closing fuel s
      else if ← atSign closing then return s
      else unexpected

/- A lone star needs parameters behind it. -/
def checkStar (s : ParamState) : Parse Unit := do
  match s.starAt with
  | none => return ()
  | some offset =>
      if s.params.star.isNone
          && s.params.keywordOnly.isEmpty && !s.closed then
        failAt .bareStar offset
      else return ()

/- No parameter without a default follows one with a default. -/
def checkDefaults (ps : List ParamDef) : Parse Unit := do
  let behind := ps.dropWhile fun p => !p.hasDefault
  match behind.dropWhile (·.hasDefault) with
  | [] => return ()
  | p :: _ => failAt .requiredAfterDefault p.range.start

/- Read a parameter list in front of its closing sign. -/
def parameterList
    (readers : ParamReaders)
    (closing : String)
    (fuel : Nat) : Parse ParamDefs := do
  if ← atSign closing then return {}
  else
    let s ← paramItems readers closing fuel {}
    checkStar s
    checkDefaults s.params.positional
    return s.params

/- The first parameter whose name was used before. -/
def repeatedParam?
    (seen : List String) : List ParamDef → Option ParamDef
  | [] => none
  | p :: ps =>
      if seen.contains p.name then some p
      else repeatedParam? (p.name :: seen) ps

/-
  All names of a parameter list differ. They are compared in
  order, star parameters behind all others.
-/
def checkParamNames
    (follow : Follow)
    (ps : ParamDefs) : Parse Unit := do
  let params :=
    ps.positional ++ ps.keywordOnly ++ ps.star.toList
      ++ ps.doubleStar.toList
  match repeatedParam? [] params with
  | none => return ()
  | some p =>
      failBefore follow (.repeatedParameter p.name)
        p.range.start

------------------------------------------------------------
-- Arguments
------------------------------------------------------------

/- An argument as it is written. -/
inductive RawArg where
  | positional (value : Expr)
  | keyword (start : Nat) (arg : Keyword)

/- The arguments of a call. -/
structure ArgList where
  args : List Expr := []
  keywords : List Keyword := []

/-
  Sort arguments into positional ones and keywords. After a
  keyword only unpackings may be positional, and after an
  unpacked mapping none.
-/
def checkArgs : List RawArg → ArgList → Parse ArgList
  | [], done => return done
  | .keyword start arg :: rest, done =>
      match arg.name with
      | some name =>
          if done.keywords.any (·.name == some name) then
            failAt (.repeatedKeyword name) start
          else
            checkArgs rest
              { done with keywords := done.keywords ++ [arg] }
      | none =>
          checkArgs rest
            { done with keywords := done.keywords ++ [arg] }
  | .positional value :: rest, done =>
      if !done.keywords.isEmpty && !value.isStarred then
        failAt .positionalAfterKeyword value.range.start
      else if done.keywords.any (·.name.isNone) then
        failAt .unpackingAfterMapping value.range.start
      else
        checkArgs rest { done with args := done.args ++ [value] }

end SigCheck

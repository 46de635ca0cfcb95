import Resilience.Yaml.Scalar

/-! YAML text as a list of tokens. Indentation turns into tokens for the start and the end of
blocks. Whether something is a key of a map shows only at the colon behind it, so each place where
a key may have begun is remembered until then. -/

namespace Resilience.Yaml

inductive Token where
  | version (major minor : Nat)
  | tagShorthand (handle expansion : String)
  | documentStart
  | documentEnd
  | blockList
  | blockMap
  | blockEnd
  | flowList
  | flowListEnd
  | flowMap
  | flowMapEnd
  | blockItem
  | flowItem
  | key
  | value
  | alias (name : String)
  | anchor (name : String)
  | tag (handle suffix : String)
  | scalar (text : String) (plain literal : Bool)
deriving DecidableEq

/-- A place where a key without a question mark may have begun. -/
structure Candidate where
  place : Nat
  line : Nat
  column : Nat
  index : Nat
  /-- It has to be a key, or else the indentation is wrong. -/
  required : Bool

structure Lexer where
  tokens : Array Token := #[]
  flow : Nat := 0
  /-- The columns of the open blocks, innermost first. -/
  blocks : List Nat := []
  /-- Whether a key without a question mark may begin here. -/
  keysAllowed : Bool := true
  /-- One candidate for each open bracket and one outside them, innermost first. -/
  candidates : List (Option Candidate) := [none]

namespace Lexer

def inFlow (s : Lexer) : Bool := s.flow != 0

def push (s : Lexer) (t : Token) : Lexer := { s with tokens := s.tokens.push t }

def insert (s : Lexer) (place : Nat) (ts : List Token) : Lexer :=
  { s with tokens := s.tokens.extract 0 place ++ ts.toArray ++
      s.tokens.extract place s.tokens.size }

def candidate (s : Lexer) : Option Candidate := s.candidates.head?.join

def setCandidate (s : Lexer) (c : Option Candidate) : Lexer :=
  { s with candidates := c :: s.candidates.tail }

def dropCandidate (s : Lexer) : Option Lexer :=
  match s.candidate with
  | some c => if c.required then none else some (s.setCandidate none)
  | none => some s

/-- A key ends on the line where it begins and is at most 1024 characters long. -/
def expire (at_ : Spot) (s : Lexer) : Option Lexer := do
  let check (c : Option Candidate) : Option (Option Candidate) :=
    match c with
    | some c =>
      if c.line < at_.line || c.index + 1024 < at_.index then
        if c.required then none else some none
      else some (some c)
    | none => some none
  return { s with candidates := ← s.candidates.mapM check }

def propose (at_ : Spot) (s : Lexer) : Option Lexer :=
  if s.keysAllowed then do
    let required := !s.inFlow && s.blocks.head? == some at_.column
    let s ← s.dropCandidate
    return s.setCandidate (some ⟨s.tokens.size, at_.line, at_.column, at_.index, required⟩)
  else some s

def isDeeper (s : Lexer) (column : Nat) : Bool :=
  match s.blocks with
  | [] => true
  | b :: _ => b < column

def openBlock (column place : Nat) (t : Token) (s : Lexer) : Lexer :=
  if !s.inFlow && s.isDeeper column then
    { s.insert place [t] with blocks := column :: s.blocks }
  else s

def closeBlocks (column : Nat) (s : Lexer) : Lexer :=
  if s.inFlow then s
  else
    let (inner, outer) := s.blocks.span (column < ·)
    { s with tokens := s.tokens ++ (inner.map fun _ => Token.blockEnd).toArray, blocks := outer }

def closeAll (s : Lexer) : Lexer :=
  if s.inFlow then s
  else { s with
    tokens := s.tokens ++ (s.blocks.map fun _ => Token.blockEnd).toArray
    blocks := [] }

def margin (s : Lexer) : Nat := (s.blocks.head?.map (· + 1)).getD 0

/-- Skips blanks, comments and line breaks. A tab is no blank where it would indent. -/
def skip (flow : Bool) : (keysAllowed comment : Bool) → List Spot → Bool × List Spot
  | allowed, _, [] => (allowed, [])
  | allowed, comment, s :: rest =>
    let c := s.char
    if isBreak c then skip flow (allowed || !flow) false rest
    else if comment then skip flow allowed true rest
    else if c == ' ' || (c == '\t' && (flow || !allowed)) then skip flow allowed false rest
    else if c == '#' then skip flow allowed true rest
    else (allowed, s :: rest)

def isTagChar (c : Char) : Bool := isWordChar c || ";/?:@&=+$.!~*'()%".contains c

def isTagCharInBrackets (c : Char) : Bool := isTagChar c || c == ',' || c == '[' || c == ']'

def unescapeTag : List Char → Option (List Char)
  | [] => some []
  | '%' :: a :: b :: rest => do
    let n := (← hexDigit? a) * 16 + (← hexDigit? b)
    if n < 128 then return Char.ofNat n :: (← unescapeTag rest) else failure
  | '%' :: _ => none
  | c :: rest => (unescapeTag rest).map (c :: ·)

def readTag (t : List Char) : Option (Token × List Char) :=
  match t with
  | '!' :: '<' :: rest => do
    let uri := rest.takeWhile isTagCharInBrackets
    if uri.isEmpty then failure
    let '>' :: rest := rest.dropWhile isTagCharInBrackets | failure
    return (.tag "" (String.ofList (← unescapeTag uri)), rest)
  | '!' :: rest => do
    let word := rest.takeWhile isWordChar
    match rest.dropWhile isWordChar with
    | '!' :: rest =>
      let suffix := rest.takeWhile isTagChar
      if suffix.isEmpty then failure
      return (.tag (String.ofList ('!' :: word ++ ['!'])) (String.ofList (← unescapeTag suffix)),
        rest.dropWhile isTagChar)
    | _ =>
      let suffix := String.ofList (← unescapeTag (rest.takeWhile isTagChar))
      let tag := if suffix.isEmpty then Token.tag "" "!" else Token.tag "!" suffix
      return (tag, rest.dropWhile isTagChar)
  | _ => none

def blankOrComment (t : List Char) : Bool :=
  match t.dropWhile isWhite with
  | [] => true
  | c :: _ => c == '#'

def versionPart (t : List Char) : Option (Nat × List Char) :=
  let digits := t.takeWhile Char.isDigit
  if digits.isEmpty || 9 < digits.length then none
  else some (Number.natOfDigits digits, t.dropWhile Char.isDigit)

def directive (line : List Char) : Option Token := do
  let rest := line.dropWhile isWordChar
  if !(rest.isEmpty || rest.head?.any isWhite) then failure
  let rest := rest.dropWhile isWhite
  match String.ofList (line.takeWhile isWordChar) with
  | "YAML" =>
    let (major, rest) ← versionPart rest
    let '.' :: rest := rest | failure
    let (minor, rest) ← versionPart rest
    if blankOrComment rest then return .version major minor else failure
  | "TAG" =>
    let '!' :: rest := rest | failure
    let word := rest.takeWhile isWordChar
    let rest := rest.dropWhile isWordChar
    let (handle, rest) ← match rest with
      | '!' :: rest => some ('!' :: word ++ ['!'], rest)
      | _ => if word.isEmpty then some (['!'], rest) else none
    if !rest.head?.any isWhite then failure
    let rest := rest.dropWhile isWhite
    let uri := rest.takeWhile isTagCharInBrackets
    if uri.isEmpty then failure
    let rest := rest.dropWhile isTagCharInBrackets
    if (rest.isEmpty || rest.head?.any isWhite) && blankOrComment rest then
      return .tagShorthand (String.ofList handle) (String.ofList (← unescapeTag uri))
    else failure
  | _ => failure

abbrev Next := Option (Lexer × List Spot)

def atDirective (s : Lexer) (rest : List Spot) : Next := do
  let s ← s.closeAll.dropCandidate
  let line := rest.takeWhile fun s => !isBreak s.char
  let token ← directive (chars line)
  return ({ s.push token with keysAllowed := false }, rest.drop line.length)

def atBoundary (s : Lexer) (t : Token) (rest : List Spot) : Next := do
  let s ← s.closeAll.dropCandidate
  return ({ s.push t with keysAllowed := false }, rest)

def atOpening (at_ : Spot) (t : Token) (s : Lexer) (rest : List Spot) : Next := do
  let s ← s.propose at_
  return ({ s.push t with
    candidates := none :: s.candidates, flow := s.flow + 1, keysAllowed := true }, rest)

def atClosing (t : Token) (s : Lexer) (rest : List Spot) : Next := do
  let s ← s.dropCandidate
  let s := if s.inFlow then { s with flow := s.flow - 1, candidates := s.candidates.tail } else s
  return ({ s.push t with keysAllowed := false }, rest)

def atFlowItem (s : Lexer) (rest : List Spot) : Next := do
  let s ← s.dropCandidate
  return ({ s.push .flowItem with keysAllowed := true }, rest)

def atBlockItem (at_ : Spot) (s : Lexer) (rest : List Spot) : Next := do
  if !s.inFlow && !s.keysAllowed then failure
  let s ← (s.openBlock at_.column s.tokens.size .blockList).dropCandidate
  return ({ s.push .blockItem with keysAllowed := true }, rest)

def atKey (at_ : Spot) (s : Lexer) (rest : List Spot) : Next := do
  if !s.inFlow && !s.keysAllowed then failure
  let s ← (s.openBlock at_.column s.tokens.size .blockMap).dropCandidate
  return ({ s.push .key with keysAllowed := !s.inFlow }, rest)

def atValue (at_ : Spot) (s : Lexer) (rest : List Spot) : Next := do
  match s.candidate with
  | some c =>
    let s := ((s.insert c.place [.key]).openBlock c.column c.place .blockMap).setCandidate none
    return ({ s.push .value with keysAllowed := false }, rest)
  | none =>
    if !s.inFlow && !s.keysAllowed then failure
    let s := s.openBlock at_.column s.tokens.size .blockMap
    return ({ s.push .value with keysAllowed := !s.inFlow }, rest)

def atName (at_ : Spot) (make : String → Token) (s : Lexer) (rest : List Spot) : Next := do
  let s ← s.propose at_
  let name := rest.takeWhile fun s => isWordChar s.char
  let rest := rest.drop name.length
  let ends := endsWord rest || rest.head?.any fun s => "?:,]\x7d%@`".contains s.char
  if name.isEmpty || !ends then failure
  return ({ s.push (make (String.ofList (chars name))) with keysAllowed := false }, rest)

def atTag (at_ : Spot) (s : Lexer) (t : List Spot) : Next := do
  let s ← s.propose at_
  let (token, rest) ← readTag (chars t)
  let rest := t.drop (t.length - rest.length)
  if !(endsWord rest || (s.inFlow && rest.head?.any fun s => s.char == ',')) then failure
  return ({ s.push token with keysAllowed := false }, rest)

def atQuoted (at_ : Spot) (s : Lexer) (read : Option (List Char × List Spot)) : Next := do
  let s ← s.propose at_
  let (text, rest) ← read
  return ({ s.push (.scalar (String.ofList text) false false) with keysAllowed := false }, rest)

def atBlockScalar (literal : Bool) (s : Lexer) (rest : List Spot) : Next := do
  let s ← s.dropCandidate
  let (text, rest) ← blockScalar literal s.blocks.head? rest
  return ({ s.push (.scalar (String.ofList text) false literal) with keysAllowed := true }, rest)

def atPlain (at_ : Spot) (s : Lexer) (t : List Spot) : Next := do
  let s ← s.propose at_
  let (text, newLine, rest) ← plainScalar s.inFlow s.margin [] .none t
  return ({ s.push (.scalar (String.ofList text) true false) with keysAllowed := newLine }, rest)

def isIndicator (c : Char) : Bool := "-?:,[]\x7b\x7d#&*!|>'\"%@`".contains c

def beginsPlain (s : Lexer) (c : Char) (rest : List Spot) : Bool :=
  !(isWhite c || isIndicator c) || (c == '-' && !rest.head?.any fun s => isWhite s.char) ||
    (!s.inFlow && (c == '?' || c == ':') && !endsWord rest)

def token (s : Lexer) (at_ : Spot) (rest : List Spot) : Next :=
  let t := at_ :: rest
  let c := at_.char
  let alone := s.inFlow || endsWord rest
  if at_.column == 0 && c == '%' then s.atDirective rest
  else if isMarker '-' t then s.atBoundary .documentStart (rest.drop 2)
  else if isMarker '.' t then s.atBoundary .documentEnd (rest.drop 2)
  else if c == '[' then s.atOpening at_ .flowList rest
  else if c == '\x7b' then s.atOpening at_ .flowMap rest
  else if c == ']' then s.atClosing .flowListEnd rest
  else if c == '\x7d' then s.atClosing .flowMapEnd rest
  else if c == ',' then s.atFlowItem rest
  else if c == '-' && endsWord rest then s.atBlockItem at_ rest
  else if c == '?' && alone then s.atKey at_ rest
  else if c == ':' && alone then s.atValue at_ rest
  else if c == '*' then s.atName at_ .alias rest
  else if c == '&' then s.atName at_ .anchor rest
  else if c == '!' then s.atTag at_ t
  else if c == '|' && !s.inFlow then s.atBlockScalar true rest
  else if c == '>' && !s.inFlow then s.atBlockScalar false rest
  else if c == '\'' then s.atQuoted at_ (singleQuoted [] .none rest)
  else if c == '"' then s.atQuoted at_ (doubleQuoted .none [] .none rest)
  else if s.beginsPlain c rest then s.atPlain at_ t
  else none

def run : Nat → Lexer → List Spot → Option (Array Token)
  | 0, _, _ => none
  | fuel + 1, s, t =>
    let (keysAllowed, t) := skip s.inFlow s.keysAllowed false t
    let s := { s with keysAllowed }
    match t with
    | [] => do
      let s ← s.closeAll.dropCandidate
      return s.tokens
    | at_ :: rest => do
      let s ← s.expire at_
      let (s, rest) ← (s.closeBlocks at_.column).token at_ rest
      run fuel s rest

end Lexer

def tokens? (text : String) : Option (List Token) := do
  let t ← spots? text
  return (← Lexer.run (t.length + 1) {} t).toList

end Resilience.Yaml

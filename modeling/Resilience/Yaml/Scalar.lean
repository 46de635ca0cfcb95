import Resilience.Document
import Resilience.Yaml.Spot

/-! The texts of YAML scalars. Line breaks inside them are folded: a single one becomes a blank,
further ones stay. -/

namespace Resilience.Yaml

/-- Blanks and line breaks inside a scalar, of which it is not known yet what they stand for. Blanks
around line breaks are lost. -/
inductive Gap where
  | none
  | white (cs : List Char)
  /-- The first line break, unless it was escaped, and the further ones. -/
  | lines (first : Option Char) (more : List Char)

namespace Gap

def add (g : Gap) (c : Char) : Gap :=
  match g, isBreak c with
  | none, false => white [c]
  | white cs, false => white (cs ++ [c])
  | none, true | white _, true => lines (some c) []
  | lines first more, true => lines first (more ++ [c])
  | g, false => g

def text : Gap → List Char
  | none => []
  | white cs => cs
  | lines (some '\n') [] => [' ']
  | lines (some '\n') more => more
  | lines (some c) more => c :: more
  | lines .none more => more

def hasLines : Gap → Bool
  | lines .. => true
  | _ => false

def isNone : Gap → Bool
  | none => true
  | _ => false

end Gap

abbrev Reversed := List Char

def Reversed.add (r : Reversed) (cs : List Char) : Reversed := cs.reverse ++ r

/-- A plain scalar, whether it ends on another line than its last character, and the rest. A tab
before column `margin` is refused. -/
def plainScalar (flow : Bool) (margin : Nat) :
    Reversed → Gap → List Spot → Option (List Char × Bool × List Spot)
  | r, g, [] => some (r.reverse, g.hasLines, [])
  | r, g, s :: rest =>
    let c := s.char
    let ended := some (r.reverse, g.hasLines, s :: rest)
    if isWhite c || isBreak c then
      if g.hasLines && c == '\t' && s.column < margin then none
      else plainScalar flow margin r (g.add c) rest
    else if !g.isNone &&
        ((!flow && s.column < margin) || c == '#' || isBoundary (s :: rest)) then ended
    else
      let next := (rest.head?.map (·.char)).getD ' '
      if flow && c == ':' && [',', '?', '[', ']', '\x7b', '\x7d'].contains next then none
      else if (c == ':' && endsWord rest) ||
          (flow && [',', '[', ']', '\x7b', '\x7d'].contains c) then ended
      else plainScalar flow margin (c :: r.add g.text) .none rest

/-- A scalar in single quotes, after the first quote. Two quotes stand for one. -/
def singleQuoted : Reversed → Gap → List Spot → Option (List Char × List Spot)
  | _, _, [] => none
  | r, g, s :: rest =>
    let c := s.char
    if isBoundary (s :: rest) then none
    else if isWhite c || isBreak c then singleQuoted r (g.add c) rest
    else
      let r := r.add g.text
      if c == '\'' then
        match rest with
        | s' :: rest' =>
          if s'.char == '\'' then singleQuoted ('\'' :: r) .none rest'
          else some (r.reverse, s' :: rest')
        | [] => some (r.reverse, [])
      else singleQuoted (c :: r) .none rest

def escaped? : Char → Option Char
  | '0' => some '\x00'
  | 'a' => some '\x07'
  | 'b' => some '\x08'
  | 't' | '\t' => some '\t'
  | 'n' => some '\n'
  | 'v' => some '\x0b'
  | 'f' => some '\x0c'
  | 'r' => some '\r'
  | 'e' => some '\x1b'
  | ' ' => some ' '
  | '"' => some '"'
  | '/' => some '/'
  | '\\' => some '\\'
  | 'N' => some '\u0085'
  | '_' => some '\u00a0'
  | 'L' => some '\u2028'
  | 'P' => some '\u2029'
  | _ => none

def codeLength? : Char → Option Nat
  | 'x' => some 2
  | 'u' => some 4
  | 'U' => some 8
  | _ => none

def hexDigit? (c : Char) : Option Nat :=
  let n := Document.digitValue c
  if n < 16 then some n else none

def charOfCode? (n : Nat) : Option Char :=
  if h : n.isValidChar then some (Char.ofNatAux n h) else none

inductive Escape where
  | none
  | begun
  /-- Inside a code with some more digits. -/
  | code (left value : Nat)

/-- A scalar in double quotes, after the first quote. An escaped line break is not there. -/
def doubleQuoted : Escape → Reversed → Gap → List Spot → Option (List Char × List Spot)
  | _, _, _, [] => none
  | .none, r, g, s :: rest =>
    let c := s.char
    if isBoundary (s :: rest) then none
    else if isWhite c || isBreak c then doubleQuoted .none r (g.add c) rest
    else
      let r := r.add g.text
      if c == '"' then some (r.reverse, rest)
      else if c == '\\' then doubleQuoted .begun r .none rest
      else doubleQuoted .none (c :: r) .none rest
  | .begun, r, g, s :: rest =>
    if isBreak s.char then doubleQuoted .none r (.lines .none []) rest
    else match escaped? s.char, codeLength? s.char with
      | some c, _ => doubleQuoted .none (c :: r) g rest
      | _, some n => doubleQuoted (.code n 0) r g rest
      | _, none => none
  | .code left value, r, g, s :: rest => do
    let value := value * 16 + (← hexDigit? s.char)
    if left ≤ 1 then doubleQuoted .none ((← charOfCode? value) :: r) g rest
    else doubleQuoted (.code (left - 1) value) r g rest

inductive Chomping where
  | strip
  | clip
  | keep

structure Block where
  literal : Bool
  least : Nat
  /-- Zero while it is not known. -/
  indent : Nat
  widest : Nat := 0
  text : Reversed := []
  /-- The line break before the present line. -/
  lead : Option Char := none
  /-- The breaks of the empty lines after it. -/
  empty : List Char := []
  /-- Whether the last line with text began with a blank. -/
  blank : Bool := false

namespace Block

def shallow (b : Block) (column : Nat) : Bool := b.indent == 0 || column < b.indent

/-- A line with text begins with the character `c`. Only breaks between lines that do not begin
with a blank are folded. -/
def beginLine (b : Block) (c : Char) : Block :=
  let folds := !b.literal && b.lead == some '\n' && !b.blank && !isWhite c
  let breaks := if folds then (if b.empty.isEmpty then [' '] else []) else b.lead.toList
  { b with text := (b.text.add breaks).add b.empty, lead := none, empty := [], blank := isWhite c }

def finish (b : Block) : Chomping → List Char
  | .strip => b.text.reverse
  | .clip => (b.text.add b.lead.toList).reverse
  | .keep => ((b.text.add b.lead.toList).add b.empty).reverse

def read (chomping : Chomping) (b : Block) (inLine : Bool) :
    List Spot → Option (List Char × List Spot)
  | [] => some (b.finish chomping, [])
  | s :: rest =>
    let c := s.char
    if inLine then
      if isBreak c then read chomping { b with lead := some c } false rest
      else read chomping { b with text := c :: b.text } true rest
    else if b.shallow s.column && c == ' ' then
      read chomping { b with widest := max b.widest (s.column + 1) } false rest
    else
      let b := { b with widest := max b.widest s.column }
      if b.shallow s.column && c == '\t' then none
      else if isBreak c then read chomping { b with empty := b.empty ++ [c] } false rest
      else
        let b := if b.indent == 0 then { b with indent := max b.widest (max b.least 1) } else b
        if s.column == b.indent then
          let b := b.beginLine c
          read chomping { b with text := c :: b.text } true rest
        else some (b.finish chomping, s :: rest)

end Block

/-- The chomping and the indentation that a block scalar asks for, zero if it leaves that open. -/
def blockHeader : List Spot → Option (Chomping × Nat × List Spot)
  | [] => some (.clip, 0, [])
  | s :: rest =>
    let chomping? (c : Char) : Option Chomping :=
      if c == '+' then some .keep else if c == '-' then some .strip else none
    let digit? (t : List Spot) : Option (Nat × List Spot) :=
      match t with
      | s :: rest =>
        if s.char.isDigit then
          if s.char == '0' then none else some (Document.digitValue s.char, rest)
        else some (0, t)
      | [] => some (0, [])
    match chomping? s.char with
    | some chomping => (digit? rest).map fun (n, rest) => (chomping, n, rest)
    | none =>
      match digit? (s :: rest) with
      | none => none
      | some (0, t) => some (.clip, 0, t)
      | some (n, []) => some (.clip, n, [])
      | some (n, s' :: rest') =>
        match chomping? s'.char with
        | some chomping => some (chomping, n, rest')
        | none => some (.clip, n, s' :: rest')

def endOfLine (t : List Spot) : Option (List Spot) :=
  let t := t.dropWhile fun s => isWhite s.char
  let comment := (t.head?.map (·.char)) == some '#'
  match if comment then t.dropWhile fun s => !isBreak s.char else t with
  | s :: rest => if isBreak s.char then some rest else none
  | [] => some []

/-- A block scalar after its mark, inside a block at column `outer` if there is one. -/
def blockScalar (literal : Bool) (outer : Option Nat) (t : List Spot) :
    Option (List Char × List Spot) := do
  let (chomping, given, t) ← blockHeader t
  let t ← endOfLine t
  let indent := if given = 0 then 0 else outer.getD 0 + given
  Block.read chomping { literal, least := (outer.map (· + 1)).getD 0, indent } false t

end Resilience.Yaml

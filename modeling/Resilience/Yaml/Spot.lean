/-! YAML text as characters with their places. All line breaks but the two Unicode separators are
read as line feeds. -/

namespace Resilience.Yaml

structure Spot where
  char : Char
  line : Nat
  column : Nat
  index : Nat
deriving Inhabited

def isBreak (c : Char) : Bool := c == '\n' || c == '\u2028' || c == '\u2029'

def isWhite (c : Char) : Bool := c == ' ' || c == '\t'

def isWordChar (c : Char) : Bool := c.isAlphanum || c == '_' || c == '-'

def isPrintable (c : Char) : Bool :=
  let n := c.toNat
  n == 9 || n == 10 || n == 13 || (0x20 ≤ n && n ≤ 0x7e) || n == 0x85 || (0xa0 ≤ n && n ≤ 0xfffd) ||
    0x10000 ≤ n

def plainBreaks : List Char → List Char
  | [] => []
  | '\r' :: '\n' :: rest => '\n' :: plainBreaks rest
  | c :: rest => (if c == '\r' || c == '\u0085' then '\n' else c) :: plainBreaks rest

def locate (line column index : Nat) : List Char → List Spot
  | [] => []
  | c :: rest =>
    ⟨c, line, column, index⟩ ::
      if isBreak c then locate (line + 1) 0 (index + 1) rest
      else locate line (column + 1) (index + 1) rest

def withoutMark : List Char → List Char
  | '\ufeff' :: rest => rest
  | cs => cs

def spots? (text : String) : Option (List Spot) :=
  let cs := withoutMark text.toList
  if cs.all isPrintable then some (locate 0 0 0 (plainBreaks cs)) else none

def chars (t : List Spot) : List Char := t.map (·.char)

def endsWord : List Spot → Bool
  | [] => true
  | s :: _ => isWhite s.char || isBreak s.char

def isMarker (mark : Char) : List Spot → Bool
  | a :: b :: c :: rest =>
    a.column == 0 && a.char == mark && b.char == mark && c.char == mark && endsWord rest
  | _ => false

def isBoundary (t : List Spot) : Bool := isMarker '-' t || isMarker '.' t

end Resilience.Yaml

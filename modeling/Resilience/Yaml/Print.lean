import Resilience.Text
import Resilience.Yaml.Spot
import Resilience.Document

/-! Documents as YAML text: blocks indented by two columns, lists not further than their key. Text
has quotes only if it would read as something else without them; text of several lines becomes a
block where it can. Lines are kept with the breaks that end them. -/

namespace Resilience.Yaml

def isClear (c : Char) : Bool :=
  let n := c.toNat
  n == 10 || (0x20 ≤ n && n ≤ 0x7e) || (0xa0 ≤ n && n ≤ 0xfffd && n != 0xfeff)

def firstIndicators : List Char := "#,[]\x7b\x7d&*!|>'\"%@`".toList

/-- Whether a character of a text could be mistaken for a mark, given its neighbours. No neighbour
is a blank. -/
def isMark (before : Option Char) (c : Char) (after : Option Char) : Bool :=
  let blank (n : Option Char) : Bool := n.all fun n => isWhite n || isBreak n
  match before with
  | none => firstIndicators.contains c || ("?:-".contains c && blank after)
  | some _ => (c == ':' && blank after) || (c == '#' && blank before)

def hasMark (before : Option Char) : List Char → Bool
  | [] => false
  | c :: rest => isMark before c rest.head? || hasMark (some c) rest

def plainAllowed (cs : List Char) : Bool :=
  !(cs.isEmpty || hasMark none cs || cs.any isBreak || cs.head? == some ' ' ||
    cs.getLast? == some ' ' || cs.take 3 == ['-', '-', '-'] || cs.take 3 == ['.', '.', '.'])

def hasPair (p q : Char → Bool) : List Char → Bool
  | [] => false
  | c :: rest => (p c && rest.head?.any q) || hasPair p q rest

/-- Text that can be a block: all of it is printable, and no line ends in blanks. -/
def blockAllowed (cs : List Char) : Bool :=
  cs.all (fun c => isClear c || c == '\t') && !hasPair (· == ' ') isBreak cs &&
    cs.getLast? != some ' '

/-- Text that can stand in single quotes. Blanks around line breaks would be lost there. -/
def singleAllowed (cs : List Char) : Bool :=
  cs.all isClear && !hasPair (· == ' ') isBreak cs && !hasPair isBreak (· == ' ') cs

/-- Words that older readers take for truth values. -/
def oldTruthValues : List String :=
  ["y", "Y", "yes", "Yes", "YES", "n", "N", "no", "No", "NO", "on", "On", "ON", "off", "Off", "OFF"]

def readsOtherwise (s : String) : Bool :=
  oldTruthValues.contains s ||
    match Document.ofPlain s with
    | .text _ =>
      Document.isPaddedNumber (match s.toList with
        | '+' :: rest | '-' :: rest => rest
        | cs => cs)
    | _ => true

def hex (width n : Nat) : String :=
  let digits := (Nat.toDigits 16 n).map Char.toUpper
  String.ofList (List.replicate (width - digits.length) '0' ++ digits)

def escapeChar (c : Char) : String :=
  match c with
  | '\x00' => "\\0"
  | '\x07' => "\\a"
  | '\x08' => "\\b"
  | '\t' => "\\t"
  | '\n' => "\\n"
  | '\x0b' => "\\v"
  | '\x0c' => "\\f"
  | '\r' => "\\r"
  | '\x1b' => "\\e"
  | '"' => "\\\""
  | '\\' => "\\\\"
  | '\u0085' => "\\N"
  | '\u2028' => "\\L"
  | '\u2029' => "\\P"
  | _ =>
    if isClear c then String.singleton c
    else if c.toNat ≤ 0xff then "\\x" ++ hex 2 c.toNat
    else if c.toNat ≤ 0xffff then "\\u" ++ hex 4 c.toNat
    else "\\U" ++ hex 8 c.toNat

def doubleQuote (s : String) : String := "\"" ++ String.join (s.toList.map escapeChar) ++ "\""

def singleQuote (s : String) : String := "'" ++ s.replace "'" "''" ++ "'"

abbrev Lines := List String

def cut : List Char → List (List Char)
  | [] => []
  | c :: rest =>
    if isBreak c then [c] :: cut rest
    else match cut rest with
      | [] => [[c]]
      | l :: ls => (c :: l) :: ls

def Lines.ofChars (cs : List Char) : Lines := (cut cs).map String.ofList

def line (s : String) : Lines := Lines.ofChars (s.toList ++ ['\n'])

/-- What a block scalar has to say about its blanks at the start and its breaks at the end. -/
def blockHints (cs : List Char) : String :=
  (if cs.head?.any fun c => c == ' ' || isBreak c then "2" else "") ++
    match cs.reverse with
    | c :: before =>
      if !isBreak c then "-"
      else match before with
        | c :: _ => if isBreak c then "+" else ""
        | [] => "+"
    | [] => "-"

def block (cs : List Char) : Lines :=
  line ("|" ++ blockHints cs) ++
    Lines.ofChars (if cs.getLast?.any isBreak then cs else cs ++ ['\n'])

def quoted (s : String) : String :=
  if !singleAllowed s.toList then doubleQuote s
  else if readsOtherwise s || !plainAllowed s.toList then singleQuote s
  else s

def textLines (s : String) : Lines :=
  if s.toList.contains '\n' then
    if blockAllowed s.toList then block s.toList else line (doubleQuote s)
  else line (quoted s)

def word? : Document → Option String
  | .null => some "null"
  | .bool b => some (if b then "true" else "false")
  | .integer n => some (toString n)
  | .float x => some (Number.document x)
  | .text s => some (quoted s)
  | .written s => some (if s.plain then s.text else quoted s.text)
  | .list _ [] => some "[]"
  | .map [] => some "{}"
  | _ => none

def behindKey? : Document → Option Lines
  | .text s => some (textLines s)
  | d => (word? d).map line

def indentLine (l : String) : String := if l.toList.all isBreak then l else "  " ++ l

def indent (ls : Lines) : Lines := ls.map indentLine

def behind (lead : String) : Lines → Lines
  | [] => line lead
  | l :: ls => (lead ++ l) :: indent ls

mutual

def lines : Document → Lines
  | .list _ (d :: ds) => itemLines (d :: ds)
  | .map (e :: es) => entryLines (e :: es)
  | .tagged tag d => line tag ++ lines d
  | d => (behindKey? d).getD []

def itemLines : List Document → Lines
  | [] => []
  | d :: ds => behind "- " (lines d) ++ itemLines ds

def entryLines : List (Document × Document) → Lines
  | [] => []
  | (k, d) :: rest =>
    let key := (word? k).getD "" ++ ":"
    let own := match behindKey? d, d with
      | some ls, _ => behind (key ++ " ") ls
      | none, .list .. => line key ++ lines d
      | none, _ => line key ++ indent (lines d)
    own ++ entryLines rest

end

def print (d : Document) : String := String.join (lines d)

end Resilience.Yaml

import Resilience.Text.Hidden

namespace Resilience.Text

def hexDigits (n : Nat) : String := String.ofList (Nat.toDigits 16 n)

def escape (c : Char) : String :=
  match c with
  | '\t' => "\\t"
  | '\r' => "\\r"
  | '\n' => "\\n"
  | '"' => "\\\""
  | '\\' => "\\\\"
  | _ =>
    if c.toNat = 0 then "\\0"
    else if isHidden c then "\\u\x7b" ++ hexDigits c.toNat ++ "\x7d"
    else String.singleton c

def quote (s : String) : String := "\"" ++ String.join (s.toList.map escape) ++ "\""

end Resilience.Text

import Resilience.Failure

namespace Resilience

structure Summary where
  succeeded : Nat := 0
  failed : List (String × Nat) := []
deriving DecidableEq

namespace Summary

def tally (kind : String) : List (String × Nat) → List (String × Nat)
  | [] => [(kind, 1)]
  | (k, n) :: rest =>
    if kind = k then (k, n + 1) :: rest
    else if kind < k then (kind, 1) :: (k, n) :: rest
    else (k, n) :: tally kind rest

def record (s : Summary) : Outcome → Summary
  | .ok _ => { s with succeeded := s.succeeded + 1 }
  | .error f => { s with failed := tally f.kind s.failed }

def total (s : Summary) : Nat := s.succeeded + s.failed.foldr (fun k n => k.2 + n) 0

def ofOutcomes (rs : List Outcome) : Summary := rs.foldl record {}

end Summary

end Resilience

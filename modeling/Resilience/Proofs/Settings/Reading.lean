import Mathlib.Data.List.Forall2
import Resilience.Document

namespace Resilience.Document

mutual

/-- What a format may give back for a document. Numbers and truth values stand in it as plain text,
and text does so too if nothing else is written like that; other text has quotes. -/
inductive ReadsAs : Document → Document → Prop
  | bool {b : Bool} : ReadsAs (.bool b) (.bool b)
  | integer {n : Int} : ReadsAs (.integer n) (.integer n)
  | float {x : Float} : ReadsAs (.float x) (.float x)
  | text {s : String} : ReadsAs (.text s) (.text s)
  | truth {b : Bool} : ReadsAs (.bool b) (.written { text := toString b, plain := true })
  | number {n : Nat} : ReadsAs (.integer n) (.written { text := toString n, plain := true })
  | point {x : Float} {s : String} : ofPlain s = .float x →
      ReadsAs (.float x) (.written { text := s, plain := true })
  | word {s : String} : ofPlain s = .text s →
      ReadsAs (.text s) (.written { text := s, plain := true })
  | quoted {s : String} {literal : Bool} :
      ReadsAs (.text s) (.written { text := s, plain := false, literal })
  | list {p q : Bool} {ds ds' : List Document} : List.Forall₂ ReadsAs ds ds' →
      ReadsAs (.list p ds) (.list q ds')
  | map {es es' : List (Document × Document)} : List.Forall₂ EntryReadsAs es es' →
      ReadsAs (.map es) (.map es')

inductive EntryReadsAs : Document × Document → Document × Document → Prop
  | intro {k k' d d' : Document} : ReadsAs k k' → ReadsAs d d' → EntryReadsAs (k, d) (k', d')

end

section

variable {n : Nat} {c : Char} {cs rest : List Char} {s : String}

lemma toList_toString (n : Nat) : (toString n).toList = Nat.toDigits 10 n := by
  rw [Nat.toString_eq_repr, Nat.toList_repr]

lemma isDigit_of_mem (h : c ∈ Nat.toDigits 10 n) : c.isDigit = true :=
  Nat.isDigit_of_mem_toDigits (by decide) (by decide) h

lemma toString_ne (h : s.toList.all Char.isDigit = false) : toString n ≠ s := by
  rintro rfl
  rw [toList_toString, List.all_eq_false] at h
  obtain ⟨c, hc, hnot⟩ := h
  exact hnot (isDigit_of_mem hc)

lemma toDigits_ne_padded : Nat.toDigits 10 n ≠ '0' :: c :: rest := by
  induction n using Nat.strongRecOn generalizing c rest with
  | ind n ih =>
    intro h
    by_cases hn : n < 10
    · rw [Nat.toDigits_of_lt_base hn] at h
      exact absurd (congrArg List.length h) (by simp)
    · have hn := Nat.not_lt.1 hn
      rw [Nat.toDigits_of_base_le (by decide) hn] at h
      generalize hfront : Nat.toDigits 10 (n / 10) = front at h
      match front with
      | [] => exact Nat.toDigits_ne_nil hfront
      | [d] =>
        obtain ⟨rfl, -⟩ := List.cons.inj h
        have hvalue : Nat.ofDigitChars 10 (Nat.toDigits 10 (n / 10)) 0 = n / 10 :=
          Nat.ofDigitChars_ten_toDigits
        rw [hfront] at hvalue
        have hzero : 0 = n / 10 := hvalue
        omega
      | d :: e :: front =>
        obtain ⟨rfl, -⟩ := List.cons.inj h
        exact ih (n / 10) (by omega) hfront

lemma digitValue_of_isDigit (h : c.isDigit = true) : digitValue c = c.toNat - '0'.toNat :=
  if_pos h

lemma digitValue_lt (h : c.isDigit = true) : digitValue c < 10 := by
  rw [digitValue_of_isDigit h]
  simp only [Char.isDigit, Bool.and_eq_true, decide_eq_true_eq, ge_iff_le,
    UInt32.le_iff_toNat_le] at h
  have h : 48 ≤ c.toNat ∧ c.toNat ≤ 57 := h
  have hzero : '0'.toNat = 48 := rfl
  omega

lemma foldl_digitValue (h : ∀ c ∈ cs, c.isDigit = true) (k : Nat) :
    cs.foldl (fun n c => n * 10 + digitValue c) k = Nat.ofDigitChars 10 cs k := by
  induction cs generalizing k with
  | nil => rfl
  | cons c cs ih =>
    obtain ⟨hc, hcs⟩ := List.forall_mem_cons.1 h
    rw [List.foldl_cons, Nat.ofDigitChars_cons, ih hcs, digitValue_of_isDigit hc, Nat.mul_comm]

lemma natOfBase?_toDigits (n : Nat) : natOfBase? 10 (Nat.toDigits 10 n) = some n := by
  have hdigits : ∀ c ∈ Nat.toDigits 10 n, c.isDigit = true := fun c => isDigit_of_mem
  have hempty : (Nat.toDigits 10 n).isEmpty = false := by simp
  have hany : (Nat.toDigits 10 n).any (fun c => 10 ≤ digitValue c) = false := by
    rw [List.any_eq_false]
    intro c hc
    simpa using digitValue_lt (hdigits c hc)
  rw [natOfBase?, hempty, hany, foldl_digitValue hdigits]
  simp [Nat.ofDigitChars_toDigits]

lemma magnitude?_toDigits (n : Nat) : magnitude? (Nat.toDigits 10 n) = some n := by
  unfold magnitude?
  split
  · rename_i h
    exact absurd h toDigits_ne_padded
  · rename_i h
    exact absurd h toDigits_ne_padded
  · rename_i h
    exact absurd h toDigits_ne_padded
  · have hpadded : isPaddedNumber (Nat.toDigits 10 n) = false := by
      unfold isPaddedNumber
      split
      · rename_i h
        exact absurd h toDigits_ne_padded
      · rfl
    rw [hpadded, if_neg Bool.false_ne_true, natOfBase?_toDigits]

lemma naturalOfText?_toString (n : Nat) : naturalOfText? (toString n) = some n := by
  unfold naturalOfText?
  rw [toList_toString]
  split
  · rename_i h
    have hplus : '+' ∈ Nat.toDigits 10 n := h ▸ List.mem_cons_self
    exact absurd (isDigit_of_mem hplus) (by decide)
  · exact magnitude?_toDigits n

lemma integerOfText?_toString (n : Nat) : integerOfText? (toString n) = some (n : Int) := by
  unfold integerOfText?
  split
  · rename_i h
    rw [toList_toString] at h
    have hminus : '-' ∈ Nat.toDigits 10 n := h ▸ List.mem_cons_self
    exact absurd (isDigit_of_mem hminus) (by decide)
  · rw [naturalOfText?_toString]
    rfl

lemma ofPlain_toString (n : Nat) : ofPlain (toString n) = .integer n := by
  have hempty : (toString n).isEmpty = false := by
    rw [Bool.eq_false_iff, ne_eq, String.isEmpty_iff]
    intro h
    have hnil := congrArg String.toList h
    rw [toList_toString] at hnil
    exact Nat.toDigits_ne_nil hnil
  have hnull : isNullText (toString n) = false := by
    simp only [isNullText, Bool.or_eq_false_iff, beq_eq_false_iff_ne]
    exact ⟨⟨⟨toString_ne (by decide), toString_ne (by decide)⟩, toString_ne (by decide)⟩,
      toString_ne (by decide)⟩
  have hbool : boolOfText? (toString n) = none := by
    have htrue {s : String} (h : s.toList.all Char.isDigit = false) :
        (toString n == s) = false := beq_eq_false_iff_ne.2 (toString_ne h)
    simp only [boolOfText?, htrue (s := "true") (by decide), htrue (s := "True") (by decide),
      htrue (s := "TRUE") (by decide), htrue (s := "false") (by decide),
      htrue (s := "False") (by decide), htrue (s := "FALSE") (by decide)]
    rfl
  rw [ofPlain, hempty, hnull, hbool, integerOfText?_toString]
  rfl

lemma ofPlain_toString_bool (b : Bool) : ofPlain (toString b) = .bool b := by
  cases b <;> rfl

end

namespace ReadsAs

variable {d d' : Document} {s : String} {b : Bool} {n : Nat} {x : Float}

lemma text?_eq (h : ReadsAs (.text s) d) : d.text? = some s := by
  cases h <;> rfl

lemma natural?_eq (h : ReadsAs (.integer n) d) : d.natural? = some n := by
  generalize hk : (n : Int) = k at h
  cases h with
  | integer =>
    subst hk
    rw [Document.natural?, if_neg (Int.not_lt.2 (Int.natCast_nonneg n)), Int.toNat_natCast]
  | number =>
    obtain rfl := Int.ofNat.inj hk
    exact naturalOfText?_toString n

lemma bool?_eq (h : ReadsAs (.bool b) d) : d.bool? = some b := by
  cases h with
  | bool => rfl
  | truth => cases b <;> rfl

lemma ofPlain_eq (h : ReadsAs d (.written { text := s, plain := true })) : ofPlain s = d := by
  cases h with
  | truth => exact ofPlain_toString_bool _
  | number => exact ofPlain_toString _
  | point h | word h => exact h

lemma present (h : ReadsAs d d') : d'.isAbsent = false ∧ d'.isFalseNull = false := by
  have hplain {s : String} (h : ReadsAs d (.written { text := s, plain := true })) :
      (s.isEmpty || isNullText s) = false := by
    rw [Bool.eq_false_iff]
    intro hnull
    have hd : ofPlain s = .null := by
      rw [ofPlain, if_pos hnull]
    rw [h.ofPlain_eq] at hd
    subst hd
    cases h
  have hread := h
  cases h with
  | truth | number | point | word => exact ⟨hplain hread, rfl⟩
  | _ => exact ⟨rfl, rfl⟩

end ReadsAs

/-- Documents that mean the same by themselves as they do where a scalar is asked for. -/
def IsHeld : Document → Prop
  | .integer n => 0 ≤ n ∧ n < 18446744073709551616
  | .bool _ | .float _ | .text _ => True
  | _ => False

lemma heldPlain?_eq {d : Document} {s : String} (hs : ofPlain s = d) (hd : d.IsHeld) :
    heldPlain? s = some d := by
  unfold heldPlain?
  rw [hs]
  cases d with
  | integer n =>
    obtain ⟨hpos, hlt⟩ := hd
    exact if_pos ⟨by omega, hlt⟩
  | bool | float | text => rfl
  | _ => cases hd

lemma ReadsAs.resolved?_eq {d d' : Document} (h : ReadsAs d d') (hd : d.IsHeld) :
    d'.resolved? = some d := by
  have hread := h
  cases h with
  | bool | integer | float | text => rfl
  | truth | number | point | word => exact heldPlain?_eq hread.ofPlain_eq hd
  | quoted => rfl
  | list | map => cases hd

lemma resolvedItems?_eq {ds ds' : List Document} (h : List.Forall₂ ReadsAs ds ds')
    (hds : ∀ d ∈ ds, d.IsHeld) : resolvedItems? ds' = some ds := by
  induction h with
  | nil => rfl
  | cons hd _ ih =>
    obtain ⟨hheld, hds⟩ := List.forall_mem_cons.1 hds
    simp [resolvedItems?, hd.resolved?_eq hheld, ih hds]

end Resilience.Document

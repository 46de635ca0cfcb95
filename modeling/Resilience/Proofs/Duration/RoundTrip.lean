import Mathlib.Algebra.BigOperators.Group.List.Basic
import Mathlib.Algebra.GroupWithZero.Nat
import Resilience.Duration.Phrase

namespace Resilience.Phrase

structure Term where
  count : Nat
  unit : String

namespace Term

def text (t : Term) : String := toString t.count ++ t.unit

def size (t : Term) : Nat := (unit? t.unit).getD 0

def nanos (t : Term) : Nat := t.count * t.size

end Term

/-- Reading `cs` takes one position to the other, wherever these characters stand. -/
def Leads (p : Position) (cs : List Char) (p' : Position) : Prop :=
  ∀ o rest, ∃ o', read p o (cs ++ rest) = read p' o' rest

namespace Leads

variable {p p' p'' : Position} {c : Char} {cs ds : List Char}

lemma refl (p : Position) : Leads p [] p := fun o _ => ⟨o, rfl⟩

lemma trans (h : Leads p cs p') (h' : Leads p' ds p'') : Leads p (cs ++ ds) p'' := by
  intro o rest
  obtain ⟨o₁, h₁⟩ := h o (ds ++ rest)
  obtain ⟨o₂, h₂⟩ := h' o₁ rest
  exact ⟨o₂, by rw [List.append_assoc, h₁, h₂]⟩

lemma cons (hc : ∀ o, p.next o c = .ok p') (h : Leads p' cs p'') : Leads p (c :: cs) p'' := by
  intro o rest
  obtain ⟨o', h⟩ := h (o + c.utf8Size) rest
  refine ⟨o', ?_⟩
  rw [List.cons_append, read, hc o]
  exact h

end Leads

section

variable {total : Duration} {n since : Nat} {first : Bool} {c : Char} {cs : List Char}

lemma fits_eq_ok (h : n < word) : fits n = .ok n := if_pos h

lemma le_ofDigitChars (cs : List Char) (n : Nat) : n ≤ Nat.ofDigitChars 10 cs n := by
  induction cs generalizing n with
  | nil => exact Nat.le_refl n
  | cons c cs ih =>
    rw [Nat.ofDigitChars_cons]
    exact Nat.le_trans (by omega) (ih _)

lemma Leads.digits (hdigits : ∀ c ∈ cs, c.isDigit = true)
    (h : Nat.ofDigitChars 10 cs n < word) :
    Leads (.number total n) cs (.number total (Nat.ofDigitChars 10 cs n)) := by
  induction cs generalizing n with
  | nil => exact .refl _
  | cons c cs ih =>
    obtain ⟨hc, hcs⟩ := List.forall_mem_cons.1 hdigits
    rw [Nat.ofDigitChars_cons] at h ⊢
    refine .cons ?_ (ih hcs h)
    intro o
    have hle := le_ofDigitChars cs (10 * n + (c.toNat - '0'.toNat))
    have htimes : fits (n * 10) = .ok (10 * n) := by
      rw [Nat.mul_comm]
      exact fits_eq_ok (by omega)
    have hplus : fits (10 * n + digit c) = .ok (10 * n + (c.toNat - '0'.toNat)) :=
      fits_eq_ok (by unfold digit; omega)
    simp only [Position.next, hc, if_true, htimes, bind, Except.bind, hplus]
    rfl

lemma Leads.number (hn : n < word) :
    Leads (.gap total since first) (toString n).toList (.number total n) := by
  rw [Nat.toString_eq_repr, Nat.toList_repr]
  have hdigits : ∀ c ∈ Nat.toDigits 10 n, c.isDigit = true := fun c hc =>
    Nat.isDigit_of_mem_toDigits (by decide) (by decide) hc
  have hvalue : Nat.ofDigitChars 10 (Nat.toDigits 10 n) 0 = n :=
    Nat.ofDigitChars_toDigits (by decide) (by decide)
  generalize hcs : Nat.toDigits 10 n = cs at hdigits hvalue
  cases cs with
  | nil => exact absurd hcs Nat.toDigits_ne_nil
  | cons c cs =>
    obtain ⟨hc, hrest⟩ := List.forall_mem_cons.1 hdigits
    rw [Nat.ofDigitChars_cons, Nat.mul_zero, Nat.zero_add] at hvalue
    have hcons : Leads (.number total (digit c)) cs
        (.number total (Nat.ofDigitChars 10 cs (digit c))) :=
      .digits hrest (by rwa [digit, hvalue])
    rw [digit, hvalue] at hcons
    refine .cons (fun o => ?_) hcons
    simp only [Position.next, hc, if_true]
    rfl

lemma not_digit_of_isUnitLetter (h : isUnitLetter c = true) :
    c.isDigit = false ∧ isBlank c = false := by
  have hrange : (65 ≤ c.toNat ∧ c.toNat ≤ 90) ∨ (97 ≤ c.toNat ∧ c.toNat ≤ 122) ∨ c.toNat = 181 := by
    have h : (decide ('A'.val ≤ c.val ∧ c.val ≤ 'Z'.val) ||
        (decide ('a'.val ≤ c.val) && decide (c.val ≤ 'z'.val)) || c == 'µ') = true := h
    simp only [Bool.or_eq_true, Bool.and_eq_true, decide_eq_true_eq, beq_iff_eq,
      UInt32.le_iff_toNat_le] at h
    rcases h with (h | h) | rfl
    · exact .inl h
    · exact .inr (.inl h)
    · exact .inr (.inr rfl)
  constructor
  · rw [Bool.eq_false_iff]
    intro hdigit
    simp only [Char.isDigit, Bool.and_eq_true, decide_eq_true_eq, ge_iff_le,
      UInt32.le_iff_toNat_le] at hdigit
    have hdigit : 48 ≤ c.toNat ∧ c.toNat ≤ 57 := hdigit
    omega
  · rw [Bool.eq_false_iff]
    intro hblank
    simp only [isBlank, Bool.or_eq_true, Bool.and_eq_true, decide_eq_true_eq, beq_iff_eq] at hblank
    omega

lemma Leads.letters {letters : List Char} (h : ∀ c ∈ cs, isUnitLetter c = true) :
    Leads (.unit total n none letters) cs (.unit total n none (letters ++ cs)) := by
  induction cs generalizing letters with
  | nil =>
    rw [List.append_nil]
    exact .refl _
  | cons c cs ih =>
    obtain ⟨hc, hcs⟩ := List.forall_mem_cons.1 h
    obtain ⟨hdigit, hblank⟩ := not_digit_of_isUnitLetter hc
    have hrest : Leads (.unit total n none (letters ++ [c])) cs
        (.unit total n none (letters ++ [c] ++ cs)) := ih hcs
    rw [List.append_assoc, List.singleton_append] at hrest
    refine .cons (fun o => ?_) hrest
    simp only [Position.next, hdigit, hblank, hc, if_true, Bool.false_eq_true, if_false]
    rfl

lemma Leads.unit (hne : cs ≠ []) (h : ∀ c ∈ cs, isUnitLetter c = true) :
    Leads (.number total n) cs (.unit total n none cs) := by
  cases cs with
  | nil => exact absurd rfl hne
  | cons c cs =>
    obtain ⟨hc, hcs⟩ := List.forall_mem_cons.1 h
    obtain ⟨hdigit, hblank⟩ := not_digit_of_isUnitLetter hc
    have hrest : Leads (.unit total n none [c]) cs (.unit total n none (c :: cs)) := .letters hcs
    refine .cons (fun o => ?_) hrest
    simp only [Position.next, hdigit, hblank, hc, if_true, Bool.false_eq_true, if_false]
    rfl

end

section

variable {total d : Duration} {n secs nanos size : Nat} {unit : String}

lemma bind_of_ok {ε α β : Type} {x : Except ε α} {a : α} (h : x = .ok a) (f : α → Except ε β) :
    (x >>= f) = f a := by
  rw [h]
  rfl

lemma ofNanos?_nanos (d : Duration) : Duration.ofNanos? d.nanos = some d := dif_pos d.nanos_le

/-- A sum that is a duration is never refused: neither count passes a word. -/
lemma add_eq_ok (hnanos : nanos < second) (h : total.nanos + secs * second + nanos = d.nanos) :
    add total secs nanos = .ok d := by
  have hd := d.nanos_le
  unfold Duration.maxNanos at hd
  unfold second at hnanos h
  have hcount : fits (total.subsecNanos + nanos) = .ok (total.subsecNanos + nanos) := by
    apply fits_eq_ok
    unfold Duration.subsecNanos word
    omega
  unfold add
  refine (bind_of_ok hcount _).trans ?_
  -- Just one second of nanoseconds is not carried over, and it has its place in the sum anyway.
  by_cases hcarry : total.subsecNanos + nanos > second
  · have hmore : fits (secs + (total.subsecNanos + nanos) / second) =
        .ok (secs + (total.subsecNanos + nanos) / second) := by
      apply fits_eq_ok
      unfold Duration.subsecNanos second word
      omega
    have hsecs : fits (total.seconds + (secs + (total.subsecNanos + nanos) / second)) =
        .ok (total.seconds + (secs + (total.subsecNanos + nanos) / second)) := by
      apply fits_eq_ok
      unfold Duration.seconds Duration.subsecNanos second word
      omega
    have hsum : (total.seconds + (secs + (total.subsecNanos + nanos) / second)) * second +
        (total.subsecNanos + nanos) % second = d.nanos := by
      unfold Duration.seconds Duration.subsecNanos second
      omega
    rw [if_pos hcarry, if_pos hcarry]
    refine (bind_of_ok hmore _).trans ((bind_of_ok hsecs _).trans ?_)
    rw [hsum, ofNanos?_nanos]
    rfl
  · have hsecs : fits (total.seconds + secs) = .ok (total.seconds + secs) := by
      apply fits_eq_ok
      unfold Duration.seconds word
      omega
    have hsum : (total.seconds + secs) * second + (total.subsecNanos + nanos) = d.nanos := by
      unfold Duration.seconds Duration.subsecNanos second
      omega
    rw [if_neg hcarry, if_neg hcarry]
    refine (bind_of_ok rfl _).trans ((bind_of_ok hsecs _).trans ?_)
    rw [hsum, ofNanos?_nanos]
    rfl

lemma whole_of_lt (hsize : size < second) (h : n * size < word) :
    whole n size = .ok (0, n * size) := by
  unfold whole
  rw [if_pos hsize]
  exact bind_of_ok (fits_eq_ok h) _

lemma whole_of_le (hsize : second ≤ size) (h : n * (size / second) < word) :
    whole n size = .ok (n * (size / second), 0) := by
  unfold whole
  rw [if_neg (Nat.not_lt.2 hsize)]
  exact bind_of_ok (fits_eq_ok h) _

end

structure IsUnit (name : String) (size : Nat) : Prop where
  ne_nil : name.toList ≠ []
  letters : name.toList.all isUnitLetter = true
  known : unit? name = some size
  pos : 0 < size
  coarse : second ≤ size → second ∣ size

structure Term.Legible (t : Term) : Prop extends IsUnit t.unit t.size where
  fine : t.size < second → t.nanos < second

section

variable {total d : Duration} {t : Term} {ts : List Term} {since o : Nat} {first : Bool}

lemma Term.Legible.count_lt (h : t.Legible) (hle : t.nanos ≤ d.nanos) : t.count < word := by
  have hd := d.nanos_le
  have hpos := h.pos
  unfold Duration.maxNanos at hd
  by_cases hsize : t.size < second
  · have hfine := h.fine hsize
    have hself : t.count ≤ t.nanos := Nat.le_mul_of_pos_right _ hpos
    unfold second at hfine
    unfold word
    omega
  · have hscale : t.count * second ≤ t.nanos := Nat.mul_le_mul_left _ (Nat.not_lt.1 hsize)
    unfold second at hscale
    unfold word
    omega

lemma Term.Legible.addTerm_eq_ok (h : t.Legible) (hd : total.nanos + t.nanos = d.nanos) :
    addTerm total t.count none t.unit.toList = .ok d := by
  have hmax := d.nanos_le
  unfold Duration.maxNanos at hmax
  unfold addTerm
  rw [String.ofList_toList, h.known]
  dsimp only
  by_cases hsize : t.size < second
  · have hfine := h.fine hsize
    have hfits : t.nanos < word := by
      unfold second at hfine
      unfold word
      omega
    have hadd : add total 0 t.nanos = .ok d := by
      apply add_eq_ok hfine
      rw [Nat.zero_mul, Nat.add_zero, hd]
    exact (bind_of_ok (whole_of_lt hsize hfits) _).trans (bind_of_ok hadd _)
  · have hsize := Nat.not_lt.1 hsize
    have hdiv : t.count * (t.size / second) * second = t.nanos := by
      rw [Nat.mul_assoc, Nat.div_mul_cancel (h.coarse hsize)]
      rfl
    have hfits : t.count * (t.size / second) < word := by
      unfold second at hdiv ⊢
      unfold word
      omega
    have hadd : add total (t.count * (t.size / second)) 0 = .ok d := by
      apply add_eq_ok (by decide)
      rw [hdiv, hd, Nat.add_zero]
    exact (bind_of_ok (whole_of_le hsize hfits) _).trans (bind_of_ok hadd _)

lemma Term.Legible.leads (h : t.Legible) (hlt : t.count < word) :
    Leads (.gap total since first) t.text.toList (.unit total t.count none t.unit.toList) := by
  rw [Term.text, String.toList_append]
  exact (Leads.number hlt).trans (.unit h.ne_nil (List.all_eq_true.1 h.letters))

lemma read_terms (hts : ∀ t ∈ ts, t.Legible) (hne : ts ≠ [])
    (h : total.nanos + (ts.map Term.nanos).sum = d.nanos) :
    read (.gap total since first) o (" ".intercalate (ts.map Term.text)).toList = .ok d := by
  induction ts generalizing total since first o with
  | nil => exact absurd rfl hne
  | cons t ts ih =>
    obtain ⟨ht, hts⟩ := List.forall_mem_cons.1 hts
    rw [List.map_cons, List.sum_cons] at h
    have hlt := ht.count_lt (d := d) (by omega)
    cases ts with
    | nil =>
      obtain ⟨o', hread⟩ := ht.leads hlt o []
      rw [List.append_nil] at hread
      rw [List.map_cons, List.map_nil, String.intercalate_singleton, hread]
      exact ht.addTerm_eq_ok (by simpa using h)
    | cons u ts =>
      have hd := d.nanos_le
      let next : Duration := ⟨total.nanos + t.nanos, by omega⟩
      have hadd : addTerm total t.count none t.unit.toList = .ok next := ht.addTerm_eq_ok rfl
      have htext : (" ".intercalate ((t :: u :: ts).map Term.text)).toList =
          t.text.toList ++ ' ' :: (" ".intercalate ((u :: ts).map Term.text)).toList := by
        simp [String.intercalate_cons_cons]
      obtain ⟨o', hread⟩ := ht.leads hlt o
        (' ' :: (" ".intercalate ((u :: ts).map Term.text)).toList)
      have hblank : Position.next o' ' ' (.unit total t.count none t.unit.toList) =
          .ok (.gap next (o' + ' '.utf8Size) false) := bind_of_ok hadd _
      rw [htext, hread, read, hblank]
      exact ih hts nofun (by rw [← h, Nat.add_assoc])

end

def namedTerm (n : Nat) (name : String) : List Term := if n = 0 then [] else [⟨n, name⟩]

def pluralTerm (n : Nat) (name : String) : List Term :=
  if n > 1 then [⟨n, name ++ "s"⟩] else namedTerm n name

section

variable {n size : Nat} {name : String}

lemma named_eq (n : Nat) (name : String) : named n name = (namedTerm n name).map Term.text := by
  unfold named namedTerm
  split <;> rfl

lemma plural_eq (n : Nat) (name : String) : plural n name = (pluralTerm n name).map Term.text := by
  unfold plural pluralTerm
  split
  · simp [Term.text, String.append_assoc]
  · exact named_eq n name

lemma IsUnit.size_eq (h : IsUnit name size) (n : Nat) : Term.size ⟨n, name⟩ = size := by
  unfold Term.size
  rw [h.known]
  rfl

lemma IsUnit.legible (h : IsUnit name size) (hfine : size < second → n * size < second) :
    Term.Legible ⟨n, name⟩ := by
  have hsize := h.size_eq n
  constructor
  · rwa [hsize]
  · rwa [Term.nanos, hsize]

lemma IsUnit.sum_named (h : IsUnit name size) (n : Nat) :
    ((namedTerm n name).map Term.nanos).sum = n * size := by
  unfold namedTerm
  split
  · rename_i hn
    simp [hn]
  · simp [Term.nanos, h.size_eq]

lemma IsUnit.legible_named (h : IsUnit name size) (hfine : size < second → n * size < second) :
    ∀ t ∈ namedTerm n name, t.Legible := by
  unfold namedTerm
  split
  · exact nofun
  · rw [List.forall_mem_singleton]
    exact h.legible hfine

lemma IsUnit.sum_plural (h : IsUnit name size) (hs : IsUnit (name ++ "s") size) (n : Nat) :
    ((pluralTerm n name).map Term.nanos).sum = n * size := by
  unfold pluralTerm
  split
  · simp [Term.nanos, hs.size_eq]
  · exact h.sum_named n

lemma IsUnit.legible_plural (h : IsUnit name size) (hs : IsUnit (name ++ "s") size)
    (hfine : size < second → n * size < second) : ∀ t ∈ pluralTerm n name, t.Legible := by
  unfold pluralTerm
  split
  · rw [List.forall_mem_singleton]
    exact hs.legible hfine
  · exact h.legible_named hfine

end

lemma isUnit_year : IsUnit "year" year := ⟨by decide, by decide, rfl, by decide, by decide⟩
lemma isUnit_years : IsUnit ("year" ++ "s") year :=
  ⟨by decide, by decide, rfl, by decide, by decide⟩
lemma isUnit_month : IsUnit "month" month := ⟨by decide, by decide, rfl, by decide, by decide⟩
lemma isUnit_months : IsUnit ("month" ++ "s") month :=
  ⟨by decide, by decide, rfl, by decide, by decide⟩
lemma isUnit_day : IsUnit "day" day := ⟨by decide, by decide, rfl, by decide, by decide⟩
lemma isUnit_days : IsUnit ("day" ++ "s") day :=
  ⟨by decide, by decide, rfl, by decide, by decide⟩
lemma isUnit_h : IsUnit "h" hour := ⟨by decide, by decide, rfl, by decide, by decide⟩
lemma isUnit_m : IsUnit "m" minute := ⟨by decide, by decide, rfl, by decide, by decide⟩
lemma isUnit_s : IsUnit "s" second := ⟨by decide, by decide, rfl, by decide, by decide⟩
lemma isUnit_ms : IsUnit "ms" 1000000 := ⟨by decide, by decide, rfl, by decide, by decide⟩
lemma isUnit_us : IsUnit "us" 1000 := ⟨by decide, by decide, rfl, by decide, by decide⟩
lemma isUnit_ns : IsUnit "ns" 1 := ⟨by decide, by decide, rfl, by decide, by decide⟩

section

variable (d : Duration)

def terms : List Term :=
  let secs := d.seconds
  let nanos := d.subsecNanos
  let inYear := secs % 31557600
  let inMonth := inYear % 2630016
  let inDay := inMonth % 86400
  pluralTerm (secs / 31557600) "year" ++ pluralTerm (inYear / 2630016) "month" ++
    pluralTerm (inMonth / 86400) "day" ++ namedTerm (inDay / 3600) "h" ++
    namedTerm (inDay % 3600 / 60) "m" ++ namedTerm (inDay % 60) "s" ++
    namedTerm (nanos / 1000000) "ms" ++ namedTerm (nanos / 1000 % 1000) "us" ++
    namedTerm (nanos % 1000) "ns"

lemma parts_eq : parts d = (terms d).map Term.text := by
  simp only [parts, terms, named_eq, plural_eq, List.map_append]

lemma sum_terms : ((terms d).map Term.nanos).sum = d.nanos := by
  simp only [terms, List.map_append, List.sum_append, isUnit_year.sum_plural isUnit_years,
    isUnit_month.sum_plural isUnit_months, isUnit_day.sum_plural isUnit_days, isUnit_h.sum_named,
    isUnit_m.sum_named, isUnit_s.sum_named, isUnit_ms.sum_named, isUnit_us.sum_named,
    isUnit_ns.sum_named]
  unfold year month day hour minute second Duration.seconds Duration.subsecNanos
  omega

lemma legible_terms : ∀ t ∈ terms d, t.Legible := by
  have hlong {n size : Nat} (hsize : second ≤ size) (hlt : size < second) :
      n * size < second := absurd hlt (Nat.not_lt.2 hsize)
  have hnanos : d.subsecNanos < second := Nat.mod_lt _ (by decide)
  unfold second at hnanos
  simp only [terms, List.forall_mem_append, and_assoc]
  refine ⟨isUnit_year.legible_plural isUnit_years (hlong (by decide)),
    isUnit_month.legible_plural isUnit_months (hlong (by decide)),
    isUnit_day.legible_plural isUnit_days (hlong (by decide)),
    isUnit_h.legible_named (hlong (by decide)), isUnit_m.legible_named (hlong (by decide)),
    isUnit_s.legible_named (hlong (by decide)), isUnit_ms.legible_named fun _ => ?_,
    isUnit_us.legible_named fun _ => ?_, isUnit_ns.legible_named fun _ => ?_⟩
  all_goals
    unfold second
    omega

theorem parse_print : parse (print d) = .ok d := by
  by_cases hzero : d.isZero
  · have hd : d = .zero := Duration.ext (by simpa [Duration.isZero, Duration.zero] using hzero)
    rw [hd]
    rfl
  · have hne : terms d ≠ [] := by
      intro hnil
      have hsum := sum_terms d
      rw [hnil] at hsum
      exact hzero (by simp [Duration.isZero, ← hsum])
    have hread : read (.gap .zero 0 true) 0 (print d).toList = .ok d := by
      rw [print, if_neg hzero, parts_eq]
      exact read_terms (legible_terms d) hne (by rw [sum_terms]; exact Nat.zero_add _)
    have hnot : ¬(print d == "0") = true := by
      intro h
      rw [eq_of_beq h] at hread
      cases hread
    rw [parse, if_neg hnot, hread]

end

end Resilience.Phrase

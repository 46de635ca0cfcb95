import Resilience.Proofs.Settings.RoundTrip
import Resilience.Settings.Load

namespace Resilience

instance decidableEqExcept {ε α : Type} [DecidableEq ε] [DecidableEq α] : DecidableEq (Except ε α)
  | .ok a, .ok b => decidable_of_iff (a = b) ⟨congrArg _, Except.ok.inj⟩
  | .error e, .error f => decidable_of_iff (e = f) ⟨congrArg _, Except.error.inj⟩
  | .ok _, .error _ | .error _, .ok _ => .isFalse nofun

def SameLetters (s t : String) : Prop := s.toList.map Char.toLower = t.toList.map Char.toLower

def IsNumeral (s : String) (n : Nat) : Prop :=
  ∃ ds, (s.toList = ds ∨ s.toList = '+' :: ds) ∧ ds ≠ [] ∧ (∀ c ∈ ds, c.isDigit = true) ∧
    Nat.ofDigitChars 10 ds 0 = n

lemma sameLetters_iff {s t : String} (ht : lower t = t) : SameLetters s t ↔ lower s = t := by
  unfold SameLetters
  unfold lower at ht ⊢
  rw [← String.ofList_inj, ht]

namespace LogLevel

def names : LogLevel → List String
  | warn => ["warn", "warning"]
  | l => [l.name]

lemma ofName?_eq_some_iff {t : String} {l : LogLevel} : ofName? t = some l ↔ t = l.name := by
  refine ⟨fun h => ?_, fun h => h ▸ ofName?_name l⟩
  unfold ofName? at h
  split at h <;> cases h <;> rfl

lemma parse_eq_ok_iff {s : String} {l : LogLevel} :
    parse s = .ok l ↔ ∃ name ∈ l.names, SameLetters s name := by
  have hlower : ∀ name ∈ l.names, lower name = name := by
    cases l <;> decide
  have hnames (t : String) : (∃ name ∈ l.names, t = name) ↔
      (if t = "warning" then some warn else ofName? t) = some l := by
    split
    · rename_i h
      subst h
      cases l <;> simp [names, name]
    · rename_i h
      rw [ofName?_eq_some_iff]
      cases l <;> simp [names, name, h]
  have hparse : parse s = .ok l ↔
      (if lower s = "warning" then some warn else ofName? (lower s)) = some l := by
    unfold parse
    dsimp only
    split <;> simp_all
  rw [hparse, ← hnames]
  exact exists_congr fun name => and_congr_right fun h => (sameLetters_iff (hlower name h)).symm

end LogLevel

namespace LogFormat

lemma ofName?_eq_some_iff {t : String} {f : LogFormat} : ofName? t = some f ↔ t = f.name := by
  refine ⟨fun h => ?_, fun h => h ▸ ofName?_name f⟩
  unfold ofName? at h
  split at h <;> cases h <;> rfl

lemma parse_eq_ok_iff {s : String} {f : LogFormat} : parse s = .ok f ↔ SameLetters s f.name := by
  have hlower : lower f.name = f.name := by
    cases f <;> decide
  rw [sameLetters_iff hlower, ← ofName?_eq_some_iff]
  unfold parse
  split <;> simp_all

end LogFormat

section

variable {bound n m : Nat} {cs : List Char} {s : String}

lemma readDigits_eq_ok_iff (hn : n ≤ bound) : readDigits bound n cs = .ok m ↔
    (∀ c ∈ cs, c.isDigit = true) ∧ Nat.ofDigitChars 10 cs n = m ∧ m ≤ bound := by
  -- The value never falls, so a bound that is passed once is passed in the end.
  induction cs generalizing n with
  | nil =>
    simp only [readDigits, Except.ok.injEq, Nat.ofDigitChars_nil]
    constructor
    · rintro rfl
      exact ⟨nofun, rfl, hn⟩
    · exact fun h => h.2.1
  | cons c cs ih =>
    rw [readDigits, List.forall_mem_cons, Nat.ofDigitChars_cons]
    cases hc : c.isDigit with
    | false => simp
    | true =>
      have hdigit : 10 * n + (c.toNat - '0'.toNat) = n * 10 + Phrase.digit c := by
        rw [Nat.mul_comm]
        rfl
      simp only [Bool.not_true, Bool.false_eq_true, if_false, true_and, hdigit]
      by_cases hb : bound < n * 10 + Phrase.digit c
      · simp only [hb, if_true, reduceCtorEq, false_iff, not_and]
        rintro - rfl
        have := Phrase.le_ofDigitChars cs (n * 10 + Phrase.digit c)
        omega
      · simp only [hb, if_false]
        exact ih (by omega)

lemma readInteger_eq_ok_iff : readInteger bound s = .ok n ↔ IsNumeral s n ∧ n ≤ bound := by
  have hread (ds : List Char) : readDigits bound 0 ds = .ok n ↔
      (∀ c ∈ ds, c.isDigit = true) ∧ Nat.ofDigitChars 10 ds 0 = n ∧ n ≤ bound :=
    readDigits_eq_ok_iff (Nat.zero_le bound)
  unfold readInteger IsNumeral
  split
  · rename_i h
    simp [h]
  · rename_i h
    simp [h]
  · rename_i rest hne h
    rw [hread, h]
    constructor
    · rintro ⟨hdigits, hn, hle⟩
      exact ⟨⟨rest, .inr rfl, fun hnil => hne (hnil ▸ rfl), hdigits, hn⟩, hle⟩
    · rintro ⟨⟨ds, rfl | hds, -, hdigits, hn⟩, hle⟩
      · exact absurd (hdigits '+' List.mem_cons_self) (by decide)
      · obtain rfl := (List.cons.inj hds).2
        exact ⟨hdigits, hn, hle⟩
  · rename_i cs hempty hsign hplus
    rw [hread]
    constructor
    · rintro ⟨hdigits, hn, hle⟩
      exact ⟨⟨_, .inl rfl, hempty, hdigits, hn⟩, hle⟩
    · rintro ⟨⟨ds, rfl | hds, -, hdigits, hn⟩, hle⟩
      · exact ⟨hdigits, hn, hle⟩
      · exact absurd hds (hplus ds)

lemma readWord32_eq_ok_iff {n : UInt32} : readWord32 s = .ok n ↔ IsNumeral s n.toNat := by
  have hlt : n.toNat < 4294967296 := n.toNat_lt
  unfold readWord32
  constructor
  · intro h
    cases hr : readInteger 4294967295 s with
    | error e => simp [hr, Except.map] at h
    | ok k =>
      obtain ⟨hnumeral, hk⟩ := readInteger_eq_ok_iff.1 hr
      obtain rfl : k.toUInt32 = n := by simpa [hr, Except.map] using h
      rwa [UInt32.toNat_ofNat_of_lt' (by simpa [UInt32.size] using Nat.lt_succ_of_le hk)]
  · intro h
    rw [readInteger_eq_ok_iff.2 ⟨h, Nat.le_of_lt_succ hlt⟩]
    simp [Except.map]

lemma readWord64_eq_ok_iff {n : UInt64} : readWord64 s = .ok n ↔ IsNumeral s n.toNat := by
  have hlt : n.toNat < 18446744073709551616 := n.toNat_lt
  unfold readWord64
  constructor
  · intro h
    cases hr : readInteger 18446744073709551615 s with
    | error e => simp [hr, Except.map] at h
    | ok k =>
      obtain ⟨hnumeral, hk⟩ := readInteger_eq_ok_iff.1 hr
      obtain rfl : k.toUInt64 = n := by simpa [hr, Except.map] using h
      rwa [UInt64.toNat_ofNat_of_lt' (by simpa [UInt64.size] using Nat.lt_succ_of_le hk)]
  · intro h
    rw [readInteger_eq_ok_iff.2 ⟨h, Nat.le_of_lt_succ hlt⟩]
    simp [Except.map]

end

inductive Variable where
  | level
  | format
  | maxConcurrency
  | timeout
  | maxAttempts
deriving DecidableEq

namespace Variable

def order : List Variable := [level, format, maxConcurrency, timeout, maxAttempts]

def name : Variable → String
  | level => "LOG_LEVEL"
  | format => "LOG_FORMAT"
  | maxConcurrency => "MAX_CONCURRENCY"
  | timeout => "TIMEOUT"
  | maxAttempts => "RETRY_MAX_ATTEMPTS"

def Value : Variable → Type
  | level => LogLevel
  | format => LogFormat
  | maxConcurrency => UInt64
  | timeout => Duration
  | maxAttempts => UInt32

def Says : (v : Variable) → String → v.Value → Prop
  | level, s, l => ∃ name ∈ LogLevel.names l, SameLetters s name
  | format, s, f => SameLetters s (LogFormat.name f)
  | maxConcurrency, s, n => IsNumeral s (UInt64.toNat n)
  | timeout, s, d => Phrase.parse s = .ok d
  | maxAttempts, s, n => IsNumeral s (UInt32.toNat n)

inductive Refuses : Variable → String → LoadError → Prop
  | level {s : String} {why : String} : LogLevel.parse s = .error why →
      Refuses level s (Loader.invalid "LOG_LEVEL" s)
  | format {s : String} {why : String} : LogFormat.parse s = .error why →
      Refuses format s (Loader.invalid "LOG_FORMAT" s)
  | maxConcurrency {s : String} {e : IntegerFault} : readWord64 s = .error e →
      Refuses maxConcurrency s (Loader.invalid "MAX_CONCURRENCY" e.message)
  | timeout {s : String} {e : PhraseError} : Phrase.parse s = .error e → e ≠ .carry →
      Refuses timeout s (Loader.invalid "TIMEOUT" e.message)
  | carry {s : String} : Phrase.parse s = .error .carry →
      Refuses timeout s (.crash .durationCarry)
  | maxAttempts {s : String} {e : IntegerFault} : readWord32 s = .error e →
      Refuses maxAttempts s (Loader.invalid "RETRY_MAX_ATTEMPTS" e.message)

def put : (v : Variable) → v.Value → Settings → Settings
  | level, l, c => { c with logging.level := l }
  | format, f, c => { c with logging.format := f }
  | maxConcurrency, n, c => { c with execution.maxConcurrency := some n }
  | timeout, d, c => { c with policies.timeout := some d }
  | maxAttempts, n, c =>
    { c with policies.retry := some { c.policies.retry.getD .standard with maxAttempts := n } }

def change : Variable → Settings → String → Loaded Settings
  | level => Loader.setLevel
  | format => Loader.setFormat
  | maxConcurrency => Loader.setMaxConcurrency
  | timeout => Loader.setTimeout
  | maxAttempts => Loader.setMaxAttempts

variable {v : Variable} {s : String} {a : v.Value} {e : LoadError} {c : Settings}

lemma change_of_says (h : v.Says s a) (c : Settings) : v.change c s = .ok (v.put a c) := by
  cases v with
  | level => simp only [change, Loader.setLevel, LogLevel.parse_eq_ok_iff.2 h, put]
  | format => simp only [change, Loader.setFormat, LogFormat.parse_eq_ok_iff.2 h, put]
  | maxConcurrency =>
    simp only [change, Loader.setMaxConcurrency, readWord64_eq_ok_iff.2 h, put]
  | timeout =>
    have h : Phrase.parse s = .ok a := h
    simp only [change, Loader.setTimeout, h, put]
  | maxAttempts => simp only [change, Loader.setMaxAttempts, readWord32_eq_ok_iff.2 h, put]

lemma change_of_refuses (h : v.Refuses s e) (c : Settings) : v.change c s = .error e := by
  cases h with
  | level h => simp only [change, Loader.setLevel, h]
  | format h => simp only [change, Loader.setFormat, h]
  | maxConcurrency h => simp only [change, Loader.setMaxConcurrency, h]
  | @timeout _ e h hne =>
    cases e <;> first | exact absurd rfl hne | simp only [change, Loader.setTimeout, h]
  | carry h => simp only [change, Loader.setTimeout, h]
  | maxAttempts h => simp only [change, Loader.setMaxAttempts, h]

lemma says_or_refuses (v : Variable) (s : String) : (∃ a, v.Says s a) ∨ ∃ e, v.Refuses s e := by
  cases v with
  | level =>
    cases h : LogLevel.parse s with
    | ok l => exact .inl ⟨l, LogLevel.parse_eq_ok_iff.1 h⟩
    | error why => exact .inr ⟨_, .level h⟩
  | format =>
    cases h : LogFormat.parse s with
    | ok f => exact .inl ⟨f, LogFormat.parse_eq_ok_iff.1 h⟩
    | error why => exact .inr ⟨_, .format h⟩
  | maxConcurrency =>
    cases h : readWord64 s with
    | ok n => exact .inl ⟨n, readWord64_eq_ok_iff.1 h⟩
    | error e => exact .inr ⟨_, .maxConcurrency h⟩
  | timeout =>
    cases h : Phrase.parse s with
    | ok d => exact .inl ⟨d, h⟩
    | error e =>
      by_cases hcarry : e = .carry
      · exact .inr ⟨_, .carry (hcarry ▸ h)⟩
      · exact .inr ⟨_, .timeout h hcarry⟩
  | maxAttempts =>
    cases h : readWord32 s with
    | ok n => exact .inl ⟨n, readWord32_eq_ok_iff.1 h⟩
    | error e => exact .inr ⟨_, .maxAttempts h⟩

lemma not_says_of_refuses (h : v.Refuses s e) (a : v.Value) : ¬v.Says s a := by
  intro ha
  have hok := change_of_says ha {}
  rw [change_of_refuses h] at hok
  cases hok

lemma Refuses.names (h : v.Refuses s e) :
    (v = Variable.timeout ∧ Phrase.parse s = .error .carry) ∨
      ∃ why, e = Loader.invalid v.name why := by
  cases h with
  | carry h => exact .inl ⟨rfl, h⟩
  | level | format | maxConcurrency | timeout | maxAttempts => exact .inr ⟨_, rfl⟩

end Variable

abbrev Overrides := (v : Variable) → Option v.Value

/-- Settings with these values in place of their own; a missing retry section begins as the default
one. -/
def Overrides.apply (o : Overrides) (c : Settings) : Settings where
  policies := { c.policies with
    retry := match o .maxAttempts with
      | some n => some { c.policies.retry.getD .standard with maxAttempts := n }
      | none => c.policies.retry
    timeout := (o .timeout).or c.policies.timeout }
  execution := { c.execution with
    maxConcurrency := (o .maxConcurrency).or c.execution.maxConcurrency }
  logging := { c.logging with
    level := (o .level).getD c.logging.level
    format := (o .format).getD c.logging.format }

namespace Loader

def ReadsAt (l : Loader) (env : Environment) (v : Variable) (a : Option v.Value) : Prop :=
  match l.get env v.name with
  | some s => ∃ b, v.Says s b ∧ a = some b
  | none => a = none

def Reads (l : Loader) (env : Environment) (o : Overrides) : Prop := ∀ v, l.ReadsAt env v (o v)

/-- `v` is the first variable that is set and does not read, with what is reported of it. -/
structure FirstRefused (l : Loader) (env : Environment) (vs : List Variable) (v : Variable)
    (e : LoadError) : Prop where
  first : ∃ before after, vs = before ++ v :: after ∧ ∀ u ∈ before, ∃ a, l.ReadsAt env u a
  refused : ∃ s, l.get env v.name = some s ∧ v.Refuses s e

def pass (l : Loader) (env : Environment) (vs : List Variable) (c : Settings) : Loaded Settings :=
  vs.foldlM (fun c v => l.override env v.name v.change c) c

def putAll (o : Overrides) (vs : List Variable) (c : Settings) : Settings :=
  vs.foldl (fun c v => (o v).elim c (v.put · c)) c

variable {l : Loader} {env : Environment} {o : Overrides} {v : Variable} {vs : List Variable}
  {a : Option v.Value} {e : LoadError} {c c' : Settings}

lemma overrideAll_eq (l : Loader) (env : Environment) (c : Settings) :
    l.overrideAll env c = l.pass env Variable.order c := by
  simp only [overrideAll, pass, Variable.order, List.foldlM_cons, List.foldlM_nil, bind_pure]
  rfl

lemma putAll_order (o : Overrides) (c : Settings) : putAll o Variable.order c = o.apply c := by
  simp only [putAll, Variable.order, List.foldl_cons, List.foldl_nil, Overrides.apply]
  generalize o .level = level, o .format = format, o .maxConcurrency = slots,
    o .timeout = timeout, o .maxAttempts = attempts
  cases level <;> cases format <;> cases slots <;> cases timeout <;> cases attempts <;> rfl

lemma override_of_readsAt (h : l.ReadsAt env v a) (c : Settings) :
    l.override env v.name v.change c = .ok (a.elim c (v.put · c)) := by
  unfold ReadsAt at h
  unfold override
  cases hget : l.get env v.name with
  | none =>
    rw [hget] at h
    subst h
    rfl
  | some s =>
    rw [hget] at h
    obtain ⟨b, hb, rfl⟩ := h
    exact Variable.change_of_says hb c

lemma pass_of_reads (h : l.Reads env o) (c : Settings) : l.pass env vs c = .ok (putAll o vs c) := by
  induction vs generalizing c with
  | nil => rfl
  | cons v vs ih =>
    rw [pass, List.foldlM_cons, override_of_readsAt (h v)]
    exact ih _

lemma pass_of_readsAt (h : ∀ v ∈ vs, ∃ a, l.ReadsAt env v a) (c : Settings) :
    ∃ c', l.pass env vs c = .ok c' := by
  induction vs generalizing c with
  | nil => exact ⟨c, rfl⟩
  | cons v vs ih =>
    obtain ⟨⟨a, ha⟩, h⟩ := List.forall_mem_cons.1 h
    rw [pass, List.foldlM_cons, override_of_readsAt ha]
    exact ih h _

lemma pass_of_firstRefused (h : l.FirstRefused env vs v e) (c : Settings) :
    l.pass env vs c = .error e := by
  -- What comes before only changes the settings, and the refusal does not look at them.
  obtain ⟨before, after, rfl, hbefore⟩ := h.first
  obtain ⟨s, hs, hrefuses⟩ := h.refused
  obtain ⟨c', hc'⟩ := pass_of_readsAt hbefore c
  have hv : l.override env v.name v.change c' = .error e := by
    rw [override, hs]
    exact Variable.change_of_refuses hrefuses c'
  rw [pass] at hc' ⊢
  rw [List.foldlM_append, hc']
  simp only [List.foldlM_cons, bind, Except.bind, hv]

lemma readsAt_or_refused (l : Loader) (env : Environment) (v : Variable) :
    (∃ a, l.ReadsAt env v a) ∨ ∃ s e, l.get env v.name = some s ∧ v.Refuses s e := by
  unfold ReadsAt
  cases l.get env v.name with
  | none => exact .inl ⟨none, rfl⟩
  | some s =>
    rcases v.says_or_refuses s with ⟨a, ha⟩ | ⟨e, he⟩
    · exact .inl ⟨some a, a, ha, rfl⟩
    · exact .inr ⟨s, e, rfl, he⟩

lemma readsAt_or_firstRefused (l : Loader) (env : Environment) (vs : List Variable) :
    (∀ v ∈ vs, ∃ a, l.ReadsAt env v a) ∨ ∃ v e, l.FirstRefused env vs v e := by
  induction vs with
  | nil => exact .inl nofun
  | cons v vs ih =>
    rcases l.readsAt_or_refused env v with hv | ⟨s, e, hs, he⟩
    · rcases ih with hvs | ⟨u, e, hfirst, hrefused⟩
      · exact .inl (List.forall_mem_cons.2 ⟨hv, hvs⟩)
      · obtain ⟨before, after, rfl, hbefore⟩ := hfirst
        exact .inr ⟨u, e, ⟨v :: before, after, rfl, List.forall_mem_cons.2 ⟨hv, hbefore⟩⟩,
          hrefused⟩
    · exact .inr ⟨v, e, ⟨[], vs, rfl, nofun⟩, s, hs, he⟩

lemma mem_order (v : Variable) : v ∈ Variable.order := by
  cases v <;> decide

lemma reads_or_firstRefused (l : Loader) (env : Environment) :
    (∃ o, l.Reads env o) ∨ ∃ v e, l.FirstRefused env Variable.order v e := by
  rcases l.readsAt_or_firstRefused env Variable.order with h | h
  · choose o ho using fun v => h v (mem_order v)
    exact .inl ⟨o, ho⟩
  · exact .inr h

lemma not_firstRefused_of_reads (h : l.Reads env o) : ¬l.FirstRefused env vs v e := by
  intro hfirst
  obtain ⟨s, hs, hrefuses⟩ := hfirst.refused
  have hv := h v
  rw [ReadsAt, hs] at hv
  obtain ⟨a, ha, -⟩ := hv
  exact Variable.not_says_of_refuses hrefuses a ha

lemma reads_iff (l : Loader) (env : Environment) :
    (∃ o, l.Reads env o) ↔ ∀ v e, ¬l.FirstRefused env Variable.order v e := by
  refine ⟨fun ⟨o, ho⟩ v e => not_firstRefused_of_reads ho, fun h => ?_⟩
  rcases l.reads_or_firstRefused env with hreads | ⟨v, e, he⟩
  · exact hreads
  · exact absurd he (h v e)

lemma finish_of_reads (h : l.Reads env o) (c : Settings) :
    l.finish env c = check (o.apply c) := by
  rw [finish, overrideAll_eq, pass_of_reads h, putAll_order]
  rfl

lemma finish_of_firstRefused (h : l.FirstRefused env Variable.order v e) (c : Settings) :
    l.finish env c = .error e := by
  rw [finish, overrideAll_eq, pass_of_firstRefused h]
  rfl

lemma FirstRefused.names (h : l.FirstRefused env vs v e)
    (htimeout : ∀ s, l.get env "TIMEOUT" = some s → Phrase.parse s ≠ .error .carry) :
    ∃ why, e = invalid v.name why := by
  obtain ⟨s, hs, hrefuses⟩ := h.refused
  rcases hrefuses.names with ⟨rfl, hcarry⟩ | hwhy
  · exact absurd hcarry (htimeout s hs)
  · exact hwhy

lemma check_eq_ok_iff : check c = .ok c' ↔ c = c' ∧ c.check = .ok () := by
  unfold check
  cases c.check with
  | error e => simp [Except.mapError, bind, Except.bind]
  | ok => simp [Except.mapError, bind, Except.bind, pure, Except.pure]

lemma check_of_error {e : SettingsError} (h : c.check = .error e) :
    check c = .error (.refused e) := by
  rw [check, h]
  rfl

lemma apply_apply (o : Overrides) (c : Settings) : o.apply (o.apply c) = o.apply c := by
  unfold Overrides.apply
  generalize o .level = level, o .format = format, o .maxConcurrency = slots,
    o .timeout = timeout, o .maxAttempts = attempts
  cases level <;> cases format <;> cases slots <;> cases timeout <;> cases attempts <;> rfl

inductive Begins (l : Loader) (env : Environment) : Settings → Loaded Settings → Prop
  | defaults : Begins l env {} (l.ofEnvironment env)
  | document {d : Document} {c : Settings} : decode d = .ok c → Begins l env c (l.ofDocument env d)
  | text {text : String} {d : Document} {c : Settings} : readDocument text = .ok d →
      decode d = .ok c → Begins l env c (l.ofText env text)
  | file {bytes : Option ByteArray} {text : String} {d : Document} {c : Settings} :
      bytes.bind String.fromUTF8? = some text → readDocument text = .ok d → decode d = .ok c →
      Begins l env c (l.ofBytes env bytes)

lemma ofDocument_of_decode {d : Document} (h : decode d = .ok c) :
    l.ofDocument env d = l.finish env c := by
  rw [ofDocument, h]
  rfl

lemma ofText_of_readDocument {text : String} {d : Document} (h : readDocument text = .ok d) :
    l.ofText env text = l.ofDocument env d := by
  rw [ofText, h]
  rfl

lemma Begins.eq_finish {r : Loaded Settings} (h : l.Begins env c r) : r = l.finish env c := by
  cases h with
  | defaults => rfl
  | document hc => exact ofDocument_of_decode hc
  | text hd hc => rw [ofText_of_readDocument hd, ofDocument_of_decode hc]
  | file htext hd hc =>
    rw [ofBytes, htext]
    exact (ofText_of_readDocument hd).trans (ofDocument_of_decode hc)

lemma finish_eq_ok_iff : l.finish env c = .ok c' ↔
    ∃ o, l.Reads env o ∧ c' = o.apply c ∧ c'.check = .ok () := by
  constructor
  · intro h
    rcases l.reads_or_firstRefused env with ⟨o, ho⟩ | ⟨v, e, he⟩
    · rw [finish_of_reads ho, check_eq_ok_iff] at h
      obtain ⟨rfl, hcheck⟩ := h
      exact ⟨o, ho, rfl, hcheck⟩
    · rw [finish_of_firstRefused he] at h
      cases h
  · rintro ⟨o, ho, rfl, hcheck⟩
    rw [finish_of_reads ho, check_eq_ok_iff]
    exact ⟨rfl, hcheck⟩

lemma finish_again (h : l.finish env c = .ok c') : l.finish env c' = .ok c' := by
  obtain ⟨o, ho, rfl, hcheck⟩ := finish_eq_ok_iff.1 h
  exact finish_eq_ok_iff.2 ⟨o, ho, (apply_apply o c).symm, hcheck⟩

lemma decode_of_readsAs {d : Document} (h : c.encode.ReadsAs d) : decode d = .ok c := by
  rw [decode, Settings.inverts.reads c d h]
  rfl

structure Overridden (l : Loader) (env : Environment) (c : Settings) (r : Loaded Settings) :
    Prop where
  /-- It succeeds exactly if all variables that are set read and the settings with their values pass
  the check, however `c` itself would fare. -/
  ok_iff : ∀ c', r = .ok c' ↔ ∃ o, l.Reads env o ∧ c' = o.apply c ∧ c'.check = .ok ()
  /-- The first variable that does not read is reported, whatever the check would say. -/
  malformed : ∀ v e, l.FirstRefused env Variable.order v e → r = .error e
  reported : ∀ v e, l.FirstRefused env Variable.order v e →
    (∀ s, l.get env "TIMEOUT" = some s → Phrase.parse s ≠ .error .carry) →
      ∃ why, e = invalid v.name why
  invalid : ∀ o e, l.Reads env o → (o.apply c).check = .error e → r = .error (.refused e)
  reads_iff : (∃ o, l.Reads env o) ↔ ∀ v e, ¬l.FirstRefused env Variable.order v e
  /-- What was loaded and written loads as it is. -/
  again : ∀ c', r = .ok c' → ∀ d, c'.encode.ReadsAs d → l.ofDocument env d = .ok c' ∧
    ∀ text, readDocument text = .ok d → l.ofText env text = .ok c'

theorem overrides_are_exact {r : Loaded Settings} (h : l.Begins env c r) :
    l.Overridden env c r := by
  rw [h.eq_finish]
  exact {
    ok_iff := fun c' => finish_eq_ok_iff
    malformed := fun v e he => finish_of_firstRefused he c
    reported := fun v e he => he.names
    invalid := fun o e ho he => by rw [finish_of_reads ho, check_of_error he]
    reads_iff := l.reads_iff env
    again := fun c' hc' d hd => by
      have hdocument : l.ofDocument env d = .ok c' := by
        rw [ofDocument_of_decode (decode_of_readsAs hd), finish_again hc']
      exact ⟨hdocument, fun text htext => by rw [ofText_of_readDocument htext, hdocument]⟩ }

def impatient : Settings where
  policies := { timeout := some .zero }

def patience : Environment := fun name => if name = "BULWARK_TIMEOUT" then some "5s" else none

def fiveSeconds : Overrides
  | .timeout => some (.ofSecs 5)
  | .level | .format | .maxConcurrency | .maxAttempts => none

theorem patience_repairs : impatient.check ≠ .ok () ∧
    ({} : Loader).ofDocument patience impatient.encode =
      .ok { impatient with policies.timeout := some (.ofSecs 5) } := by
  have hdecode : decode impatient.encode = .ok impatient :=
    decode_of_readsAs (Settings.inverts.self impatient)
  have hreads : ({} : Loader).Reads patience fiveSeconds := by
    intro v
    cases v with
    | timeout =>
      have hparse : Phrase.parse "5s" = .ok (.ofSecs 5) := by decide +kernel
      exact ⟨_, hparse, rfl⟩
    | level | format | maxConcurrency | maxAttempts => rfl
  refine ⟨by decide +kernel, ?_⟩
  rw [(overrides_are_exact (.document hdecode)).ok_iff]
  exact ⟨fiveSeconds, hreads, rfl, by decide +kernel⟩

def garbled : Environment := fun name =>
  if name = "BULWARK_TIMEOUT" then some "18446744073709551615s 1000ms"
  else if name = "BULWARK_RETRY_MAX_ATTEMPTS" then some "x"
  else none

theorem garbled_timeout_crashes : ¬∀ (l : Loader) (env : Environment) (u v : Variable) (s : String)
    (d e : LoadError), l.FirstRefused env Variable.order v e →
      u ≠ v → l.get env u.name = some s → u.Refuses s d →
        ∃ why, l.ofEnvironment env = .error (invalid v.name why) := by
  have hparse : Phrase.parse "18446744073709551615s 1000ms" = .error .carry := by decide +kernel
  have hfirst : ({} : Loader).FirstRefused garbled Variable.order .timeout
      (.crash .durationCarry) := by
    refine ⟨⟨[.level, .format, .maxConcurrency], [.maxAttempts], rfl, ?_⟩, _, rfl, .carry hparse⟩
    simp only [List.forall_mem_cons]
    exact ⟨⟨none, rfl⟩, ⟨none, rfl⟩, ⟨none, rfl⟩, nofun⟩
  intro hreported
  have hattempts : Variable.maxAttempts.Refuses "x" _ :=
    .maxAttempts (show readWord32 "x" = .error .invalidDigit by decide +kernel)
  obtain ⟨why, hwhy⟩ := hreported {} garbled .maxAttempts .timeout "x" _ _ hfirst (by decide) rfl
    hattempts
  rw [ofEnvironment, finish_of_firstRefused hfirst] at hwhy
  cases hwhy

end Loader
end Resilience

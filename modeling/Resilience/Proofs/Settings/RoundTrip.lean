import Resilience.Proofs.Duration.RoundTrip
import Resilience.Proofs.Settings.Reading
import Resilience.Settings.Decode
import Resilience.Settings.Encode

namespace Resilience

namespace Document

variable {α β : Type}

/-- `decode` reads what `encode` writes, however a format gives it back. -/
structure Inverts (decode : Document → Decoded α) (encode : α → Document) : Prop where
  self : ∀ a, (encode a).ReadsAs (encode a)
  reads : ∀ a d, (encode a).ReadsAs d → decode d = .ok a

lemma inverts_flag : Inverts flag .bool where
  self _ := .bool
  reads b d h := by
    rw [flag, h.bool?_eq]
    rfl

lemma inverts_word32 : Inverts word32 fun n => natural n.toNat where
  self _ := .integer
  reads n d h := by
    have hlt : n.toNat < 4294967296 := n.toNat_lt
    simp [word32, h.natural?_eq, orMalformed, bind, Except.bind, pure, Except.pure, hlt]

lemma inverts_word64 : Inverts word64 fun n => natural n.toNat where
  self _ := .integer
  reads n d h := by
    have hlt : n.toNat < 18446744073709551616 := n.toNat_lt
    simp [word64, h.natural?_eq, orMalformed, bind, Except.bind, pure, Except.pure, hlt]

lemma inverts_phrase : Inverts phrase duration where
  self _ := .text
  reads t d h := by
    simp only [phrase, h.text?_eq, orMalformed, bind, Except.bind, Phrase.parse_print]
    rfl

lemma inverts_text : Inverts (fun d => orMalformed d.text?) .text where
  self _ := .text
  reads s d h := by simp only [h.text?_eq, orMalformed]

lemma inverts_choice {ofName? : String → Option α} {name : α → String}
    (hname : ∀ a, ofName? (name a) = some a) :
    Inverts (choice ofName?) fun a => .text (name a) where
  self _ := .text
  reads a d h := by
    cases h with
    | text => simp only [choice, text?, bind, Option.bind, hname, orMalformed]
    | word | quoted => simp only [choice, hname, orMalformed]

lemma inverts_items {decode : Document → Decoded α} {encode : α → Document}
    (h : Inverts decode encode) :
    Inverts (fun d => do (← itemsOf d).mapM decode) fun as => .list true (as.map encode) := by
  refine ⟨fun as => ?_, fun as d hd => ?_⟩
  · refine .list (List.forall₂_same.2 fun d hd => ?_)
    obtain ⟨a, -, rfl⟩ := List.mem_map.1 hd
    exact h.self a
  cases hd with
  | @list _ _ _ ds hds =>
    suffices hmap : ds.mapM decode = .ok as by
      simpa only [itemsOf, bind, Except.bind] using hmap
    generalize hes : as.map encode = es at hds
    induction hds generalizing as with
    | nil =>
      rw [List.map_eq_nil_iff] at hes
      subst hes
      rfl
    | cons hd _ ih =>
      obtain ⟨a, as, rfl, rfl, rfl⟩ := List.map_eq_cons_iff.1 hes
      simp only [List.mapM_cons, h.reads a _ hd, ih as rfl, bind, Except.bind]
      rfl

def entries (fs : Fields) : List (Document × Document) := fs.map fun f => entry f.1 f.2

def given (name : String) (a : Option α) (f : α → Document) : Fields :=
  (a.map fun a => (name, f a)).toList

lemma optional_eq_entries (name : String) (a : Option α) (f : α → Document) :
    optional name a f = entries (given name a f) := by
  cases a <;> rfl

lemma lookup_given (m name : String) (a : Option α) (f : α → Document) :
    (given name a f).lookup m = if m == name then a.map f else none := by
  cases a with
  | none => simp [given]
  | some a =>
    cases h : m == name <;> simp [given, List.lookup_cons, h]

lemma names_given (name : String) (a : Option α) (f : α → Document) :
    ((given name a f).map (·.1)).Sublist [name] := by
  cases a with
  | none => exact List.nil_sublist _
  | some a => exact List.Sublist.refl _

def FieldsReadAs : Fields → Fields → Prop :=
  List.Forall₂ fun f g => f.1 = g.1 ∧ f.2.ReadsAs g.2

lemma known_eq {names : List String} {fs found : Fields} {es : List (Document × Document)}
    (hnames : ∀ f ∈ fs, f.1 ∈ names) (hnodup : (fs.map (·.1)).Nodup)
    (hnew : ∀ f ∈ fs, ∀ g ∈ found, g.1 ≠ f.1) (h : List.Forall₂ EntryReadsAs (entries fs) es) :
    ∃ gs, known names es found = .ok (found ++ gs) ∧ FieldsReadAs fs gs := by
  induction fs generalizing found es with
  | nil =>
    cases h
    exact ⟨[], by rw [known, List.append_nil], .nil⟩
  | cons f fs ih =>
    obtain ⟨hname, hnames⟩ := List.forall_mem_cons.1 hnames
    obtain ⟨hfresh, hnew⟩ := List.forall_mem_cons.1 hnew
    rw [List.map_cons, List.nodup_cons] at hnodup
    obtain ⟨hnot, hnodup⟩ := hnodup
    cases h with
    | @cons _ e _ es he hes =>
      cases he with
      | @intro _ key _ d hkey hd =>
        have hfield : fieldName? names key = some f.1 := by
          cases hkey <;> rfl
        have hany : found.any (·.1 == f.1) = false := by
          rw [List.any_eq_false]
          intro g hg
          simpa using hfresh g hg
        have hrest : ∀ f' ∈ fs, ∀ g ∈ found ++ [(f.1, d)], g.1 ≠ f'.1 := by
          intro f' hf' g hg
          rcases List.mem_append.1 hg with hg | hg
          · exact hnew f' hf' g hg
          · rw [List.mem_singleton.1 hg]
            exact fun heq => hnot (List.mem_map.2 ⟨f', hf', heq.symm⟩)
        obtain ⟨gs, hgs, hread⟩ := ih hnames hnodup hrest hes
        refine ⟨(f.1, d) :: gs, ?_, .cons ⟨rfl, hd⟩ hread⟩
        simp [known, hfield, orMalformed, hname, hany, hgs, bind, Except.bind]

lemma fields_eq (names : List String) (fs : Fields) {d : Document} (hnodup : names.Nodup)
    (hsub : (fs.map (·.1)).Sublist names) (h : (record (entries fs)).ReadsAs d) :
    ∃ gs, fields names d = .ok gs ∧ FieldsReadAs fs gs := by
  cases h with
  | map hes =>
    have hmem : ∀ f ∈ fs, f.1 ∈ names := fun f hf => hsub.subset (List.mem_map_of_mem hf)
    have hnew : ∀ f ∈ fs, ∀ g ∈ ([] : Fields), g.1 ≠ f.1 := by simp
    obtain ⟨gs, hgs, hread⟩ := known_eq hmem (hnodup.sublist hsub) hnew hes
    exact ⟨gs, by rw [fields, hgs, List.nil_append], hread⟩

lemma readsAs_record (fs : Fields) (h : ∀ f ∈ fs, f.2.ReadsAs f.2) :
    (record (entries fs)).ReadsAs (record (entries fs)) := by
  refine .map (List.forall₂_same.2 fun e he => ?_)
  obtain ⟨f, hf, rfl⟩ := List.mem_map.1 he
  exact .intro .text (h f hf)

lemma Inverts.given {decode : Document → Decoded α} {encode : α → Document}
    (h : Inverts decode encode) (name : String) (a : Option α) :
    ∀ f ∈ given name a encode, f.2.ReadsAs f.2 := by
  cases a with
  | none => exact nofun
  | some a =>
    intro f hf
    rw [List.mem_singleton.1 hf]
    exact h.self a

namespace FieldsReadAs

variable {fs gs : Fields} {name : String} {d : Document} {decode : Document → Decoded α}
  {default a : α}

lemma lookup (h : FieldsReadAs fs gs) (name : String) :
    (fs.lookup name = none ∧ gs.lookup name = none) ∨
      ∃ d d', fs.lookup name = some d ∧ gs.lookup name = some d' ∧ d.ReadsAs d' := by
  induction h with
  | nil => exact .inl ⟨rfl, rfl⟩
  | @cons f g fs gs hfg _ ih =>
    obtain ⟨hname, hread⟩ := hfg
    rw [List.lookup_cons, List.lookup_cons, hname]
    cases name == g.1 with
    | true => exact .inr ⟨f.2, g.2, rfl, rfl, hread⟩
    | false => exact ih

lemma exists_lookup (h : FieldsReadAs fs gs) (hl : fs.lookup name = some d) :
    ∃ d', gs.lookup name = some d' ∧ d.ReadsAs d' := by
  rcases h.lookup name with ⟨hnone, -⟩ | ⟨d, d', hd, hd', hread⟩
  · rw [hl] at hnone
    cases hnone
  · rw [hl] at hd
    cases hd
    exact ⟨d', hd', hread⟩

lemma get_eq (h : FieldsReadAs fs gs) (hl : fs.lookup name = some d)
    (hdecode : ∀ d', d.ReadsAs d' → decode d' = .ok a) : gs.get name default decode = .ok a := by
  obtain ⟨d', hd', hread⟩ := h.exists_lookup hl
  rw [Fields.get, hd']
  exact hdecode d' hread

lemma need_eq (h : FieldsReadAs fs gs) (hl : fs.lookup name = some d)
    (hdecode : ∀ d', d.ReadsAs d' → decode d' = .ok a) : gs.need name decode = .ok a := by
  obtain ⟨d', hd', hread⟩ := h.exists_lookup hl
  rw [Fields.need, hd']
  exact hdecode d' hread

lemma get_eq_default (h : FieldsReadAs fs gs) (hl : fs.lookup name = none) :
    gs.get name default decode = .ok default := by
  rcases h.lookup name with ⟨-, hnone⟩ | ⟨d, d', hd, -⟩
  · rw [Fields.get, hnone]
  · rw [hl] at hd
    cases hd

lemma get_option {encode : α → Document} {a : Option α} (h : FieldsReadAs fs gs)
    (hinverts : Inverts decode encode) (hl : fs.lookup name = a.map encode) :
    gs.get name none (option decode) = .ok a := by
  cases a with
  | none => exact h.get_eq_default hl
  | some a =>
    refine h.get_eq hl fun d' hread => ?_
    obtain ⟨habsent, hnull⟩ := hread.present
    rw [option, habsent, hnull, hinverts.reads a d' hread]
    rfl

end FieldsReadAs

end Document

open Document

namespace Rate

def written (r : Rate) : Fields := [("count", natural r.count.toNat), ("per", duration r.per)]

lemma inverts : Inverts Rate.decode Rate.encode := by
  refine ⟨fun r => readsAs_record r.written ?_, fun r d h => ?_⟩
  · simp only [written, List.forall_mem_cons]
    exact ⟨.integer, .text, nofun⟩
  obtain ⟨gs, hgs, hread⟩ :=
    fields_eq ["count", "per"] r.written (by decide) (List.Sublist.refl _) h
  have hcount : gs.need "count" word32 = .ok r.count :=
    hread.need_eq rfl (inverts_word32.reads r.count)
  have hper : gs.need "per" phrase = .ok r.per := hread.need_eq rfl (inverts_phrase.reads r.per)
  simp only [Rate.decode, hgs, hcount, hper, bind, Except.bind]
  rfl

end Rate

namespace RateLimit

def written (c : RateLimit) : Fields :=
  [("rate", c.rate.encode)] ++ given "burst" c.burst (fun n => natural n.toNat) ++
    given "max_wait" c.maxWait duration

lemma encode_eq (c : RateLimit) : c.encode = record (entries c.written) := by
  simp [encode, written, optional_eq_entries, entries]

lemma names_written (c : RateLimit) :
    (c.written.map (·.1)).Sublist ["rate", "burst", "max_wait"] := by
  rw [written, List.map_append, List.map_append]
  exact ((List.Sublist.refl ["rate"]).append (names_given ..)).append (names_given ..)

lemma inverts : Inverts RateLimit.decode RateLimit.encode := by
  refine ⟨fun c => ?_, fun c d h => ?_⟩
  · rw [encode_eq]
    apply readsAs_record
    simp only [written, List.forall_mem_append, List.forall_mem_singleton]
    exact ⟨⟨Rate.inverts.self c.rate, inverts_word32.given _ _⟩, inverts_phrase.given _ _⟩
  rw [encode_eq] at h
  obtain ⟨gs, hgs, hread⟩ := fields_eq _ _ (by decide) c.names_written h
  have hrate : gs.need "rate" Rate.decode = .ok c.rate :=
    hread.need_eq rfl (Rate.inverts.reads c.rate)
  have hburst : gs.get "burst" none (option word32) = .ok c.burst :=
    hread.get_option inverts_word32
      (by simp [written, List.lookup_append, List.lookup_cons, lookup_given])
  have hwait : gs.get "max_wait" none (option phrase) = .ok c.maxWait :=
    hread.get_option inverts_phrase
      (by simp [written, List.lookup_append, List.lookup_cons, lookup_given])
  simp only [RateLimit.decode, hgs, hrate, hburst, hwait, bind, Except.bind]
  rfl

end RateLimit

namespace BreakerConfig

def written (c : BreakerConfig) : Fields :=
  [("failure_threshold", natural c.failureThreshold.toNat),
    ("open_duration", duration c.openDuration)]

lemma inverts : Inverts BreakerConfig.decode BreakerConfig.encode := by
  refine ⟨fun c => readsAs_record c.written ?_, fun c d h => ?_⟩
  · simp only [written, List.forall_mem_cons]
    exact ⟨.integer, .text, nofun⟩
  obtain ⟨gs, hgs, hread⟩ := fields_eq ["failure_threshold", "open_duration"] c.written
    (by decide) (List.Sublist.refl _) h
  have hthreshold (k : UInt32) : gs.get "failure_threshold" k word32 = .ok c.failureThreshold :=
    hread.get_eq rfl (inverts_word32.reads c.failureThreshold)
  have hopen (k : Duration) : gs.get "open_duration" k phrase = .ok c.openDuration :=
    hread.get_eq rfl (inverts_phrase.reads c.openDuration)
  simp only [BreakerConfig.decode, hgs, hthreshold, hopen, bind, Except.bind]
  rfl

end BreakerConfig

namespace Strategy

lemma resolved?_bare {name : String} {d : Document}
    (h : (record [entry "type" (.text name)]).ReadsAs d) :
    d.resolved? = some (.map [(.text "type", .text name)]) := by
  cases h with
  | map hes =>
    cases hes with
    | cons he hnil =>
      cases hnil
      cases he with
      | intro hkey hname =>
        simp [resolved?, resolvedEntries?, hkey.resolved?_eq trivial, hname.resolved?_eq trivial]

lemma resolved?_one {name field : String} {d x : Document}
    (h : (record [entry "type" (.text name), entry field x]).ReadsAs d) : ∃ x', x.ReadsAs x' ∧
      ∀ x'', x'.resolved? = some x'' →
        d.resolved? = some (.map [(.text "type", .text name), (.text field, x'')]) := by
  cases h with
  | map hes =>
    cases hes with
    | cons he hes =>
      cases hes with
      | cons hf hnil =>
        cases hnil
        cases he with
        | intro hkey hname =>
          cases hf with
          | @intro _ _ _ x' hfield hx =>
            refine ⟨x', hx, fun x'' hx'' => ?_⟩
            simp [resolved?, resolvedEntries?, hkey.resolved?_eq trivial,
              hname.resolved?_eq trivial, hfield.resolved?_eq trivial, hx'']

def delays (millis : List UInt64) : List Document := millis.map fun m => natural m.toNat

lemma held_delays (millis : List UInt64) : ∀ d ∈ delays millis, d.IsHeld := by
  intro d hd
  obtain ⟨m, -, rfl⟩ := List.mem_map.1 hd
  exact ⟨Int.natCast_nonneg _, Int.ofNat_lt.2 m.toNat_lt⟩

lemma readsAs_delays (millis : List UInt64) (q : Bool) :
    (Document.list true (delays millis)).ReadsAs (.list q (delays millis)) := by
  cases (inverts_items inverts_word64).self millis with
  | list h => exact .list h

lemma self_readsAs (s : Strategy Float) : s.encode.ReadsAs s.encode := by
  cases s with
  | fixed | linear | fibonacci => exact .map (.cons (.intro .text .text) .nil)
  | exponential =>
    exact .map (.cons (.intro .text .text) (.cons (.intro .text .float) .nil))
  | custom millis =>
    have hdelays := readsAs_delays millis true
    exact .map (.cons (.intro .text .text) (.cons (.intro .text hdelays) .nil))

lemma inverts : Inverts Strategy.decode Strategy.encode := by
  refine ⟨self_readsAs, fun s d h => ?_⟩
  cases s with
  | fixed | linear | fibonacci =>
    simp only [decode, resolved?_bare h, orMalformed, bind, Except.bind]
    rfl
  | exponential base =>
    obtain ⟨x, hx, hd⟩ := resolved?_one h
    simp only [decode, hd _ (hx.resolved?_eq trivial), orMalformed, bind, Except.bind]
    rfl
  | custom millis =>
    obtain ⟨x, hx, hd⟩ := resolved?_one h
    cases hx with
    | @list _ q _ items hitems =>
      have hitems : List.Forall₂ ReadsAs (delays millis) items := hitems
      have hlist : (Document.list q items).resolved? = some (.list q (delays millis)) := by
        simp [resolved?, resolvedItems?_eq hitems (held_delays millis)]
      have hvariant : variantOf (.map [(.text "type", .text "custom"),
          (.text "delays_ms", .list q (delays millis))]) =
          .ok ("custom", .map [(.text "delays_ms", .list q (delays millis))]) := rfl
      have hfields : fields ["delays_ms"] (.map [(.text "delays_ms", .list q (delays millis))]) =
          .ok [("delays_ms", .list q (delays millis))] := rfl
      have hneed : Fields.need [("delays_ms", .list q (delays millis))] "delays_ms"
          (fun d => do (← itemsOf d).mapM word64) = .ok millis :=
        (inverts_items inverts_word64).reads millis _ (readsAs_delays millis q)
      simp only [bind, Except.bind] at hneed
      simp only [decode, hd _ hlist, orMalformed, bind, Except.bind, hvariant, hfields, hneed]
      rfl

end Strategy

namespace BackoffPolicy

def written (p : BackoffPolicy Float) : Fields :=
  [("max_attempts", natural p.maxAttempts.toNat), ("initial_delay", duration p.initialDelay),
    ("max_delay", duration p.maxDelay), ("backoff_strategy", p.strategy.encode),
    ("jitter", .bool p.jitter)]

lemma inverts : Inverts BackoffPolicy.decode BackoffPolicy.encode := by
  refine ⟨fun p => readsAs_record (written p) ?_, fun p d h => ?_⟩
  · simp only [written, List.forall_mem_cons]
    exact ⟨.integer, .text, .text, p.strategy.self_readsAs, .bool, nofun⟩
  obtain ⟨gs, hgs, hread⟩ :=
    fields_eq ["max_attempts", "initial_delay", "max_delay", "backoff_strategy", "jitter"]
      (written p) (by decide) (List.Sublist.refl _) h
  have hattempts (k : UInt32) : gs.get "max_attempts" k word32 = .ok p.maxAttempts :=
    hread.get_eq rfl (inverts_word32.reads p.maxAttempts)
  have hinitial (k : Duration) : gs.get "initial_delay" k phrase = .ok p.initialDelay :=
    hread.get_eq rfl (inverts_phrase.reads p.initialDelay)
  have hmax (k : Duration) : gs.get "max_delay" k phrase = .ok p.maxDelay :=
    hread.get_eq rfl (inverts_phrase.reads p.maxDelay)
  have hstrategy (k : Strategy Float) :
      gs.get "backoff_strategy" k Strategy.decode = .ok p.strategy :=
    hread.get_eq rfl (Strategy.inverts.reads p.strategy)
  have hjitter (k : Bool) : gs.get "jitter" k flag = .ok p.jitter :=
    hread.get_eq rfl (inverts_flag.reads p.jitter)
  simp only [BackoffPolicy.decode, hgs, hattempts, hinitial, hmax, hstrategy, hjitter, bind,
    Except.bind]
  rfl

end BackoffPolicy

namespace PolicyStack

def written (s : PolicyStack) : Fields :=
  given "retry" s.retry BackoffPolicy.encode ++ given "timeout" s.timeout duration ++
    given "attempt_timeout" s.attemptTimeout duration ++
    given "rate_limit" s.rateLimit RateLimit.encode ++
    given "circuit_breaker" s.circuitBreaker BreakerConfig.encode

lemma encode_eq (s : PolicyStack) : s.encode = record (entries s.written) := by
  simp [encode, written, optional_eq_entries, entries]

lemma names_written (s : PolicyStack) : (s.written.map (·.1)).Sublist
    ["retry", "timeout", "attempt_timeout", "rate_limit", "circuit_breaker"] := by
  simp only [written, List.map_append]
  exact ((((names_given ..).append (names_given ..)).append (names_given ..)).append
    (names_given ..)).append (names_given ..)

lemma inverts : Inverts PolicyStack.decode PolicyStack.encode := by
  refine ⟨fun s => ?_, fun s d h => ?_⟩
  · rw [encode_eq]
    apply readsAs_record
    simp only [written, List.forall_mem_append]
    exact ⟨⟨⟨⟨BackoffPolicy.inverts.given _ _, inverts_phrase.given _ _⟩, inverts_phrase.given _ _⟩,
      RateLimit.inverts.given _ _⟩, BreakerConfig.inverts.given _ _⟩
  rw [encode_eq] at h
  obtain ⟨gs, hgs, hread⟩ := fields_eq _ _ (by decide) s.names_written h
  have hretry : gs.get "retry" none (option BackoffPolicy.decode) = .ok s.retry :=
    hread.get_option BackoffPolicy.inverts (by simp [written, List.lookup_append, lookup_given])
  have htimeout : gs.get "timeout" none (option phrase) = .ok s.timeout :=
    hread.get_option inverts_phrase (by simp [written, List.lookup_append, lookup_given])
  have hattempt : gs.get "attempt_timeout" none (option phrase) = .ok s.attemptTimeout :=
    hread.get_option inverts_phrase (by simp [written, List.lookup_append, lookup_given])
  have hlimit : gs.get "rate_limit" none (option RateLimit.decode) = .ok s.rateLimit :=
    hread.get_option RateLimit.inverts (by simp [written, List.lookup_append, lookup_given])
  have hbreaker : gs.get "circuit_breaker" none (option BreakerConfig.decode) =
      .ok s.circuitBreaker :=
    hread.get_option BreakerConfig.inverts (by simp [written, List.lookup_append, lookup_given])
  simp only [PolicyStack.decode, hgs, hretry, htimeout, hattempt, hlimit, hbreaker, bind,
    Except.bind]
  rfl

end PolicyStack

lemma ExecutorConfig.inverts : Inverts ExecutorConfig.decode ExecutorConfig.encode := by
  refine ⟨fun c => ?_, fun c d h => ?_⟩
  · rw [ExecutorConfig.encode, optional_eq_entries]
    exact readsAs_record _ (inverts_word64.given _ _)
  rw [ExecutorConfig.encode, optional_eq_entries] at h
  obtain ⟨gs, hgs, hread⟩ := fields_eq ["max_concurrency"] _ (by decide) (names_given ..) h
  have hmax : gs.get "max_concurrency" none (option word64) = .ok c.maxConcurrency :=
    hread.get_option inverts_word64 (by simp [lookup_given])
  simp only [ExecutorConfig.decode, hgs, hmax, bind, Except.bind]
  rfl

lemma LogLevel.ofName?_name (l : LogLevel) : LogLevel.ofName? l.name = some l := by
  cases l <;> rfl

lemma LogFormat.ofName?_name (f : LogFormat) : LogFormat.ofName? f.name = some f := by
  cases f <;> rfl

namespace LoggingConfig

def listed (c : LoggingConfig) : Option (List String) :=
  if c.directives.isEmpty then none else some c.directives

def written (c : LoggingConfig) : Fields :=
  [("level", .text c.level.name), ("format", .text c.format.name)] ++
    given "directives" c.listed (fun ds => .list true (ds.map .text)) ++
    [("include_location", .bool c.includeLocation)]

lemma encode_eq (c : LoggingConfig) : c.encode = record (entries c.written) := by
  unfold encode written listed
  split <;> rfl

lemma names_written (c : LoggingConfig) : (c.written.map (·.1)).Sublist
    ["level", "format", "directives", "include_location"] := by
  simp only [written, List.map_append]
  exact ((List.Sublist.refl ["level", "format"]).append (names_given ..)).append
    (List.Sublist.refl ["include_location"])

lemma inverts : Inverts LoggingConfig.decode LoggingConfig.encode := by
  refine ⟨fun c => ?_, fun c d h => ?_⟩
  · rw [encode_eq]
    apply readsAs_record
    simp only [written, List.forall_mem_append, List.forall_mem_cons]
    exact ⟨⟨⟨.text, .text, nofun⟩, (inverts_items inverts_text).given _ _⟩, .bool, nofun⟩
  rw [encode_eq] at h
  obtain ⟨gs, hgs, hread⟩ := fields_eq _ _ (by decide) c.names_written h
  have hlevel (k : LogLevel) : gs.get "level" k (choice LogLevel.ofName?) = .ok c.level :=
    hread.get_eq rfl ((inverts_choice LogLevel.ofName?_name).reads c.level)
  have hformat (k : LogFormat) : gs.get "format" k (choice LogFormat.ofName?) = .ok c.format :=
    hread.get_eq rfl ((inverts_choice LogFormat.ofName?_name).reads c.format)
  have hdirectives : gs.get "directives" [] (fun d => do
      (← itemsOf d).mapM fun d => orMalformed d.text?) = .ok c.directives := by
    have hlookup : c.written.lookup "directives" =
        c.listed.map fun ds => .list true (ds.map .text) := by
      simp [written, List.lookup_append, List.lookup_cons, lookup_given]
    unfold listed at hlookup
    split at hlookup
    · rename_i hempty
      rw [List.isEmpty_iff.1 hempty]
      exact hread.get_eq_default hlookup
    · exact hread.get_eq hlookup ((inverts_items inverts_text).reads c.directives)
  have hlocation (k : Bool) : gs.get "include_location" k flag = .ok c.includeLocation :=
    hread.get_eq (by simp [written, List.lookup_append, List.lookup_cons, lookup_given])
      (inverts_flag.reads c.includeLocation)
  simp only [bind, Except.bind] at hdirectives
  simp only [LoggingConfig.decode, hgs, hlevel, hformat, hdirectives, hlocation, bind, Except.bind]
  rfl

end LoggingConfig

namespace Settings

def written (s : Settings) : Fields :=
  [("policies", s.policies.encode), ("execution", s.execution.encode),
    ("logging", s.logging.encode)]

lemma inverts : Inverts Settings.decode Settings.encode := by
  refine ⟨fun s => readsAs_record s.written ?_, fun s d h => ?_⟩
  · simp only [written, List.forall_mem_cons]
    exact ⟨PolicyStack.inverts.self s.policies, ExecutorConfig.inverts.self s.execution,
      LoggingConfig.inverts.self s.logging, nofun⟩
  obtain ⟨gs, hgs, hread⟩ := fields_eq ["policies", "execution", "logging"] s.written
    (by decide) (List.Sublist.refl _) h
  have hpolicies : gs.get "policies" {} PolicyStack.decode = .ok s.policies :=
    hread.get_eq rfl (PolicyStack.inverts.reads s.policies)
  have hexecution : gs.get "execution" {} ExecutorConfig.decode = .ok s.execution :=
    hread.get_eq rfl (ExecutorConfig.inverts.reads s.execution)
  have hlogging : gs.get "logging" {} LoggingConfig.decode = .ok s.logging :=
    hread.get_eq rfl (LoggingConfig.inverts.reads s.logging)
  simp only [Settings.decode, hgs, hpolicies, hexecution, hlogging, bind, Except.bind]
  rfl

/-- Settings come back equal, from the document itself and from all that formats make of it. -/
theorem come_back_as_written (s : Settings) : Settings.decode s.encode = .ok s ∧
    ∀ d, s.encode.ReadsAs d → Settings.decode d = .ok s :=
  ⟨inverts.reads s _ (inverts.self s), inverts.reads s⟩

def patient : Settings where
  policies := {
    retry := some {
      maxAttempts := 3
      initialDelay := .ofMillis 100
      maxDelay := .ofSecs 5400
      strategy := .custom [50, 18446744073709551615]
      jitter := true }
    timeout := some .longest }
  logging := { level := .warn, directives := ["net=debug"] }

def patientRead : Document :=
  let quoted (s : String) : Document := .written { text := s, plain := false }
  let bare (s : String) : Document := .written { text := s, plain := true }
  .map [
    (quoted "policies", .map [
      (quoted "retry", .map [
        (quoted "max_attempts", bare "3"),
        (quoted "initial_delay", quoted "100ms"),
        (quoted "max_delay", quoted "1h 30m"),
        (quoted "backoff_strategy", .map [
          (quoted "type", quoted "custom"),
          (quoted "delays_ms", .list false [bare "50", bare "18446744073709551615"])]),
        (quoted "jitter", bare "true")]),
      (quoted "timeout", quoted "584542046090years 7months 15days 17h 5m 3s 999ms 999us 999ns")]),
    (quoted "execution", .map []),
    (quoted "logging", .map [
      (quoted "level", quoted "warn"),
      (quoted "format", quoted "text"),
      (quoted "directives", .list false [quoted "net=debug"]),
      (quoted "include_location", bare "false")])]

lemma patient_readsAs : patient.encode.ReadsAs patientRead := by
  refine .map (.cons (.intro .quoted ?policies) (.cons (.intro .quoted (.map .nil))
    (.cons (.intro .quoted ?logging) .nil)))
  case policies =>
    refine .map (.cons (.intro .quoted ?retry) (.cons (.intro .quoted .quoted) .nil))
    refine .map (.cons (.intro .quoted .number) (.cons (.intro .quoted .quoted)
      (.cons (.intro .quoted .quoted) (.cons (.intro .quoted ?strategy)
        (.cons (.intro .quoted .truth) .nil)))))
    exact .map (.cons (.intro .quoted .quoted) (.cons (.intro .quoted
      (.list (.cons .number (.cons .number .nil)))) .nil))
  case logging =>
    exact .map (.cons (.intro .quoted .quoted) (.cons (.intro .quoted .quoted)
      (.cons (.intro .quoted (.list (.cons .quoted .nil))) (.cons (.intro .quoted .truth) .nil))))

theorem patient_comes_back : Settings.decode patientRead = .ok patient :=
  (come_back_as_written patient).2 patientRead patient_readsAs

end Settings

end Resilience

import AttributeGateway.Config.Document
import Mathlib.Tactic.Tauto

/-!
# Which documents are accepted

A document is read against the documented settings: each of its keys is one of them, each value
stands for a setting of its type and range, and a setting without a value has its default. The
configuration that comes out is accepted if it has no defect.

At the two tables inside a document the reader is lax. It looks the two settings of a table up and
passes over whatever else is in it, takes an array for the settings in order, and takes a date or
time for a table without entries. So it accepts every document that is as documented, and besides
those that depart from the documentation inside these tables and nowhere else.

* `IsText`, `IsSwitch`, `IsPort`, `IsSize`, `Given` — what a setting is.
* `Entered`, `Offered` — what a table gives for its settings as documented, and as it is read.
* `Described` — the configuration that the entries of a document stand for.
* `described_entered_iff` — a document is as documented if it is read, and plain inside its tables.
* `ofDocument_iff` — the documents that are accepted, those of them that are as documented, and why
  the others are not accepted.
-/

namespace AttributeGateway

open Toml (Entries)

namespace Setting

/-! ### Single settings -/

/-- The value is this text. -/
def IsText (v : Toml.Value) (s : String) : Prop := v = .string s

/-- The value is this switch. -/
def IsSwitch (v : Toml.Value) (b : Bool) : Prop := v = .boolean b

/-- The value is the number of this port. -/
def IsPort (v : Toml.Value) (p : UInt16) : Prop := v = .integer p.toNat

/-- The value is this size or duration. -/
def IsSize (v : Toml.Value) (n : UInt64) : Prop := v = .integer n.toNat

/-- What a setting is: what its value stands for, and the default if it has no value. -/
inductive Given {α : Type} (Means : Toml.Value → α → Prop) (default : α) :
    Option Toml.Value → α → Prop where
  | present {v : Toml.Value} {a : α} (h : Means v a) : Given Means default (some v) a
  | absent : Given Means default none default

/-- A reader gives what a value means, and nothing where it means nothing. -/
def Reads {α : Type} (read : Toml.Value → Option α) (Means : Toml.Value → α → Prop) : Prop :=
  ∀ v a, read v = some a ↔ Means v a

theorem natural?_eq_some_iff {bits n : Nat} {v : Toml.Value} :
    natural? bits v = some n ↔ v = .integer n ∧ n < Nat.pow 2 bits := by
  cases v with
  | integer i =>
    rw [natural?]
    split
    · next h =>
      simp only [Option.some.injEq, Toml.Value.integer.injEq]
      omega
    · next h =>
      simp only [Toml.Value.integer.injEq, reduceCtorEq, false_iff]
      rintro ⟨rfl, hn⟩
      exact h ⟨Int.natCast_nonneg n, Int.ofNat_lt.2 hn⟩
  | _ => simp [natural?]

theorem reads_text : Reads text? IsText := by
  intro v s
  cases v <;> simp [text?, IsText]

theorem reads_switch : Reads switch? IsSwitch := by
  intro v b
  cases v <;> simp [switch?, IsSwitch]

theorem reads_port : Reads port? IsPort := by
  intro v p
  simp only [port?, Option.map_eq_some_iff, natural?_eq_some_iff, IsPort]
  constructor
  · rintro ⟨n, ⟨rfl, hn⟩, rfl⟩
    rw [UInt16.toNat_ofNat_of_lt' hn]
  · rintro rfl
    exact ⟨p.toNat, ⟨rfl, p.toNat_lt⟩, UInt16.ofNat_toNat⟩

theorem reads_size : Reads size? IsSize := by
  intro v n
  simp only [size?, Option.map_eq_some_iff, natural?_eq_some_iff, IsSize]
  constructor
  · rintro ⟨m, ⟨rfl, hm⟩, rfl⟩
    rw [UInt64.toNat_ofNat_of_lt' hm]
  · rintro rfl
    exact ⟨n.toNat, ⟨rfl, n.toNat_lt⟩, UInt64.ofNat_toNat⟩

section
variable {α β γ : Type} {read : Toml.Value → Option α} {Means : Toml.Value → α → Prop}

/-- A setting is read as what it is. -/
theorem Reads.orDefault_eq_some_iff (h : Reads read Means) {default a : α}
    {given : Option Toml.Value} :
    orDefault read default given = some a ↔ Given Means default given a := by
  cases given with
  | none =>
    rw [orDefault, Option.some.injEq]
    constructor
    · rintro rfl
      exact .absent
    · rintro ⟨⟩
      rfl
  | some v =>
    rw [orDefault, h]
    constructor
    · exact .present
    · rintro ⟨hv⟩
      exact hv

/-! ### The settings of a table -/

/-- What a value gives for two settings if it is a table that may have these two keys and no other
ones. -/
inductive Entered (first second : String) :
    Toml.Value → Option Toml.Value → Option Toml.Value → Prop where
  | table {origin : Toml.Origin} {keys : KeyList} {child : Fin keys.length → Toml.Value}
      (hkeys : ∀ k ∈ keys.names, k = first ∨ k = second) :
      Entered first second (.table origin keys child) ((Entries.ofFamily keys child).get? first)
        ((Entries.ofFamily keys child).get? second)

/-- What a value gives for two settings as it is read. -/
inductive Offered (first second : String) :
    Toml.Value → Option Toml.Value → Option Toml.Value → Prop where
  /-- What stands under the two keys. -/
  | table (origin : Toml.Origin) (keys : KeyList) (child : Fin keys.length → Toml.Value) :
      Offered first second (.table origin keys child) ((Entries.ofFamily keys child).get? first)
        ((Entries.ofFamily keys child).get? second)
  /-- The first two items. -/
  | array (length : Nat) (item : Fin length → Toml.Value) :
      Offered first second (.array length item) (List.ofFn item)[0]? (List.ofFn item)[1]?
  /-- Nothing. -/
  | moment : Offered first second .moment none none

/-- A table of two settings is read as what it offers for them. -/
theorem Reads.pair?_eq_some_iff (hfirst : Reads read Means) {readSecond : Toml.Value → Option β}
    {MeansSecond : Toml.Value → β → Prop} (hsecond : Reads readSecond MeansSecond)
    {first second : String} {a : α} {b : β} {make : α → β → γ} {v : Toml.Value} {c : γ} :
    pair? first read a second readSecond b make v = some c ↔
      ∃ x y, Offered first second v x y ∧
        ∃ p q, Given Means a x p ∧ Given MeansSecond b y q ∧ make p q = c := by
  have hof : ∀ x y, pair?.of read a readSecond b make x y = some c ↔
      ∃ p q, Given Means a x p ∧ Given MeansSecond b y q ∧ make p q = c := by
    intro x y
    simp [pair?.of, Option.bind_eq_some_iff, hfirst.orDefault_eq_some_iff,
      hsecond.orDefault_eq_some_iff]
  simp only [← hof]
  constructor
  · intro h
    cases v with
    | table origin keys child => exact ⟨_, _, .table origin keys child, h⟩
    | array length item => exact ⟨_, _, .array length item, h⟩
    | moment => exact ⟨_, _, .moment, h⟩
    | _ => cases h
  · rintro ⟨x, y, hv, h⟩
    cases hv <;> exact h

end

end Setting

open Setting

namespace Config

/-! ### Documents -/

/-- No key at the top of a document is an undocumented one. -/
def Known (t : Entries) : Prop := ∀ k ∈ t.keys, k ∈ Config.keys

/-- What a value gives for two settings, which have these keys in a table. -/
abbrev Layout := String → String → Toml.Value → Option Toml.Value → Option Toml.Value → Prop

/-- The timeouts that a value stands for. -/
def TimeoutsIn (Gives : Layout) (v : Toml.Value) (timeouts : RemoteTimeouts) : Prop :=
  ∃ x y, Gives "connect_timeout_ms" "request_timeout_ms" v x y ∧
    Given IsSize 5000 x timeouts.connect ∧ Given IsSize 10000 y timeouts.request

/-- The export of metrics that a value stands for. -/
def ExportIn (Gives : Layout) (v : Toml.Value) (metrics : MetricsExport) : Prop :=
  ∃ x y, Gives "enabled" "port" v x y ∧
    Given IsSwitch false x metrics.enabled ∧ Given IsPort 9713 y metrics.port

/-- The configuration that the entries of a document stand for. -/
structure Described (Gives : Layout) (t : Entries) (c : Config) : Prop where
  host : Given IsText "127.0.0.1" (t.get? "host") c.host
  port : Given IsPort 2713 (t.get? "port") c.port
  workers : Given IsSize 50 (t.get? "workers") c.workers
  maxClients : Given IsSize 10000 (t.get? "max_clients") c.maxClients
  maxLineLength : Given IsSize 1048576 (t.get? "max_line_length") c.maxLineLength
  maxPipelined : Given IsSize 64 (t.get? "max_pipelined_requests") c.maxPipelined
  logLevel : Given IsText "info" (t.get? "log_level") c.logLevel
  timeouts : Given (TimeoutsIn Gives) ⟨5000, 10000⟩ (t.get? "provider") c.timeouts
  metrics : Given (ExportIn Gives) ⟨false, 9713⟩ (t.get? "metrics") c.metrics

theorem reads_timeouts : Reads RemoteTimeouts.ofValue? (TimeoutsIn Offered) := by
  intro v timeouts
  rw [RemoteTimeouts.ofValue?, reads_size.pair?_eq_some_iff reads_size]
  refine exists₂_congr fun x y => and_congr_right fun _ => ?_
  constructor
  · rintro ⟨p, q, hp, hq, rfl⟩
    exact ⟨hp, hq⟩
  · rintro ⟨hp, hq⟩
    exact ⟨_, _, hp, hq, rfl⟩

theorem reads_export : Reads MetricsExport.ofValue? (ExportIn Offered) := by
  intro v metrics
  rw [MetricsExport.ofValue?, reads_switch.pair?_eq_some_iff reads_port]
  refine exists₂_congr fun x y => and_congr_right fun _ => ?_
  constructor
  · rintro ⟨p, q, hp, hq, rfl⟩
    exact ⟨hp, hq⟩
  · rintro ⟨hp, hq⟩
    exact ⟨_, _, hp, hq, rfl⟩

theorem known_iff {t : Entries} : t.keys.all Config.keys.contains = true ↔ Known t := by
  simp [Known]

/-- **The entries of a document are read as what they stand for.** -/
theorem ofEntries?_eq_some_iff {t : Entries} {c : Config} :
    ofEntries? t = some c ↔ Known t ∧ Described Offered t c := by
  rw [ofEntries?, ← known_iff]
  split
  · next hknown =>
    simp only [Option.bind_eq_bind, Option.bind_eq_some_iff, Option.pure_def,
      reads_text.orDefault_eq_some_iff, reads_port.orDefault_eq_some_iff,
      reads_size.orDefault_eq_some_iff, reads_timeouts.orDefault_eq_some_iff,
      reads_export.orDefault_eq_some_iff, Option.some.injEq]
    constructor
    · rintro ⟨host, h₁, port, h₂, workers, h₃, maxClients, h₄, maxLineLength, h₅, maxPipelined, h₆,
        logLevel, h₇, timeouts, h₈, metrics, h₉, rfl⟩
      exact ⟨hknown, h₁, h₂, h₃, h₄, h₅, h₆, h₇, h₈, h₉⟩
    · rintro ⟨-, h⟩
      exact ⟨_, h.host, _, h.port, _, h.workers, _, h.maxClients, _, h.maxLineLength, _,
        h.maxPipelined, _, h.logLevel, _, h.timeouts, _, h.metrics, rfl⟩
  · next hknown => exact iff_of_false (fun h => nomatch h) fun h => hknown h.1

/-! ### Documents that depart from the documentation -/

/-- A table that has no keys but these two. -/
def IsTableOf (first second : String) (v : Toml.Value) : Prop :=
  ∃ origin keys child, v = .table origin keys child ∧ ∀ k ∈ keys.names, k = first ∨ k = second

/-- The values inside a document that are to be tables are tables, with no undocumented key. -/
structure Plain (t : Entries) : Prop where
  provider : ∀ v, t.get? "provider" = some v →
    IsTableOf "connect_timeout_ms" "request_timeout_ms" v
  metrics : ∀ v, t.get? "metrics" = some v → IsTableOf "enabled" "port" v

theorem entered_iff {first second : String} {v : Toml.Value} {x y : Option Toml.Value} :
    Entered first second v x y ↔ IsTableOf first second v ∧ Offered first second v x y := by
  constructor
  · rintro ⟨hkeys⟩
    exact ⟨⟨_, _, _, rfl, hkeys⟩, .table _ _ _⟩
  · rintro ⟨⟨origin, keys, child, rfl, hkeys⟩, ⟨⟩⟩
    exact .table hkeys

/-- What a value is as documented, it is as it is read. -/
theorem Given.entered_iff {α : Type} {first second : String} {a default : α}
    {given : Option Toml.Value} {Rest : Option Toml.Value → Option Toml.Value → α → Prop} :
    Given (fun v a => ∃ x y, Entered first second v x y ∧ Rest x y a) default given a ↔
      (∀ v, given = some v → IsTableOf first second v) ∧
        Given (fun v a => ∃ x y, Offered first second v x y ∧ Rest x y a) default given a := by
  constructor
  · rintro (⟨x, y, hv, hrest⟩ | _)
    · obtain ⟨htable, hv⟩ := Config.entered_iff.1 hv
      refine ⟨?_, .present ⟨x, y, hv, hrest⟩⟩
      rintro _ ⟨⟩
      exact htable
    · exact ⟨fun v h => (nomatch h), .absent⟩
  · rintro ⟨htable, ⟨x, y, hv, hrest⟩ | _⟩
    · exact .present ⟨x, y, Config.entered_iff.2 ⟨htable _ rfl, hv⟩, hrest⟩
    · exact .absent

/-- **A document is as documented** if it is read and the two tables inside it are as documented. -/
theorem described_entered_iff {t : Entries} {c : Config} :
    Described Entered t c ↔ Described Offered t c ∧ Plain t := by
  constructor
  · intro h
    obtain ⟨hprovider, htimeouts⟩ := Given.entered_iff.1 h.timeouts
    obtain ⟨hexport, hmetrics⟩ := Given.entered_iff.1 h.metrics
    exact ⟨{ h with timeouts := htimeouts, metrics := hmetrics }, hprovider, hexport⟩
  · rintro ⟨h, hplain⟩
    exact { h with
      timeouts := Given.entered_iff.2 ⟨hplain.provider, h.timeouts⟩
      metrics := Given.entered_iff.2 ⟨hplain.metrics, h.metrics⟩ }

/-! ### Acceptance -/

theorem accept_eq_ok_iff {t : Entries} {c : Config} :
    accept (some t) = .ok c ↔ Known t ∧ Described Offered t c ∧ c.validate = .ok () := by
  rw [← and_assoc, ← ofEntries?_eq_some_iff, accept, Option.bind_some]
  cases ofEntries? t with
  | none => simp
  | some c' =>
    cases hc : c'.validate with
    | error d =>
      simp only [hc, Option.some.injEq, reduceCtorEq, false_iff, not_and]
      rintro rfl
      simp [hc]
    | ok u =>
      simp only [hc, Option.some.injEq, Except.ok.injEq]
      constructor
      · rintro rfl
        exact ⟨rfl, hc⟩
      · exact And.left

theorem accept_eq_unreadable_iff {t : Entries} :
    accept (some t) = .error .unreadable ↔ ¬ ∃ c, Known t ∧ Described Offered t c := by
  simp only [← ofEntries?_eq_some_iff, accept, Option.bind_some]
  cases ofEntries? t with
  | none => simp
  | some c =>
    cases hc : c.validate <;> simp [hc]

theorem accept_eq_defect_iff {t : Entries} {d : Defect} :
    accept (some t) = .error (.defect d) ↔
      ∃ c, Known t ∧ Described Offered t c ∧ c.validate = .error d := by
  simp only [← and_assoc, ← ofEntries?_eq_some_iff, accept, Option.bind_some]
  cases ofEntries? t with
  | none => simp
  | some c =>
    cases hc : c.validate <;> simp [hc]

/-- **A document is accepted** if its keys are documented ones, its values stand for the settings of
a configuration, and the configuration has no defect; the configuration is the one that is accepted.
The documents of which all this holds as documented are those among the accepted ones that have
tables where there are to be tables, with no undocumented key. A document is unreadable if it stands
for no configuration, and is refused for the first defect of the one that it stands for. -/
theorem ofDocument_iff {text : String} {t : Entries} (h : Toml.parse? text = some t) :
    (∀ c, ofDocument text = .ok c ↔ Known t ∧ Described Offered t c ∧ c.validate = .ok ()) ∧
    (∀ c, (Known t ∧ Described Entered t c ∧ c.validate = .ok ()) ↔
      ofDocument text = .ok c ∧ Plain t) ∧
    (ofDocument text = .error .unreadable ↔ ¬ ∃ c, Known t ∧ Described Offered t c) ∧
    ∀ d, ofDocument text = .error (.defect d) ↔
      ∃ c, Known t ∧ Described Offered t c ∧ c.validate = .error d := by
  rw [ofDocument, h]
  refine ⟨fun c => accept_eq_ok_iff, fun c => ?_, accept_eq_unreadable_iff,
    fun d => accept_eq_defect_iff⟩
  rw [described_entered_iff, accept_eq_ok_iff]
  tauto

/-- A document with a number and a table is accepted as documented. -/
theorem ofDocument_iff_plain :
    ∃ t, Toml.parse? "port = 3713\n[metrics]\nenabled = true\n" = some t ∧ Known t ∧
      Described Entered t { port := 3713, metrics := { enabled := true } } := by
  let tokens : List Toml.Token :=
    [.word "port".toList, .blanks [' '], .equals, .blanks [' '], .word "3713".toList, .newline,
      .beginBracket, .word "metrics".toList, .endBracket, .newline, .word "enabled".toList,
      .blanks [' '], .equals, .blanks [' '], .word "true".toList, .newline]
  have htokens : Toml.tokens "port = 3713\n[metrics]\nenabled = true\n".toList = some tokens := by
    decide +kernel
  obtain ⟨t, ht, hprovider, origin, keys, child, hmetrics, hnames⟩ :
      ∃ t, Toml.ofTokens? tokens = some t ∧ t.get? "provider" = none ∧ ∃ origin keys child,
        t.get? "metrics" = some (.table origin keys child) ∧ keys.names = ["enabled"] :=
    ⟨_, rfl, rfl, _, _, _, rfl, rfl⟩
  have h : Toml.parse? "port = 3713\n[metrics]\nenabled = true\n" = some t := by
    rw [Toml.parse?, htokens, Option.bind_some, ht]
  have haccepted : ofDocument "port = 3713\n[metrics]\nenabled = true\n" =
      .ok { port := 3713, metrics := { enabled := true } } := by
    rw [ofDocument, Toml.parse?, htokens, Option.bind_some]
    rfl
  have hplain : Plain t := by
    refine ⟨fun v hv => ?_, fun v hv => ?_⟩
    · rw [hprovider] at hv
      cases hv
    · rw [hmetrics] at hv
      cases hv
      exact ⟨origin, keys, child, rfl, fun k hk => .inl (by simpa [hnames] using hk)⟩
  obtain ⟨hknown, hdescribed, -⟩ := ((ofDocument_iff h).2.1 _).2 ⟨haccepted, hplain⟩
  exact ⟨t, h, hknown, hdescribed⟩

/-- A misspelt timeout is passed over, and the document is accepted with the default. -/
theorem misspelt_timeout_accepted :
    ofDocument "[provider]\nconnect_timeout = 1\n" = .ok {} ∧
      ¬ ∀ text t c, Toml.parse? text = some t →
        (ofDocument text = .ok c ↔ Known t ∧ Described Entered t c ∧ c.validate = .ok ()) := by
  let tokens : List Toml.Token :=
    [.beginBracket, .word "provider".toList, .endBracket, .newline,
      .word "connect_timeout".toList, .blanks [' '], .equals, .blanks [' '], .word ['1'], .newline]
  have htokens : Toml.tokens "[provider]\nconnect_timeout = 1\n".toList = some tokens := by
    decide +kernel
  have haccepted : ofDocument "[provider]\nconnect_timeout = 1\n" = .ok {} := by
    rw [ofDocument, Toml.parse?, htokens, Option.bind_some]
    rfl
  obtain ⟨t, ht, origin, keys, child, hprovider, hnames⟩ :
      ∃ t, Toml.ofTokens? tokens = some t ∧ ∃ origin keys child,
        t.get? "provider" = some (.table origin keys child) ∧ keys.names = ["connect_timeout"] :=
    ⟨_, rfl, _, _, _, rfl, rfl⟩
  refine ⟨haccepted, fun h => ?_⟩
  have hparse : Toml.parse? "[provider]\nconnect_timeout = 1\n" = some t := by
    rw [Toml.parse?, htokens, Option.bind_some, ht]
  obtain ⟨-, hdescribed, -⟩ := (h _ t {} hparse).1 haccepted
  obtain ⟨_, _, _, heq, hkeys⟩ := (described_entered_iff.1 hdescribed).2.provider _ hprovider
  cases heq
  have := hkeys "connect_timeout" (by simp [hnames])
  simp at this

end Config

end AttributeGateway

import AttributeGateway.CommandLine
import AttributeGateway.Proofs.Text.Numerals

/-!
# What a command line loads

A flag is looked up among all words of a command line, the values included, and its value is the
word behind its first occurrence. Where neither the name of the program nor any value is a flag,
each flag has the value that it was written with, wherever it stands. So the order of the flags
matters neither to the configuration that results nor to the complaint if none does.

The configuration comes from a file, or is the default one, and then parts of it are replaced. A
file is validated before that and the configuration once more after it, so that no configuration
with a defect results from any command line.

* `written`, `Legible` — command lines with flags and their values; `Legible.flagValue_eq` says
  that the values are found.
* `Selects`, `Replaced`, `Overrides` — where a configuration comes from, and what becomes of it.
* `load_eq_ok_iff` — the configurations that are loaded, given the values of the flags.
* `loaded_in_any_order` — the order of the flags does not matter, and what is loaded has no defect.
-/

namespace AttributeGateway

namespace CommandLine

variable {words words' : CommandLine} {program flag : String} {given given' : Table String String}
  {files : String → Config.FileContent} {base c : Config}

/-! ### Flags and their values -/

/-- The flags that take a value. -/
def flags : List String := ["--config", "--listen", "--port", "--workers"]

/-- The command line with the name of the program and then flags, each with its value. -/
def written (program : String) (given : Table String String) : CommandLine :=
  program :: given.entries.flatMap fun e => [e.1, e.2]

/-- Neither the name of the program nor a value is a flag. -/
structure Legible (program : String) (given : Table String String) : Prop where
  program : program ∉ flags
  values : ∀ e ∈ given.entries, e.2 ∉ flags

theorem flagValue_cons_of_ne {word : String} (h : word ≠ flag) (rest : CommandLine) :
    flagValue (word :: rest) flag = flagValue rest flag := by
  rw [flagValue, flagValue, List.dropWhile_cons_of_pos (by simpa using h)]

theorem flagValue_cons_self (flag value : String) (rest : CommandLine) :
    flagValue (flag :: value :: rest) flag = .ok (some value) := by
  rw [flagValue, List.dropWhile_cons_of_neg (by simp)]

/-- **A flag has the value that it was written with**, wherever it stands. -/
theorem Legible.flagValue_eq (h : Legible program given) (hflag : flag ∈ flags) :
    flagValue (written program given) flag = .ok (given.get? flag) := by
  obtain ⟨hprogram, hvalues⟩ := h
  have hne {word : String} (hword : word ∉ flags) : word ≠ flag := fun heq => hword (heq ▸ hflag)
  rw [written, flagValue_cons_of_ne (hne hprogram), Table.get?]
  generalize given.entries = entries at hvalues
  induction entries with
  | nil => rfl
  | cons e rest ih =>
    obtain ⟨key, value⟩ := e
    obtain ⟨hvalue, hrest⟩ := List.forall_mem_cons.1 hvalues
    rw [List.flatMap_cons, List.cons_append, List.singleton_append, Table.lookup]
    -- The value may be any word that is not a flag, so both words are passed over or none is.
    by_cases hkey : flag = key
    · rw [if_pos hkey, ← hkey, flagValue_cons_self]
    · rw [if_neg hkey, flagValue_cons_of_ne (Ne.symm hkey), flagValue_cons_of_ne (hne hvalue)]
      exact ih hrest

/-- Nothing but the values of the flags matters. -/
theorem load_congr (h : ∀ flag ∈ flags, flagValue words flag = flagValue words' flag) :
    load files words = load files words' := by
  simp only [flags, List.forall_mem_cons] at h
  obtain ⟨hconfig, hlisten, hport, hworkers, -⟩ := h
  simp only [load, loadBase, replace, hconfig, hlisten, hport, hworkers]

/-! ### Steps that may fail -/

section

variable {ε ε' α β : Type} {x : Except ε α}

theorem bind_eq_ok_iff {f : α → Except ε β} {b : β} :
    x >>= f = .ok b ↔ ∃ a, x = .ok a ∧ f a = .ok b := by
  cases x with
  | error e => simp [bind, Except.bind]
  | ok a => simp [bind, Except.bind]

theorem mapError_eq_ok_iff {f : ε → ε'} {a : α} : x.mapError f = .ok a ↔ x = .ok a := by
  cases x <;> simp [Except.mapError]

end

/-! ### Where the configuration comes from -/

/-- The configuration before parts of it are replaced. -/
inductive Selects (files : String → Config.FileContent) (given : Table String String) :
    Config → Prop where
  /-- It is that of the file that is named. -/
  | named {path : String} {base : Config} (hgiven : given.get? "--config" = some path)
      (h : Config.ofFile path (files path) = .ok base) : Selects files given base
  /-- No file is named, and it is that of the default file. -/
  | usual {base : Config} (hgiven : given.get? "--config" = none)
      (h : Config.ofFile defaultPath (files defaultPath) = .ok base) : Selects files given base
  /-- No file is named, and there is no default file: nothing is configured. -/
  | defaults {problem : Config.FileProblem} (hgiven : given.get? "--config" = none)
      (h : files defaultPath = .error problem) (habsent : problem.isAbsence = true) :
    Selects files given {}

theorem loadFile_eq_ok_iff {path : String} :
    loadFile files path = .ok base ↔ Config.ofFile path (files path) = .ok base :=
  mapError_eq_ok_iff

theorem loadBase_eq_ok_iff (h : flagValue words "--config" = .ok (given.get? "--config")) :
    loadBase files words = .ok base ↔ Selects files given base := by
  rw [loadBase, bind_eq_ok_iff]
  constructor
  · rintro ⟨value, hvalue, hbase⟩
    obtain hgiven := Except.ok.inj (h.symm.trans hvalue)
    cases value with
    | some path => exact .named hgiven (loadFile_eq_ok_iff.1 hbase)
    | none =>
      dsimp only at hbase
      split at hbase
      · next problem hproblem =>
        split at hbase
        · next habsent =>
          cases hbase
          exact .defaults hgiven hproblem habsent
        · exact .usual hgiven (loadFile_eq_ok_iff.1 hbase)
      · exact .usual hgiven (loadFile_eq_ok_iff.1 hbase)
  · rintro (⟨hgiven, hbase⟩ | ⟨hgiven, hbase⟩ | ⟨hgiven, hproblem, habsent⟩)
    · exact ⟨_, h.trans (congrArg _ hgiven), loadFile_eq_ok_iff.2 hbase⟩
    · refine ⟨_, h.trans (congrArg _ hgiven), ?_⟩
      dsimp only
      split
      · next problem hproblem =>
        rw [hproblem] at hbase
        cases hbase
      · exact loadFile_eq_ok_iff.2 hbase
    · refine ⟨_, h.trans (congrArg _ hgiven), ?_⟩
      simp only [hproblem, habsent, if_true]
      rfl

/-! ### What is replaced -/

/-- What a part of a configuration is that was `old`, given the value of its flag. -/
inductive Replaced {α : Type} (Means : String → α → Prop) (old : α) :
    Option String → α → Prop where
  /-- The value stands for it. -/
  | given {text : String} {a : α} (h : Means text a) : Replaced Means old (some text) a
  /-- Without a value it is as it was. -/
  | kept : Replaced Means old none old

/-- A configuration with parts of it replaced. -/
structure Overrides (given : Table String String) (base c : Config) : Prop where
  host : Replaced Eq base.host (given.get? "--listen") c.host
  port : Replaced (fun text port => Text.Denotes text port.toNat) base.port
    (given.get? "--port") c.port
  workers : Replaced (fun text workers => Text.Denotes text workers.toNat) base.workers
    (given.get? "--workers") c.workers
  /-- All else is as it was. -/
  others : c = { base with host := c.host, port := c.port, workers := c.workers }

theorem replace_eq_ok_iff {α : Type} {read : String → Except Complaint α}
    {Means : String → α → Prop} {put : Config → α → Config} {old : α} {value : Option String}
    (hread : ∀ text a, read text = .ok a ↔ Means text a) (hput : put base old = base)
    (hvalue : flagValue words flag = .ok value) :
    replace flag read put words base = .ok c ↔
      ∃ a, Replaced Means old value a ∧ put base a = c := by
  rw [replace, bind_eq_ok_iff]
  constructor
  · rintro ⟨value', hvalue', hc⟩
    obtain rfl := Except.ok.inj (hvalue.symm.trans hvalue')
    cases value with
    | some text =>
      obtain ⟨a, ha, hc⟩ := bind_eq_ok_iff.1 hc
      exact ⟨a, .given ((hread text a).1 ha), Except.ok.inj hc⟩
    | none => exact ⟨old, .kept, hput.trans (Except.ok.inj hc)⟩
  · rintro ⟨a, ⟨ha⟩ | _, rfl⟩
    · exact ⟨_, hvalue, bind_eq_ok_iff.2 ⟨a, (hread _ a).2 ha, rfl⟩⟩
    · exact ⟨_, hvalue, congrArg Except.ok hput.symm⟩

/-- A text is read as the word that it stands for. -/
theorem readWord_eq_ok_iff {α : Type} {bound : Nat} {ofNat : Nat → α} {toNat : α → Nat}
    (hbound : ∀ a, toNat a ≤ bound) (hto : ∀ n ≤ bound, toNat (ofNat n) = n)
    (hof : ∀ a, ofNat (toNat a) = a) {complain : Text.NumeralError → Complaint} {text : String}
    {a : α} : ((Text.readNat bound text).map ofNat).mapError complain = .ok a ↔
      Text.Denotes text (toNat a) := by
  rw [mapError_eq_ok_iff]
  constructor
  · intro h
    cases hn : Text.readNat bound text with
    | error e =>
      rw [hn] at h
      cases h
    | ok n =>
      rw [hn] at h
      cases h
      obtain ⟨hdenotes, hle⟩ := Text.readNat_eq_ok_iff.1 hn
      rwa [hto n hle]
  · intro h
    rw [Text.readNat_eq_ok_iff.2 ⟨h, hbound a⟩]
    exact congrArg Except.ok (hof a)

theorem readPort_eq_ok_iff {text : String} {port : UInt16} :
    readPort text = .ok port ↔ Text.Denotes text port.toNat :=
  readWord_eq_ok_iff (fun p => Nat.le_pred_of_lt p.toNat_lt)
    (fun _ h => UInt16.toNat_ofNat_of_lt' (Nat.lt_of_le_pred (by decide) h))
    fun _ => UInt16.ofNat_toNat

theorem readWorkers_eq_ok_iff {text : String} {workers : UInt64} :
    readWorkers text = .ok workers ↔ Text.Denotes text workers.toNat :=
  readWord_eq_ok_iff (fun n => Nat.le_pred_of_lt n.toNat_lt)
    (fun _ h => UInt64.toNat_ofNat_of_lt' (Nat.lt_of_le_pred (by decide) h))
    fun _ => UInt64.ofNat_toNat

/-! ### Loading -/

theorem validate_of_load (h : load files words = .ok c) : c.validate = .ok () := by
  rw [load] at h
  simp only [bind_eq_ok_iff, mapError_eq_ok_iff] at h
  obtain ⟨_, -, _, -, _, -, _, -, _, hvalid, hc⟩ := h
  cases hc
  exact hvalid

/-- **What is loaded** is a configuration from a file or by default, with parts of it replaced, that
has no defect. -/
theorem load_eq_ok_iff (h : ∀ flag ∈ flags, flagValue words flag = .ok (given.get? flag)) :
    load files words = .ok c ↔
      (∃ base, Selects files given base ∧ Overrides given base c) ∧ c.validate = .ok () := by
  have hhost {base c : Config} :
      replace "--listen" .ok (fun c host => { c with host }) words base = .ok c ↔
        ∃ host, Replaced Eq base.host (given.get? "--listen") host ∧ { base with host } = c :=
    replace_eq_ok_iff (fun _ _ => iff_of_eq (Except.ok.injEq _ _)) rfl (h _ (by decide))
  have hport {base c : Config} :
      replace "--port" readPort (fun c port => { c with port }) words base = .ok c ↔
        ∃ port, Replaced (fun text (port : UInt16) => Text.Denotes text port.toNat) base.port
          (given.get? "--port") port ∧ { base with port } = c :=
    replace_eq_ok_iff (fun _ _ => readPort_eq_ok_iff) rfl (h _ (by decide))
  have hworkers {base c : Config} :
      replace "--workers" readWorkers (fun c workers => { c with workers }) words base = .ok c ↔
        ∃ workers, Replaced (fun text (n : UInt64) => Text.Denotes text n.toNat) base.workers
          (given.get? "--workers") workers ∧ { base with workers } = c :=
    replace_eq_ok_iff (fun _ _ => readWorkers_eq_ok_iff) rfl (h _ (by decide))
  simp only [load, bind_eq_ok_iff, loadBase_eq_ok_iff (h _ (by decide)), hhost, hport, hworkers,
    mapError_eq_ok_iff]
  constructor
  · rintro ⟨base, hbase, _, ⟨host, hhost, rfl⟩, _, ⟨port, hport, rfl⟩, _, ⟨workers, hworkers, rfl⟩,
      _, hvalid, hc⟩
    cases hc
    exact ⟨⟨base, hbase, hhost, hport, hworkers, rfl⟩, hvalid⟩
  · -- What the three replacements make of `base` is `c`, since nothing else differs.
    rintro ⟨⟨base, hbase, h⟩, hvalid⟩
    refine ⟨base, hbase, _, ⟨_, h.host, rfl⟩, _, ⟨_, h.port, rfl⟩, _, ⟨_, h.workers, rfl⟩, (), ?_,
      ?_⟩
    · rwa [← h.others]
    · exact congrArg Except.ok h.others.symm

/-- **The order of the flags does not matter.** In a command line of flags and their values, where
neither the name of the program nor a value is a flag, the flags may change places with their values
and the configuration, or the complaint, stays the same. A configuration is loaded exactly if it is
that of the file, or the default one, with the host, the port and the number of workers replaced by
what the values stand for, and has no defect. And whatever the command line, no configuration is
loaded that has one. -/
theorem loaded_in_any_order (h : Legible program given) :
    (∀ given' : Table String String, given'.entries.Perm given.entries →
      load files (written program given') = load files (written program given)) ∧
    (∀ c, load files (written program given) = .ok c ↔
      (∃ base, Selects files given base ∧ Overrides given base c) ∧ c.validate = .ok ()) ∧
    ∀ words c, load files words = .ok c → c.validate = .ok () := by
  refine ⟨fun given' hperm => ?_, fun c => load_eq_ok_iff fun flag hflag => h.flagValue_eq hflag,
    fun words c => validate_of_load⟩
  have h' : Legible program given' := ⟨h.program, fun e he => h.values e (hperm.mem_iff.1 he)⟩
  refine load_congr fun flag hflag => ?_
  rw [h.flagValue_eq hflag, h'.flagValue_eq hflag, Table.get?_of_perm hperm]

/-- The flags in another order than that in which they are looked up, a port with a sign and a zero
in front, and a number of workers in place of that of the file. -/
theorem loaded_in_any_order_overridden :
    ∃ files, files "a.toml" = .ok (Text.toBytes "workers = 2\n[metrics]\nenabled = true\n") ∧
      load files ["gateway", "--port", "+03713", "--workers", "8", "--config", "a.toml"] =
        .ok { port := 3713, workers := 8, metrics := { enabled := true } } ∧
      load files ["gateway", "--config", "a.toml", "--workers", "8", "--port", "+03713"] =
        .ok { port := 3713, workers := 8, metrics := { enabled := true } } := by
  let text : String := "workers = 2\n[metrics]\nenabled = true\n"
  let files : String → Config.FileContent := fun _ => .ok (Text.toBytes text)
  let tokens : List Toml.Token :=
    [.word "workers".toList, .blanks [' '], .equals, .blanks [' '], .word ['2'], .newline,
      .beginBracket, .word "metrics".toList, .endBracket, .newline, .word "enabled".toList,
      .blanks [' '], .equals, .blanks [' '], .word "true".toList, .newline]
  have htokens : Toml.tokens text.toList = some tokens := by decide +kernel
  have hbytes : Text.ofBytes? (Text.toBytes text) = some text := by decide +kernel
  have hdocument : Config.ofDocument text =
      .ok { workers := 2, metrics := { enabled := true } } := by
    rw [Config.ofDocument, Toml.parse?, htokens, Option.bind_some]
    rfl
  have hfile : Config.ofFile "a.toml" (files "a.toml") =
      .ok { workers := 2, metrics := { enabled := true } } := by
    simp only [files, Config.ofFile, hbytes, hdocument]
  have hport : Text.Denotes "+03713" (3713 : UInt16).toNat :=
    (Text.readNat_eq_ok_iff.1 (show Text.readNat 3713 "+03713" = .ok 3713 by decide +kernel)).1
  have hworkers : Text.Denotes "8" (8 : UInt64).toNat :=
    (Text.readNat_eq_ok_iff.1 (show Text.readNat 8 "8" = .ok 8 by decide +kernel)).1
  let given : Table String String :=
    ⟨[("--port", "+03713"), ("--workers", "8"), ("--config", "a.toml")], by decide⟩
  let moved : Table String String :=
    ⟨[("--config", "a.toml"), ("--workers", "8"), ("--port", "+03713")], by decide⟩
  have hlegible : Legible "gateway" given := ⟨by decide, by decide⟩
  have hload : load files (written "gateway" given) =
      .ok { port := 3713, workers := 8, metrics := { enabled := true } } :=
    ((loaded_in_any_order hlegible).2.1 _).2
      ⟨⟨_, .named rfl hfile, .kept, .given hport, .given hworkers, rfl⟩, rfl⟩
  have hmoved : load files (written "gateway" moved) = load files (written "gateway" given) :=
    (loaded_in_any_order hlegible).1 moved (by decide)
  exact ⟨files, rfl, hload, hmoved.trans hload⟩

end CommandLine

end AttributeGateway

import AttributeGateway.Proofs.Request.Filling
import AttributeGateway.Proofs.Request.Lines
import AttributeGateway.Proofs.Request.Shape

/-!
# Requests on lines

A request for attributes can be written on a line, and is read from that line again. The template is
written in quotes: then one pair of quotes is taken off that does not belong to it, whatever the
template itself begins and ends with, and an empty template is a word as well. Each path is written
as its text, whether it can be read or not.

* `Get.wordsOf`, `Get.reprinted` — the words that a request is written with.
* `Command.parse_of_spaced` — these words, with white space around them, are read as the request.
* `Get.parts_of_parse` — the parts of a request that has been read can be written as words.
* `Command.read_as_written` — both ways.
-/

namespace AttributeGateway

variable {line url text : String} {asked : List (String × String)} {get : Get}

/-- The words of a request for some pairs of a bean and a path, with the template in quotes. -/
def Get.wordsOf (url text : String) (asked : List (String × String)) : List String :=
  "GET" :: url :: ("'" ++ text ++ "'") :: asked.flatMap fun p => [p.1, p.2]

/-- The request that asks for some pairs of a bean and a path. -/
def Get.asking (url text : String) (asked : List (String × String)) : Get :=
  ⟨url, ⟨text⟩, asked.map fun p => .ofTexts p.1 p.2⟩

/-- The words that a request is written with. -/
def Get.reprinted (get : Get) : List String :=
  wordsOf get.endpoint get.template.text (get.queries.map fun q => (q.bean, q.rawPath))

/-- What a request has to be made of so that it can be written as words: nothing has white space,
and nothing but the template may be empty. -/
structure Get.Writable (url text : String) (asked : List (String × String)) : Prop where
  asks : asked ≠ []
  url : Text.Word url.toList
  solid : ∀ c ∈ text.toList, Text.isBlank c = false
  words : ∀ p ∈ asked, Text.Word p.1.toList ∧ Text.Word p.2.toList

/-! ### Writing -/

theorem pairs_flatMap (asked : List (String × String)) :
    pairs (asked.flatMap fun p => [p.1, p.2]) = asked := by
  induction asked with
  | nil => rfl
  | cons p asked ih => rw [List.flatMap_cons, List.cons_append, List.singleton_append, pairs, ih]

theorem length_flatMap_pairs (asked : List (String × String)) :
    (asked.flatMap fun p => [p.1, p.2]).length = 2 * asked.length := by
  induction asked with
  | nil => rfl
  | cons p asked ih =>
    rw [List.flatMap_cons, List.length_append, ih, List.length_cons, List.length_cons]
    simp only [List.length_cons, List.length_nil]
    omega

theorem toList_quoted (text : String) :
    ("'" ++ text ++ "'").toList = '\'' :: (text.toList ++ ['\'']) := by
  rw [String.toList_append, String.toList_append]
  rfl

/-- A template in quotes is the template, whatever it begins and ends with. -/
theorem Template.ofToken_quoted (text : String) : ofToken ("'" ++ text ++ "'") = ⟨text⟩ := by
  rw [ofToken, stripQuotes_quoted (.inl rfl) (toList_quoted text), String.ofList_toList]

theorem Get.ofArguments_eq_ok (url text : String) (h : asked ≠ []) :
    ofArguments (url :: ("'" ++ text ++ "'") :: asked.flatMap fun p => [p.1, p.2]) =
      .ok (asking url text asked) := by
  obtain ⟨p, asked, rfl⟩ := List.exists_cons_of_ne_nil h
  have heven : (asked.flatMap fun p => [p.1, p.2]).length % 2 = 0 := by
    rw [length_flatMap_pairs, Nat.mul_mod_right]
  have hpairs := pairs_flatMap (p :: asked)
  rw [List.flatMap_cons, List.cons_append, List.singleton_append] at hpairs ⊢
  simp only [ofArguments, if_pos heven, hpairs, Template.ofToken_quoted]
  rfl

/-- What a request is written with are words. -/
theorem Get.Writable.word_of_mem (h : Get.Writable url text asked) :
    ∀ w ∈ Get.wordsOf url text asked, Text.Word w.toList := by
  rw [Get.wordsOf, List.forall_mem_cons, List.forall_mem_cons, List.forall_mem_cons]
  refine ⟨by decide, h.url, ⟨?_, ?_⟩, fun w hw => ?_⟩
  · rw [toList_quoted]
    exact List.cons_ne_nil _ _
  · rw [toList_quoted, List.forall_mem_cons, List.forall_mem_append, List.forall_mem_singleton]
    exact ⟨by decide, h.solid, by decide⟩
  · obtain ⟨p, hp, hw⟩ := List.mem_flatMap.1 hw
    obtain ⟨hbean, hpath⟩ := h.words p hp
    simp only [List.mem_cons, List.not_mem_nil, or_false] at hw
    rcases hw with rfl | rfl
    · exact hbean
    · exact hpath

/-- **A request is read from the words that it is written with**, however much white space there is
around them. -/
theorem Command.parse_of_spaced (h : Get.Writable url text asked)
    (hline : Text.Spaced (Get.wordsOf url text asked) line.toList) :
    parse line = .ok (.get (Get.asking url text asked)) := by
  rw [parse, Text.wordsOf_eq_iff.2 ⟨h.word_of_mem, hline⟩, Get.wordsOf, ofWords, if_pos rfl,
    Get.ofArguments_eq_ok url text h.asks]
  rfl

/-! ### Writing again -/

/-- Without its quotes a word still has no white space. -/
theorem solid_stripQuotes {token : String} (h : ∀ c ∈ token.toList, Text.isBlank c = false) :
    ∀ c ∈ (stripQuotes token).toList, Text.isBlank c = false := by
  have hun : Unquoted token.toList (stripQuotes token).toList := unquoted_iff.2 rfl
  generalize token.toList = list at h hun
  generalize (stripQuotes token).toList = rest at hun ⊢
  cases hun with
  | quoted hq => exact fun c hc => h c (List.mem_cons_of_mem _ (List.mem_append_left _ hc))
  | bare => exact h

theorem Get.reprinted_asking (url text : String) (asked : List (String × String)) :
    (asking url text asked).reprinted = wordsOf url text asked := by
  have hqueries : (asked.map fun p => Query.ofTexts p.1 p.2).map (fun q => (q.bean, q.rawPath)) =
      asked := by
    rw [List.map_map]
    exact List.map_id' asked
  exact congrArg (wordsOf url text) hqueries

/-- **The parts of a request that has been read can be written as words.** -/
theorem Get.parts_of_parse (h : Command.parse line = .ok (.get get)) :
    ∃ url text asked, Writable url text asked ∧ get = asking url text asked := by
  obtain ⟨args, hwords, hargs⟩ := Command.arguments_of_parse h
  have hword : ∀ w ∈ "GET" :: args, Text.Word w.toList := fun w hw =>
    Text.word_of_mem_wordsOf (hwords ▸ hw)
  have hasks : AsksFor get.queries.length ("GET" :: args) := by
    rw [Command.parse, hwords] at h
    exact Command.asksFor_of_get h
  obtain ⟨url, token, items, rfl, rfl⟩ := Get.of_arguments hargs
  have hasked : pairs items ≠ [] := by
    intro hnil
    obtain ⟨hpos, -⟩ := hasks
    rw [hnil] at hpos
    exact absurd hpos (lt_irrefl 0)
  refine ⟨url, stripQuotes token, pairs items, ⟨hasked, hword _ ?_, ?_, fun p hp => ?_⟩, rfl⟩
  · simp
  · exact solid_stripQuotes (hword token (by simp)).solid
  · obtain ⟨hbean, hpath⟩ := mem_of_mem_pairs hp
    exact ⟨hword _ (by simp [hbean]), hword _ (by simp [hpath])⟩

/-- A line with a request for attributes has the command word and after it an even number of words,
at least four. -/
theorem Command.words_of_parse (h : parse line = .ok (.get get)) :
    ∃ args, (∀ w ∈ "GET" :: args, Text.Word w.toList) ∧
      Text.Spaced ("GET" :: args) line.toList ∧ 4 ≤ args.length ∧ args.length % 2 = 0 := by
  obtain ⟨args, hwords, -⟩ := Command.arguments_of_parse h
  rw [Command.parse, hwords] at h
  obtain ⟨hpos, url, token, items, heq, hlen⟩ := Command.asksFor_of_get h
  obtain ⟨hword, hspaced⟩ := Text.wordsOf_eq_iff.1 hwords
  refine ⟨args, hword, hspaced, ?_, ?_⟩
  · cases heq
    simp only [List.length_cons]
    omega
  · cases heq
    simp only [List.length_cons]
    omega

/-- **A request for attributes is read as it is written.** A line with the command word, an
endpoint, a template in quotes and one or more pairs of a bean and a path, in this order and with
white space around them, is read as the request for these: each path for itself, so that one that
cannot be read leaves the other pairs as they are. Any line that is read as a request for attributes
has the command word and after it an even number of words, at least four; there are lines with the
request in the form above, and each of them is read as the same request. -/
theorem Command.read_as_written :
    (∀ line url text asked, asked ≠ [] → Text.Word url.toList →
      (∀ c ∈ text.toList, Text.isBlank c = false) →
      (∀ p ∈ asked, Text.Word p.1.toList ∧ Text.Word p.2.toList) →
      Text.Spaced (Get.wordsOf url text asked) line.toList →
      parse line = .ok (.get ⟨url, ⟨text⟩, asked.map fun p => ⟨p.1, p.2, Path.parse p.2⟩⟩)) ∧
    ∀ line get, parse line = .ok (.get get) →
      (∃ args, (∀ w ∈ "GET" :: args, Text.Word w.toList) ∧
        Text.Spaced ("GET" :: args) line.toList ∧ 4 ≤ args.length ∧ args.length % 2 = 0) ∧
      (∃ line' : String, Text.Spaced get.reprinted line'.toList) ∧
      ∀ line' : String, Text.Spaced get.reprinted line'.toList → parse line' = .ok (.get get) := by
  refine ⟨fun line url text asked hasked hurl htext hwords =>
    parse_of_spaced ⟨hasked, hurl, htext, hwords⟩, ?_⟩
  intro line get h
  obtain ⟨url, text, asked, hwritable, rfl⟩ := Get.parts_of_parse h
  refine ⟨words_of_parse h, ⟨_, Text.spaced_lineOf _⟩, fun line' hline => ?_⟩
  rw [Get.reprinted_asking] at hline
  exact parse_of_spaced hwritable hline

/-- A template with quotes of its own at both ends, a path that cannot be read between two that can,
and white space of other kinds; the same request on a plain line. -/
theorem Command.read_as_written_quotes :
    ∃ get, get = Get.mk "u" ⟨"'%s\""⟩ [⟨"m", "A", .ok ⟨"A", [], by decide⟩⟩,
        ⟨"n", "A..B", .error (.invalidPath "A..B")⟩, ⟨"m", "B", .ok ⟨"B", [], by decide⟩⟩] ∧
      parse "\u3000GET\tu  ''%s\"'  m\u00a0A n\u2003A..B m B\r" = .ok (.get get) ∧
      parse "GET u ''%s\"' m A n A..B m B" = .ok (.get get) := by
  have hfirst : Path.parse "A" = .ok ⟨"A", [], by decide⟩ := by decide +kernel
  have hfault : Path.parse "A..B" = .error (.invalidPath "A..B") := by decide +kernel
  have hlast : Path.parse "B" = .ok ⟨"B", [], by decide⟩ := by decide +kernel
  have htext : Text.Word "'%s\"".toList := by decide
  have hline := read_as_written.1 "\u3000GET\tu  ''%s\"'  m\u00a0A n\u2003A..B m B\r" "u" "'%s\""
    [("m", "A"), ("n", "A..B"), ("m", "B")] (by decide) (by decide) htext.solid (by decide)
    (Text.wordsOf_eq_iff.1 (by decide)).2
  simp only [List.map_cons, List.map_nil, hfirst, hfault, hlast] at hline
  refine ⟨_, rfl, hline, (read_as_written.2 _ _ hline).2.2 _ (Text.wordsOf_eq_iff.1 ?_).2⟩
  decide

end AttributeGateway

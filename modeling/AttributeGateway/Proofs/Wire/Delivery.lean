import AttributeGateway.Proofs.Wire.Cutting
import AttributeGateway.Proofs.Wire.Framing
import Mathlib.Data.List.Forall2

/-!
# Answers arrive as they were written

A client reads the stream of answers with a reader of lines like the one that the gateway reads
requests with. Such a reader splits at line feeds, strips a carriage return at the end of a line and
reads bytes as text. Since texts are flattened before they are written, nothing in a line is split
or stripped, and the client gets the lines of the answers, in whatever pieces they arrive.

What a reader has not handed out of a stream of lines is the end of that stream: some of its lines,
each with its line feed, of which the last bytes may not have arrived. A question takes the first of
them or none (`Answers.owes`), and this carries over to any number of questions.

* `Response.Written` — what the lines of an answer say of its values.
* `LineReader.Owes` — the lines that a reader has not handed out.
* `LineReader.responses_delivered` — the lines that are handed out are those of the answers, and
  nothing is left over.
-/

namespace AttributeGateway

/-! ### What is written -/

namespace Text

/-- A text and what it becomes on a single line. -/
inductive Flattened : List Char → List Char → Prop where
  /-- The empty text. -/
  | nil : Flattened [] []
  /-- A line feed, carriage return or tab becomes one space. -/
  | space {c : Char} {text flat : List Char} (hc : c = '\n' ∨ c = '\r' ∨ c = '\t')
      (h : Flattened text flat) : Flattened (c :: text) (' ' :: flat)
  /-- Any other character stays. -/
  | same {c : Char} {text flat : List Char} (hc : ¬ (c = '\n' ∨ c = '\r' ∨ c = '\t'))
      (h : Flattened text flat) : Flattened (c :: text) (c :: flat)

theorem breaksLine_iff {c : Char} : breaksLine c = true ↔ c = '\n' ∨ c = '\r' ∨ c = '\t' := by
  simp only [breaksLine, Bool.or_eq_true, beq_iff_eq, or_assoc]

theorem flattened_singleLine (text : String) :
    Flattened text.toList (singleLine text).toList := by
  rw [singleLine, String.toList_ofList]
  induction text.toList with
  | nil => exact .nil
  | cons c text ih =>
    rw [List.map_cons]
    split
    · next hc => exact .space (breaksLine_iff.1 hc) ih
    · next hc => exact .same (mt breaksLine_iff.2 hc) ih

end Text

namespace Response

/-- An answer and its lines. -/
inductive Written : Response → List String → Prop where
  /-- Behind `OK` there is one line for each value. -/
  | ok {values lines : List String}
      (h : List.Forall₂ (fun value line => Text.Flattened value.toList line.toList) values lines) :
    Written (.ok values) ("OK" :: lines)
  /-- Behind `ERR` there are the code and the detail. -/
  | err {code : ErrorCode} {detail line : String} (h : Text.Flattened detail.toList line.toList) :
    Written (.err code detail) ["ERR", code.word, line]

/-- How many lines an answer has. -/
def lineCount : Response → Nat
  | .ok values => 1 + values.length
  | .err _ _ => 3

theorem written_lines (r : Response) : r.Written r.lines := by
  cases r with
  | ok values =>
    refine .ok ?_
    rw [List.forall₂_map_right_iff, List.forall₂_same]
    exact fun value _ => Text.flattened_singleLine value
  | err code detail => exact .err (Text.flattened_singleLine detail)

theorem Written.length_eq {r : Response} {lines : List String} (h : r.Written lines) :
    lines.length = r.lineCount := by
  cases h with
  | ok h => rw [List.length_cons, ← h.length_eq, lineCount, Nat.add_comm]
  | err => rfl

end Response

/-! ### What is read -/

namespace LineReader

variable {r : LineReader} {lines : List String} {more : List UInt8}
  {answer : Except Fault (Option String) × LineReader}

/-- Lines with their ends. -/
def stream (lines : List String) : List UInt8 :=
  lines.flatMap fun line => Text.toBytes line ++ [lineFeed]

/-- A line that a reader hands out as it was written. -/
structure Fits (limit : Nat) (line : String) : Prop where
  /-- It is a single line. -/
  flat : ∀ c ∈ line.toList, Text.breaksLine c = false
  /-- It is not too long. -/
  short : (Text.toBytes line).length ≤ limit

/-- With the bytes that will arrive, a reader holds lines that it has not handed out. -/
structure Owes (r : LineReader) (lines : List String) (more : List UInt8) : Prop where
  /-- It holds these lines and nothing else. -/
  holds : r.buffer ++ more = stream lines
  /-- It hands each of them out as it was written. -/
  fits : ∀ line ∈ lines, Fits r.limit line

theorem stream_cons (line : String) (lines : List String) :
    stream (line :: lines) = Text.toBytes line ++ lineFeed :: stream lines := by
  simp [stream]

theorem Fits.lineFeed_not_mem {limit : Nat} {line : String} (h : Fits limit line) :
    lineFeed ∉ Text.toBytes line := Text.lineFeed_not_mem_toBytes h.flat

/-- Nothing is stripped from the end of a line. -/
theorem Fits.lineText_toBytes {limit : Nat} {line : String} (h : Fits limit line) :
    lineText (Text.toBytes line) = line := by
  have hcr : carriageReturn ∉ Text.toBytes line :=
    Text.not_mem_toBytes h.flat (by decide) (by decide)
  have hlast : (Text.toBytes line).getLast? ≠ some carriageReturn :=
    fun hl => hcr (List.mem_of_getLast? hl)
  rw [lineText, if_neg hlast, Text.ofBytes_toBytes]

/-- A reader that holds the end of a line owes that line first. -/
theorem Owes.of_line (h : r.Owes lines more) {line rest : List UInt8}
    (hb : r.buffer = line ++ lineFeed :: rest) (hl : lineFeed ∉ line) :
    ∃ first others, lines = first :: others ∧ line = Text.toBytes first ∧
      rest ++ more = stream others := by
  obtain ⟨hholds, hfits⟩ := h
  cases lines with
  | nil => simp [hb, stream] at hholds
  | cons first others =>
    have hfirst : lineFeed ∉ Text.toBytes first := (hfits first List.mem_cons_self).lineFeed_not_mem
    rw [hb, stream_cons, List.append_assoc, List.cons_append] at hholds
    have hheld : Response.takeLine (line ++ lineFeed :: (rest ++ more)) =
        some (line, rest ++ more) := Response.takeLine_append hl
    have howed : Response.takeLine (Text.toBytes first ++ lineFeed :: stream others) =
        some (Text.toBytes first, stream others) := Response.takeLine_append hfirst
    rw [hholds, howed] at hheld
    obtain ⟨hline, hrest⟩ := Prod.mk.inj (Option.some.inj hheld)
    exact ⟨first, others, rfl, hline.symm, hrest.symm⟩

/-- A reader that owes lines does not refuse. -/
theorem Owes.not_refuses (h : r.Owes lines more) : ¬ r.Refuses := by
  intro href
  obtain ⟨hholds, hfits⟩ := h
  have hframing := href.framing more
  rw [hholds] at hframing
  cases lines with
  | nil => simp [stream, framing_rest] at hframing
  | cons first others =>
    have hfirst : Fits r.limit first := hfits first List.mem_cons_self
    rw [stream_cons, framing_line hfirst.lineFeed_not_mem hfirst.short] at hframing
    cases congrArg Prod.fst hframing

/-- **A question hands over the first line that is owed, or none**, and is never refused. -/
theorem Answers.owes (ha : r.Answers answer) (h : r.Owes lines more) :
    ∃ line lines', answer.1 = .ok line ∧ lines = line.toList ++ lines' ∧
      answer.2.Owes lines' more := by
  cases ha with
  | @line line rest hb hl hlen =>
    obtain ⟨first, others, rfl, rfl, hrest⟩ := h.of_line hb hl
    obtain ⟨hfirst, hothers⟩ := List.forall_mem_cons.1 h.fits
    exact ⟨some first, others, by rw [hfirst.lineText_toBytes], rfl, hrest, hothers⟩
  | @refuse line rest hb hl hlen => exact absurd ⟨line, rest, hb, hl, hlen⟩ h.not_refuses
  | wait => exact ⟨none, lines, rfl, rfl, h.holds, h.fits⟩

/-- In whatever pieces the bytes arrive, what is handed out and what is owed then are the lines that
were owed. -/
theorem Owes.use {us : List Use} (hc : r.Consistent) (h : r.Owes lines (fed us ++ more))
    (hu : .nextAtEnd ∉ us) :
    ∃ lines', lines = (r.use us).1.filterMap handed ++ lines' ∧
      (∀ answer ∈ (r.use us).1, ∃ line, answer = .ok line) ∧ (r.use us).2.Owes lines' more := by
  induction us generalizing r lines with
  | nil => exact ⟨lines, rfl, nofun, h⟩
  | cons u us ih =>
    have hus : .nextAtEnd ∉ us := fun hm => hu (List.mem_cons_of_mem _ hm)
    cases u with
    | feed bytes =>
      refine ih (hc.feed bytes) ⟨?_, h.fits⟩ hus
      have hholds := h.holds
      simp only [fed, List.flatMap_cons, List.append_assoc] at hholds
      simpa only [LineReader.feed, fed, List.append_assoc] using hholds
    | next =>
      obtain ⟨line, lines', hanswer, rfl, howes⟩ := hc.answers.owes h
      obtain ⟨lines', rfl, hok, howes⟩ := ih (hc.answers.consistent hc) howes hus
      refine ⟨lines', ?_, List.forall_mem_cons.2 ⟨⟨line, hanswer⟩, hok⟩, howes⟩
      simp only [LineReader.use, hanswer]
      cases line <;> rfl
    | nextAtEnd => exact absurd List.mem_cons_self hu

/-- When all bytes have arrived, the lines that are owed are drained, and nothing is left. -/
theorem Owes.drainOnto (hc : r.Consistent) (h : r.Owes lines []) (read : List String) :
    (r.drainOnto read).1 = read.reverse ++ lines ∧ (r.drainOnto read).2.1 = none ∧
      (r.drainOnto read).2.2.buffer = [] := by
  fun_induction LineReader.drainOnto read r generalizing lines with
  | case1 read r line r' ha _ ih =>
    have has := hc.answers
    rw [ha] at has
    obtain ⟨_, lines', hline, rfl, howes⟩ := has.owes h
    cases hline
    obtain ⟨hread, hfault, hbuffer⟩ := ih (has.consistent hc) howes
    refine ⟨?_, hfault, hbuffer⟩
    rw [hread, List.reverse_cons, List.append_assoc]
    rfl
  | case2 read r r' ha =>
    have has := hc.answers
    rw [ha] at has
    cases has with
    | wait hl hlen =>
      -- A line that is owed would have its line feed in the buffer.
      have hholds := h.holds
      rw [List.append_nil] at hholds
      cases lines with
      | nil => exact ⟨(List.append_nil _).symm, rfl, hholds⟩
      | cons first others =>
        rw [hholds, stream_cons] at hl
        simp at hl
  | case3 read r f r' ha =>
    have has := hc.answers
    rw [ha] at has
    obtain ⟨_, _, hline, -⟩ := has.owes h
    cases hline

theorem flatMap_encode (answers : List Response) :
    answers.flatMap Response.encode = stream (answers.flatMap Response.lines) := by
  rw [stream, List.flatMap_assoc]
  rfl

theorem nextAtEnd_of_buffer (h : r.buffer = []) : r.nextAtEnd.1 = .ok none := by
  simp [nextAtEnd, next, findEnd, h]

/-- **Answers arrive as they were written.** However the bytes of a list of answers arrive and
whenever a reader is asked meanwhile, if no line is longer than the limit then the reader hands out
the lines of the answers, one answer behind the other; it refuses nothing, and nothing is left over
at the end. Each answer has one line for each value behind `OK`, or three lines if it is an error,
and a value or detail differs from its line at most in that every line feed, carriage return and tab
has become one space. -/
theorem responses_delivered (limit : Nat) (answers : List Response) (us : List Use)
    (hlimit : ∀ answer ∈ answers, ∀ line ∈ answer.lines, (Text.toBytes line).length ≤ limit)
    (hu : .nextAtEnd ∉ us) (hfed : fed us = answers.flatMap Response.encode) :
    ((start limit).use us).1.filterMap handed ++ ((start limit).use us).2.drain.1 =
        answers.flatMap Response.lines ∧
      (∀ answer ∈ ((start limit).use us).1, ∃ line, answer = .ok line) ∧
      ((start limit).use us).2.drain.2.1 = none ∧
      ((start limit).use us).2.drain.2.2.buffer = [] ∧
      ((start limit).use us).2.drain.2.2.nextAtEnd.1 = .ok none ∧
      ∀ answer ∈ answers, answer.Written answer.lines ∧ answer.lines.length = answer.lineCount := by
  have hs := consistent_start limit
  have howes : (start limit).Owes (answers.flatMap Response.lines) (fed us ++ []) := by
    constructor
    · rw [List.append_nil, hfed, flatMap_encode]
      rfl
    · intro line hline
      obtain ⟨answer, hanswer, hline⟩ := List.mem_flatMap.1 hline
      constructor
      · intro c hc
        exact Response.not_breaksLine_of_mem_lines hline hc
      · exact hlimit answer hanswer line hline
  obtain ⟨lines, hlines, hok, hrest⟩ := howes.use hs hu
  obtain ⟨hc, -⟩ := hs.use us
  obtain ⟨hread, hfault, hbuffer⟩ := hrest.drainOnto hc []
  refine ⟨?_, hok, hfault, hbuffer, nextAtEnd_of_buffer hbuffer, fun answer _ => ?_⟩
  · rw [hlines, drain, hread]
    rfl
  · have hwritten := answer.written_lines
    exact ⟨hwritten, hwritten.length_eq⟩

/-- Answers whose texts end in a carriage return, are empty, look like the first line of an answer
and hold a character of two bytes. -/
def awkwardAnswers : List Response :=
  [.ok ["a\r", "", "OK\tERR"], .ok [], .err .noCommand "\u00E9\n"]

/-- The bytes of the answers in two pieces, cut within a character. -/
def awkwardUses : List Use :=
  [.next, .feed ((awkwardAnswers.flatMap Response.encode).take 29), .next, .next,
    .feed ((awkwardAnswers.flatMap Response.encode).drop 29), .next]

theorem responses_delivered_awkward :
    (∀ answer ∈ awkwardAnswers, ∀ line ∈ answer.lines, (Text.toBytes line).length ≤ 6) ∧
      .nextAtEnd ∉ awkwardUses ∧ fed awkwardUses = awkwardAnswers.flatMap Response.encode ∧
      ((start 6).use awkwardUses).1.filterMap handed ++ ((start 6).use awkwardUses).2.drain.1 =
        ["OK", "a ", "", "OK ERR", "OK", "ERR", "NO_CMD", "\u00E9 "] ∧
      ((start 6).use awkwardUses).2.drain.2.2.buffer = [] := by
  have hlimit : ∀ answer ∈ awkwardAnswers, ∀ line ∈ answer.lines,
      (Text.toBytes line).length ≤ 6 := by
    simp only [Text.toBytes_eq]
    decide
  have hu : .nextAtEnd ∉ awkwardUses := by simp [awkwardUses]
  have hfed : fed awkwardUses = awkwardAnswers.flatMap Response.encode := by
    simp [fed, awkwardUses, List.take_append_drop]
  obtain ⟨hlines, -, -, hbuffer, -, -⟩ :=
    responses_delivered 6 awkwardAnswers awkwardUses hlimit hu hfed
  have hexpected : awkwardAnswers.flatMap Response.lines =
      ["OK", "a ", "", "OK ERR", "OK", "ERR", "NO_CMD", "\u00E9 "] := by decide
  exact ⟨hlimit, hu, hfed, hlines.trans hexpected, hbuffer⟩

end LineReader

end AttributeGateway

import AttributeGateway.Wire.LineReader
import Mathlib.Data.Nat.Basic

/-!
# The lines of a byte stream

What a reader of lines hands out is determined by the bytes that have arrived, not by the pieces in
which they arrived or by how often it was asked meanwhile. The reference is a framing of the whole
stream: it is split at its line feeds, and the first piece that is longer than the limit ends it.

A reader owes the framing of the bytes in its buffer and of those that will arrive. Every question
to it hands over the first line of what it owes, or nothing; that is one lemma for each question
(`Answers.framing`, `AnswersAtEnd.framing`), and what holds of any number of questions follows.

* `framing` — the reference.
* `Consistent` — what has been searched holds no line feed; kept by whatever is done with a reader.
* `Answers` — what a reader can answer; `Consistent.answers` says that there is nothing else.
* `lines_eq_framing` — the lines that are handed out are those of the reference, and a refusal is
  final.
-/

namespace AttributeGateway

namespace LineReader

variable {limit : Nat} {line rest more : List UInt8} {r : LineReader}
  {answer : Except Fault (Option String) × LineReader}

/-! ### The reference -/

/-- What stands between the line feeds of a stream, without an empty piece at its end. -/
def pieces (stream : List UInt8) : List (List UInt8) :=
  let all := stream.splitOn lineFeed
  if all.getLast? = some [] then all.dropLast else all

/-- The lines of a stream up to the first one that is longer than the limit, and the fault with
which reading ends there if there is one. -/
def framing (limit : Nat) (stream : List UInt8) : List String × Option Fault :=
  (((pieces stream).takeWhile (·.length ≤ limit)).map lineText,
    if (pieces stream).any (limit < ·.length) then some (.lineTooLong limit) else none)

theorem pieces_line (hl : lineFeed ∉ line) (rest : List UInt8) :
    pieces (line ++ lineFeed :: rest) = line :: pieces rest := by
  have hsplit : (line ++ lineFeed :: rest).splitOn lineFeed =
      line :: rest.splitOn lineFeed := by
    refine List.splitOnP_append_cons_of_forall_mem (fun b hb => ?_) _ (by simp) _
    simpa using ne_of_mem_of_not_mem hb hl
  have hne : rest.splitOn lineFeed ≠ [] := List.splitOnP_ne_nil _ _
  obtain ⟨piece, others, hrest⟩ := List.exists_cons_of_ne_nil hne
  simp only [pieces, hsplit, hrest, List.getLast?_cons_cons, List.dropLast_cons_cons]
  split <;> rfl

theorem pieces_rest (hr : lineFeed ∉ rest) :
    pieces rest = if rest = [] then [] else [rest] := by
  have hsplit : rest.splitOn lineFeed = [rest] := List.splitOn_eq_singleton hr
  simp [pieces, hsplit]

/-- The first line of a stream that begins with some bytes of a line begins with them. -/
theorem pieces_append (hl : lineFeed ∉ line) (hne : line ≠ []) (more : List UInt8) :
    ∃ first others, pieces (line ++ more) = (line ++ first) :: others := by
  by_cases hm : lineFeed ∈ more
  · obtain ⟨first, rest, rfl, hfirst⟩ := List.eq_append_cons_of_mem hm
    refine ⟨first, pieces rest, ?_⟩
    rw [← List.append_assoc, pieces_line (by simp [hl, hfirst])]
  · refine ⟨more, [], ?_⟩
    rw [pieces_rest (by simp [hl, hm]), if_neg (by simp [hne])]

theorem framing_line (hl : lineFeed ∉ line) (hlen : line.length ≤ limit) (rest : List UInt8) :
    framing limit (line ++ lineFeed :: rest) =
      (lineText line :: (framing limit rest).1, (framing limit rest).2) := by
  simp [framing, pieces_line hl, hlen, Nat.not_lt.2 hlen]

/-- A line that is too long is refused, whatever follows. -/
theorem framing_long (hl : lineFeed ∉ line) (hlen : limit < line.length) (more : List UInt8) :
    framing limit (line ++ more) = ([], some (.lineTooLong limit)) := by
  have hne : line ≠ [] := by
    rintro rfl
    exact absurd hlen (Nat.not_lt_zero _)
  obtain ⟨first, others, hp⟩ := pieces_append hl hne more
  have hlong : limit < (line ++ first).length := by
    rw [List.length_append]
    omega
  simp only [framing, hp, Prod.mk.injEq]
  constructor
  · rw [List.takeWhile_cons_of_neg (by simpa using hlong), List.map_nil]
  · rw [List.any_cons, decide_eq_true hlong, Bool.true_or, if_pos rfl]

theorem framing_rest (hr : lineFeed ∉ rest) (hlen : rest.length ≤ limit) :
    framing limit rest = (if rest = [] then [] else [lineText rest], none) := by
  rw [framing, pieces_rest hr]
  split
  · simp
  · simp [hlen]

/-! ### What a reader answers -/

/-- What has been searched is in the buffer and holds no line feed. -/
structure Consistent (r : LineReader) : Prop where
  /-- No more has been searched than there is. -/
  le : r.searched ≤ r.buffer.length
  /-- There is no line feed in what has been searched. -/
  clean : lineFeed ∉ r.buffer.take r.searched

/-- A reader of which nothing has been searched. -/
theorem consistent_of_searched (h : r.searched = 0) : r.Consistent := by
  constructor
  · rw [h]
    exact Nat.zero_le _
  · simp [h]

theorem Consistent.feed (h : r.Consistent) (bytes : List UInt8) : (r.feed bytes).Consistent := by
  obtain ⟨hle, hclean⟩ := h
  constructor
  · simp only [LineReader.feed, List.length_append]
    omega
  · simpa only [LineReader.feed, List.take_append_of_le_length hle] using hclean

/-- What a reader answers when it is asked for the next line, and what becomes of it. -/
inductive Answers (r : LineReader) : Except Fault (Option String) × LineReader → Prop where
  /-- The first line is handed out. -/
  | line {line rest : List UInt8} (hb : r.buffer = line ++ lineFeed :: rest)
      (hl : lineFeed ∉ line) (hlen : line.length ≤ r.limit) :
    Answers r (.ok (some (lineText line)), { r with buffer := rest, searched := 0 })
  /-- The first line is too long. -/
  | refuse {line rest : List UInt8} (hb : r.buffer = line ++ rest) (hl : lineFeed ∉ line)
      (hlen : r.limit < line.length) : Answers r (.error (.lineTooLong r.limit), r)
  /-- No line has ended. -/
  | wait (hl : lineFeed ∉ r.buffer) (hlen : r.buffer.length ≤ r.limit) :
    Answers r (.ok none, { r with searched := r.buffer.length })

/-- Searching finds the first line feed of the buffer. -/
theorem Consistent.findEnd_eq_some (h : r.Consistent) {stop : Nat}
    (hs : findEnd (min r.searched r.buffer.length) r.buffer = some stop) :
    ∃ line rest, r.buffer = line ++ lineFeed :: rest ∧ lineFeed ∉ line ∧ line.length = stop := by
  obtain ⟨hle, hclean⟩ := h
  rw [Nat.min_eq_left hle, findEnd, Option.map_eq_some_iff] at hs
  obtain ⟨i, hi, rfl⟩ := hs
  obtain ⟨hlt, hfeed, hbefore⟩ := List.findIdx?_eq_some_iff_getElem.1 hi
  simp only [beq_iff_eq] at hfeed hbefore
  -- The line is what has been searched before and what has been searched now.
  refine ⟨r.buffer.take r.searched ++ (r.buffer.drop r.searched).take i,
    (r.buffer.drop r.searched).drop (i + 1), ?_, ?_, ?_⟩
  · rw [List.append_assoc, ← hfeed, ← List.drop_eq_getElem_cons hlt, List.take_append_drop,
      List.take_append_drop]
  · rw [List.mem_append, not_or]
    refine ⟨hclean, fun hm => ?_⟩
    obtain ⟨j, hj, hjf⟩ := List.mem_iff_getElem.1 hm
    rw [List.getElem_take] at hjf
    rw [List.length_take] at hj
    exact hbefore j (by omega) hjf
  · rw [List.length_append, List.length_take, List.length_take]
    omega

theorem Consistent.findEnd_eq_none (h : r.Consistent)
    (hs : findEnd (min r.searched r.buffer.length) r.buffer = none) : lineFeed ∉ r.buffer := by
  obtain ⟨hle, hclean⟩ := h
  rw [Nat.min_eq_left hle, findEnd, Option.map_eq_none_iff, List.findIdx?_eq_none_iff] at hs
  rw [← List.take_append_drop r.searched r.buffer, List.mem_append, not_or]
  exact ⟨hclean, fun hm => absurd (hs _ hm) (by simp)⟩

/-- **A reader answers nothing else.** -/
theorem Consistent.answers (h : r.Consistent) : r.Answers r.next := by
  unfold next
  split
  · next stop hs =>
    obtain ⟨line, rest, hb, hl, rfl⟩ := h.findEnd_eq_some hs
    split
    · next hlen => exact .refuse hb hl hlen
    · next hlen =>
      have htake : r.buffer.take line.length = line := by rw [hb, List.take_left]
      have hdrop : r.buffer.drop (line.length + 1) = rest := by
        rw [hb, ← List.drop_drop, List.drop_left, List.drop_one, List.tail_cons]
      rw [htake, hdrop]
      exact .line hb hl (Nat.le_of_not_lt hlen)
  · next hs =>
    have hl := h.findEnd_eq_none hs
    split
    · next hlen => exact .refuse (List.append_nil _).symm hl hlen
    · next hlen => exact .wait hl (Nat.le_of_not_lt hlen)

/-- What a reader answers when nothing more will arrive, and what becomes of it. -/
inductive AnswersAtEnd (r : LineReader) : Except Fault (Option String) × LineReader → Prop where
  /-- It answers as before. -/
  | before {answer : Except Fault (Option String) × LineReader} (ha : Answers r answer)
      (hn : answer.1 ≠ .ok none) : AnswersAtEnd r answer
  /-- The line without an end is handed out. -/
  | rest (hb : r.buffer ≠ []) (hl : lineFeed ∉ r.buffer) (hlen : r.buffer.length ≤ r.limit) :
    AnswersAtEnd r (.ok (some (lineText r.buffer)), { r with buffer := [], searched := 0 })
  /-- Nothing is left. -/
  | done (hb : r.buffer = []) : AnswersAtEnd r (.ok none, { r with searched := 0 })

theorem Consistent.answersAtEnd (h : r.Consistent) : r.AnswersAtEnd r.nextAtEnd := by
  have ha := h.answers
  unfold nextAtEnd
  generalize r.next = answer at ha
  cases ha with
  | line hb hl hlen => exact .before (.line hb hl hlen) nofun
  | refuse hb hl hlen => exact .before (.refuse hb hl hlen) nofun
  | wait hl hlen =>
    by_cases hb : r.buffer = []
    · simpa [hb] using AnswersAtEnd.done hb
    · simpa [hb] using AnswersAtEnd.rest hb hl hlen

/-! ### What a reader owes -/

/-- The line that is handed out by an answer. -/
def handed : Except Fault (Option String) → Option String
  | .ok line => line
  | .error _ => none

/-- **A question hands over the first line of what is owed**, whatever will arrive. -/
theorem Answers.framing (ha : r.Answers answer) (more : List UInt8) :
    framing r.limit (r.buffer ++ more) =
      ((handed answer.1).toList ++ (framing r.limit (answer.2.buffer ++ more)).1,
        (framing r.limit (answer.2.buffer ++ more)).2) := by
  cases ha with
  | line hb hl hlen =>
    rw [hb, List.append_assoc, List.cons_append, framing_line hl hlen]
    rfl
  | refuse | wait => rfl

/-- A question at the end hands over the first line of what is owed. -/
theorem AnswersAtEnd.framing (ha : r.AnswersAtEnd answer) :
    framing r.limit r.buffer =
      ((handed answer.1).toList ++ (framing r.limit answer.2.buffer).1,
        (framing r.limit answer.2.buffer).2) := by
  cases ha with
  | before ha =>
    have h := ha.framing []
    rwa [List.append_nil, List.append_nil] at h
  | rest hb hl hlen =>
    rw [framing_rest hl hlen, if_neg hb, framing_rest (by simp) (Nat.zero_le _)]
    rfl
  | done => rfl

theorem Answers.consistent (ha : r.Answers answer) (h : r.Consistent) :
    answer.2.Consistent := by
  cases ha with
  | line => exact consistent_of_searched rfl
  | refuse => exact h
  | wait hl =>
    constructor
    · exact Nat.le_refl _
    · simpa using hl

theorem AnswersAtEnd.consistent (ha : r.AnswersAtEnd answer) (h : r.Consistent) :
    answer.2.Consistent := by
  cases ha with
  | before ha => exact ha.consistent h
  | rest | done => exact consistent_of_searched rfl

theorem Answers.limit_eq (ha : r.Answers answer) : answer.2.limit = r.limit := by
  cases ha <;> rfl

theorem AnswersAtEnd.limit_eq (ha : r.AnswersAtEnd answer) : answer.2.limit = r.limit := by
  cases ha with
  | before ha => exact ha.limit_eq
  | rest | done => rfl

/-! ### Refusals -/

/-- The first line is longer than the limit, whether or not its end has arrived. -/
def Refuses (r : LineReader) : Prop :=
  ∃ line rest, r.buffer = line ++ rest ∧ lineFeed ∉ line ∧ r.limit < line.length

theorem Refuses.feed (h : r.Refuses) (bytes : List UInt8) : (r.feed bytes).Refuses := by
  obtain ⟨line, rest, hb, hl, hlen⟩ := h
  refine ⟨line, rest ++ bytes, ?_, hl, hlen⟩
  rw [LineReader.feed, hb, List.append_assoc]

/-- A line that is too long is not handed out, and stays where it is. -/
theorem Refuses.answers (h : r.Refuses) (ha : r.Answers answer) :
    answer = (.error (.lineTooLong r.limit), r) := by
  obtain ⟨line, rest, hb, hl, hlen⟩ := h
  cases ha with
  | @line line' rest' hb' hl' hlen' =>
    -- The short line would be a part of the long one, with the line feed.
    have hshort : line' ++ [lineFeed] <+: r.buffer :=
      ⟨rest', by rw [hb', List.append_assoc, List.singleton_append]⟩
    have hlong : line <+: r.buffer := ⟨rest, hb.symm⟩
    have hpre : line' ++ [lineFeed] <+: line := by
      refine List.prefix_of_prefix_length_le hshort hlong ?_
      rw [List.length_append, List.length_singleton]
      omega
    exact absurd (hpre.subset (List.mem_append_right _ (List.mem_singleton_self _))) hl
  | refuse => rfl
  | wait hl' hlen' =>
    rw [hb, List.length_append] at hlen'
    omega

theorem Refuses.answersAtEnd (h : r.Refuses) (ha : r.AnswersAtEnd answer) :
    answer = (.error (.lineTooLong r.limit), r) := by
  cases ha with
  | before ha => exact h.answers ha
  | rest hb hl hlen =>
    obtain ⟨line, rest, hb', -, hlen'⟩ := h
    rw [hb', List.length_append] at hlen
    omega
  | done hb =>
    obtain ⟨line, rest, hb', -, hlen'⟩ := h
    obtain ⟨rfl, -⟩ := List.append_eq_nil_iff.1 (hb'.symm.trans hb)
    exact absurd hlen' (Nat.not_lt_zero _)

/-- Nothing else than a line that is too long is refused. -/
theorem Answers.refuses (ha : r.Answers answer) {f : Fault} (hf : answer.1 = .error f) :
    f = .lineTooLong r.limit ∧ answer.2 = r ∧ r.Refuses := by
  cases ha with
  | line | wait => cases hf
  | @refuse line rest hb hl hlen =>
    cases hf
    exact ⟨rfl, rfl, line, rest, hb, hl, hlen⟩

theorem AnswersAtEnd.refuses (ha : r.AnswersAtEnd answer) {f : Fault}
    (hf : answer.1 = .error f) : f = .lineTooLong r.limit ∧ answer.2 = r ∧ r.Refuses := by
  cases ha with
  | before ha => exact ha.refuses hf
  | rest | done => cases hf

/-- Nothing is owed but the refusal. -/
theorem Refuses.framing (h : r.Refuses) (more : List UInt8) :
    framing r.limit (r.buffer ++ more) = ([], some (.lineTooLong r.limit)) := by
  obtain ⟨line, rest, hb, hl, hlen⟩ := h
  rw [hb, List.append_assoc, framing_long hl hlen]

/-! ### Using a reader -/

/-- What is done with a reader. -/
inductive Use where
  /-- Bytes arrive. -/
  | feed (bytes : List UInt8)
  /-- The next line is asked for. -/
  | next
  /-- The next line is asked for when nothing more will arrive. -/
  | nextAtEnd
  deriving DecidableEq

/-- The bytes that arrive. -/
def fed (us : List Use) : List UInt8 :=
  us.flatMap fun
    | .feed bytes => bytes
    | _ => []

/-- The answers of a reader that is used, and the reader behind that. -/
def use (r : LineReader) : List Use → List (Except Fault (Option String)) × LineReader
  | [] => ([], r)
  | .feed bytes :: us => (r.feed bytes).use us
  | .next :: us => (r.next.1 :: (r.next.2.use us).1, (r.next.2.use us).2)
  | .nextAtEnd :: us => (r.nextAtEnd.1 :: (r.nextAtEnd.2.use us).1, (r.nextAtEnd.2.use us).2)

/-- A line that is handed out at the end takes at least one byte off the buffer. -/
theorem length_of_nextAtEnd {r' : LineReader} {line : String}
    (h : r.nextAtEnd = (.ok (some line), r')) : r'.buffer.length < r.buffer.length := by
  unfold nextAtEnd at h
  split at h
  · next r'' hn =>
    have hb : r''.buffer = r.buffer := by
      unfold LineReader.next at hn
      split at hn <;> split at hn <;> cases hn
      rfl
    split at h
    · cases h
    · next hne =>
      cases h
      rw [List.isEmpty_iff, hb] at hne
      exact List.length_pos_iff.2 hne
  · exact length_of_next h

/-- Hands out all lines when nothing more will arrive, up to one that is refused. -/
def drainAtEnd (r : LineReader) : List String × Option Fault :=
  match h : r.nextAtEnd with
  | (.ok (some line), r') =>
    have := length_of_nextAtEnd h
    (line :: r'.drainAtEnd.1, r'.drainAtEnd.2)
  | (.ok none, _) => ([], none)
  | (.error f, _) => ([], some f)
termination_by r.buffer.length

/-- Hands out all lines that have ended, and then the rest. -/
def finish (r : LineReader) : List String × Option Fault :=
  (r.drain.1 ++ r.drain.2.2.drainAtEnd.1, r.drain.2.2.drainAtEnd.2)

/-- **What is drained at the end is what is owed.** -/
theorem Consistent.drainAtEnd_eq (h : r.Consistent) :
    r.drainAtEnd = LineReader.framing r.limit r.buffer := by
  fun_induction drainAtEnd r with
  | case1 r line r' ha _ ih =>
    have has := h.answersAtEnd
    rw [ha] at has
    rw [has.framing, ih (has.consistent h), has.limit_eq]
    rfl
  | case2 r r' ha =>
    have has := h.answersAtEnd
    rw [ha] at has
    cases has with
    | before _ hn => exact absurd rfl hn
    | done hb => rw [hb, framing_rest (by simp) (Nat.zero_le _), if_pos rfl]
  | case3 r f r' ha =>
    have has := h.answersAtEnd
    rw [ha] at has
    obtain ⟨rfl, -, hr⟩ := has.refuses rfl
    have hf := hr.framing []
    rw [List.append_nil] at hf
    rw [hf]

/-- What is drained is the beginning of what is owed. -/
theorem Consistent.drainOnto_eq (h : r.Consistent) (read : List String) :
    (r.drainOnto read).2.2.Consistent ∧ (r.drainOnto read).2.2.limit = r.limit ∧
      ∃ lines, (r.drainOnto read).1 = read.reverse ++ lines ∧
        LineReader.framing r.limit r.buffer =
          (lines ++ (LineReader.framing r.limit (r.drainOnto read).2.2.buffer).1,
            (LineReader.framing r.limit (r.drainOnto read).2.2.buffer).2) := by
  fun_induction drainOnto read r with
  | case1 read r line r' ha _ ih =>
    have has := h.answers
    rw [ha] at has
    have hlimit : r'.limit = r.limit := has.limit_eq
    obtain ⟨hc, hlim, lines, hl, hf⟩ := ih (has.consistent h)
    have howed := has.framing []
    simp only [List.append_nil] at howed
    rw [hlimit] at hlim hf
    refine ⟨hc, hlim, line :: lines, ?_, ?_⟩
    · rw [hl, List.reverse_cons, List.append_assoc, List.singleton_append]
    · rw [howed, hf]
      rfl
  | case2 read r r' ha | case3 read r f r' ha =>
    have has := h.answers
    rw [ha] at has
    have howed := has.framing []
    simp only [List.append_nil] at howed
    exact ⟨has.consistent h, has.limit_eq, [], (List.append_nil _).symm, howed⟩

theorem Consistent.finish_eq (h : r.Consistent) :
    r.finish = LineReader.framing r.limit r.buffer := by
  obtain ⟨hc, hlim, lines, hl, hf⟩ := h.drainOnto_eq []
  rw [hf, finish, drain, hc.drainAtEnd_eq, hlim, hl]
  rfl

theorem Consistent.use (h : r.Consistent) (us : List Use) :
    (r.use us).2.Consistent ∧ (r.use us).2.limit = r.limit := by
  induction us generalizing r with
  | nil => exact ⟨h, rfl⟩
  | cons u us ih =>
    cases u with
    | feed bytes => exact ih (h.feed bytes)
    | next =>
      obtain ⟨hc, hlim⟩ := ih (h.answers.consistent h)
      exact ⟨hc, hlim.trans h.answers.limit_eq⟩
    | nextAtEnd =>
      obtain ⟨hc, hlim⟩ := ih (h.answersAtEnd.consistent h)
      exact ⟨hc, hlim.trans h.answersAtEnd.limit_eq⟩

/-- **However a stream arrives**, what has been handed out and what is still owed are its
framing. -/
theorem Consistent.framing_use (h : r.Consistent) {us : List Use} (hu : .nextAtEnd ∉ us) :
    LineReader.framing r.limit (r.buffer ++ fed us) =
      ((r.use us).1.filterMap handed ++ (LineReader.framing r.limit (r.use us).2.buffer).1,
        (LineReader.framing r.limit (r.use us).2.buffer).2) := by
  induction us generalizing r with
  | nil => simp [fed, LineReader.use]
  | cons u us ih =>
    have hus : .nextAtEnd ∉ us := fun hm => hu (List.mem_cons_of_mem _ hm)
    cases u with
    | feed bytes =>
      have hfed : r.buffer ++ fed (.feed bytes :: us) = (r.feed bytes).buffer ++ fed us := by
        simp [fed, LineReader.feed]
      rw [hfed]
      exact ih (h.feed bytes) hus
    | next =>
      have hstep := h.answers.framing (fed us)
      have hrest := ih (h.answers.consistent h) hus
      rw [h.answers.limit_eq] at hrest
      rw [show fed (.next :: us) = fed us from rfl, hstep, hrest, LineReader.use]
      cases hhand : handed r.next.1 <;> simp [hhand]
    | nextAtEnd => exact absurd List.mem_cons_self hu

/-- A reader that refuses a line goes on refusing it, and keeps all bytes. -/
theorem Refuses.use (hc : r.Consistent) (h : r.Refuses) (us : List Use) :
    (∀ answer ∈ (r.use us).1, answer = .error (.lineTooLong r.limit)) ∧
      (r.use us).2.buffer = r.buffer ++ fed us ∧ (r.use us).2.Refuses := by
  induction us generalizing r with
  | nil => simpa [LineReader.use, fed] using h
  | cons u us ih =>
    cases u with
    | feed bytes =>
      have hfed : r.buffer ++ fed (.feed bytes :: us) = (r.feed bytes).buffer ++ fed us := by
        simp [fed, LineReader.feed]
      rw [hfed]
      exact ih (hc.feed bytes) (h.feed bytes)
    | next =>
      have hn := h.answers hc.answers
      simp only [LineReader.use, hn, List.forall_mem_cons, true_and]
      exact ih hc h
    | nextAtEnd =>
      have hn := h.answersAtEnd hc.answersAtEnd
      simp only [LineReader.use, hn, List.forall_mem_cons, true_and]
      exact ih hc h

/-- Behind a refusal a reader refuses. -/
theorem Consistent.refuses_of_mem (h : r.Consistent) {us : List Use} {f : Fault}
    (hf : .error f ∈ (r.use us).1) : f = .lineTooLong r.limit ∧ (r.use us).2.Refuses := by
  induction us generalizing r with
  | nil => cases hf
  | cons u us ih =>
    -- A refusal is the first answer or one of the others.
    have hstep {answer : Except Fault (Option String) × LineReader} (hc : answer.2.Consistent)
        (hlim : answer.2.limit = r.limit)
        (hfirst : answer.1 = .error f →
          f = .lineTooLong r.limit ∧ answer.2 = r ∧ r.Refuses)
        (hf : .error f = answer.1 ∨ .error f ∈ (answer.2.use us).1) :
        f = .lineTooLong r.limit ∧ (answer.2.use us).2.Refuses := by
      rcases hf with hf | hf
      · obtain ⟨hf, hr, href⟩ := hfirst hf.symm
        rw [hr] at hc ⊢
        exact ⟨hf, (href.use hc us).2.2⟩
      · rw [← hlim]
        exact ih hc hf
    cases u with
    | feed bytes => exact ih (h.feed bytes) hf
    | next =>
      exact hstep (h.answers.consistent h) h.answers.limit_eq (h.answers.refuses ·)
        (List.mem_cons.1 hf)
    | nextAtEnd =>
      exact hstep (h.answersAtEnd.consistent h) h.answersAtEnd.limit_eq
        (h.answersAtEnd.refuses ·) (List.mem_cons.1 hf)

theorem consistent_start (limit : Nat) : (start limit).Consistent := consistent_of_searched rfl

/-- **The lines of a stream do not depend on how it arrives.** Whenever a reader has been asked
meanwhile, the lines that it has handed out and those that are drained from it at the end are the
lines of the stream that has arrived, up to one that is too long; of each line one carriage return
at its end is left out. Once a line has been refused, every answer is that refusal, and all bytes
stay in the buffer, whatever arrives. -/
theorem lines_eq_framing (limit : Nat) (us : List Use) :
    (.nextAtEnd ∉ us →
      (((start limit).use us).1.filterMap handed ++ ((start limit).use us).2.finish.1,
          ((start limit).use us).2.finish.2) =
        framing limit (fed us)) ∧
    (∀ f, .error f ∈ ((start limit).use us).1 → f = .lineTooLong limit ∧
      ∀ us', (∀ answer ∈ (((start limit).use us).2.use us').1, answer = .error f) ∧
        (((start limit).use us).2.use us').2.buffer =
          ((start limit).use us).2.buffer ++ fed us') ∧
    ∀ line, lineText (line ++ [carriageReturn]) = Text.ofBytes line ∧
      (line.getLast? ≠ some carriageReturn → lineText line = Text.ofBytes line) := by
  have hs := consistent_start limit
  obtain ⟨hc, hlim⟩ := hs.use us
  refine ⟨fun hu => ?_, fun f hf => ?_, fun line => ⟨?_, fun hcr => ?_⟩⟩
  · have hfram := hs.framing_use hu
    rw [hc.finish_eq, hlim]
    exact hfram.symm
  · obtain ⟨rfl, href⟩ := hs.refuses_of_mem hf
    refine ⟨rfl, fun us' => ?_⟩
    obtain ⟨hall, hbuf, -⟩ := href.use hc us'
    rw [hlim] at hall
    exact ⟨hall, hbuf⟩
  · rw [lineText, List.getLast?_append, List.getLast?_singleton, Option.some_or, if_pos rfl,
      List.dropLast_concat]
  · rw [lineText, if_neg hcr]

/-- Pieces of a stream that cut a line and its end. Two carriage returns stand before the first line
feed, the second line is empty, and the third is too long before its end has arrived. -/
def cutStream : List Use :=
  [.feed [0x61, 0x0D], .next, .next, .feed [0x0D, 0x0A, 0x0A], .next,
    .feed [0x62, 0x63, 0x64, 0x65], .next, .next]

theorem lines_eq_framing_cutStream :
    .nextAtEnd ∉ cutStream ∧ .error (.lineTooLong 3) ∈ ((start 3).use cutStream).1 ∧
      (((start 3).use cutStream).1.filterMap handed ++ ((start 3).use cutStream).2.finish.1,
          ((start 3).use cutStream).2.finish.2) =
        (["a\r", ""], some (.lineTooLong 3)) ∧
      (∀ answer ∈ (((start 3).use cutStream).2.use [.feed [0x0A], .next, .nextAtEnd]).1,
        answer = .error (.lineTooLong 3)) ∧
      (((start 3).use cutStream).2.use [.feed [0x0A], .next, .nextAtEnd]).2.buffer =
        ((start 3).use cutStream).2.buffer ++ [0x0A] := by
  have hu : .nextAtEnd ∉ cutStream := by decide
  have hf : .error (.lineTooLong 3) ∈ ((start 3).use cutStream).1 := by
    have hanswers : ((start 3).use cutStream).1.getLast? = some (.error (.lineTooLong 3)) := by
      decide +kernel
    exact List.mem_of_getLast? hanswers
  obtain ⟨hlines, hrefusal, -⟩ := lines_eq_framing 3 cutStream
  have hframing : framing 3 (fed cutStream) = (["a\r", ""], some (.lineTooLong 3)) := by
    decide +kernel
  exact ⟨hu, hf, (hlines hu).trans hframing,
    (hrefusal _ hf).2 [.feed [0x0A], .next, .nextAtEnd]⟩

end LineReader

end AttributeGateway

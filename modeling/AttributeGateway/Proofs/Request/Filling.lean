import AttributeGateway.Proofs.Text.Integers
import AttributeGateway.Request.Template

/-!
# Filling a template

A template is cut into pieces once, and filled for each value. What comes out is said here without
the pieces: one pass goes over the text of the template from left to right, takes a piece off its
front at each turn, and writes what becomes of it. A percent sign takes the character behind it
along if that is one of three; otherwise it stands for itself, at the end of the text as anywhere
else. What has been written for a value is not looked at again.

* `Unquoted` — a text without one pair of quotes around it.
* `Turn` — what a turn takes off the front of a text; `Meets`, the pieces that the pass comes upon.
* `Becomes`, `Written` — what is written for a piece, and by the whole pass.
* `meets_iff`, `map_flatten_eq_some_iff` — the pass and the pieces agree.
* `filled_in_one_pass` — filling a template is the pass.
-/

namespace AttributeGateway

/-! ### Quotes -/

/-- A text and what is left of it without one pair of equal quotes around it, if there is one. -/
inductive Unquoted : List Char → List Char → Prop where
  /-- There is a pair. -/
  | quoted {q : Char} (hq : q = '\'' ∨ q = '"') (text : List Char) :
    Unquoted (q :: (text ++ [q])) text
  /-- There is none. -/
  | bare {token : List Char} (h : ∀ q text, q = '\'' ∨ q = '"' → token ≠ q :: (text ++ [q])) :
    Unquoted token token

theorem stripQuotes_quoted {token : String} {q : Char} {text : List Char} (hq : q = '\'' ∨ q = '"')
    (h : token.toList = q :: (text ++ [q])) : stripQuotes token = String.ofList text := by
  have hquote : (q == '\'' || q == '"') = true := by simpa using hq
  simp [stripQuotes, h, hquote]

theorem stripQuotes_bare {token : String}
    (h : ∀ q text, q = '\'' ∨ q = '"' → token.toList ≠ q :: (text ++ [q])) :
    stripQuotes token = token := by
  rw [stripQuotes]
  split
  · next q rest hlist =>
    split
    · next hcond =>
      simp only [Bool.and_eq_true, Bool.or_eq_true, beq_iff_eq] at hcond
      obtain ⟨text, rfl⟩ := List.getLast?_eq_some_iff.1 hcond.2
      exact absurd hlist (h q text hcond.1)
    · rfl
  · rfl

/-- **One pair of quotes is taken off**, and nothing else. -/
theorem unquoted_iff {token : String} {text : List Char} :
    Unquoted token.toList text ↔ text = (stripQuotes token).toList := by
  constructor
  · generalize hlist : token.toList = list
    intro h
    cases h with
    | quoted hq => rw [stripQuotes_quoted hq hlist, String.toList_ofList]
    | bare h => rw [stripQuotes_bare (by rwa [hlist]), hlist]
  · rintro rfl
    by_cases h : ∃ q text, (q = '\'' ∨ q = '"') ∧ token.toList = q :: (text ++ [q])
    · obtain ⟨q, text, hq, hlist⟩ := h
      rw [stripQuotes_quoted hq hlist, String.toList_ofList, hlist]
      exact .quoted hq text
    · have hbare : ∀ q text, q = '\'' ∨ q = '"' → token.toList ≠ q :: (text ++ [q]) :=
        fun q text hq hlist => h ⟨q, text, hq, hlist⟩
      rw [stripQuotes_bare hbare]
      exact .bare hbare

namespace Template

variable {text rest out part : List Char} {p : Piece} {value : String}

/-! ### The pass -/

/-- What a turn of the pass takes off the front of a text. -/
inductive Turn : List Char → Piece → List Char → Prop where
  /-- Two percent signs stand for one. -/
  | percent (rest : List Char) : Turn ('%' :: '%' :: rest) (.literal '%') rest
  /-- The place of the value as it is. -/
  | text (rest : List Char) : Turn ('%' :: 's' :: rest) .text rest
  /-- The place of the value as an integer. -/
  | integer (rest : List Char) : Turn ('%' :: 'd' :: rest) .integer rest
  /-- Any other percent sign stands for itself. -/
  | lone {rest : List Char} (h : ∀ c, rest.head? = some c → c ≠ '%' ∧ c ≠ 's' ∧ c ≠ 'd') :
    Turn ('%' :: rest) (.literal '%') rest
  /-- And so does any other character. -/
  | other {c : Char} (h : c ≠ '%') (rest : List Char) : Turn (c :: rest) (.literal c) rest

/-- The pass over a text comes upon a piece. -/
inductive Meets (p : Piece) : List Char → Prop where
  /-- At the next turn. -/
  | here {text rest : List Char} (h : Turn text p rest) : Meets p text
  /-- At a later turn. -/
  | behind {text rest : List Char} {q : Piece} (h : Turn text q rest) (hp : Meets p rest) :
    Meets p text

/-- What is written for a piece, if there is a way to write the value in its place. -/
inductive Becomes (value : String) : Piece → List Char → Prop where
  /-- A character that stands for itself. -/
  | literal (c : Char) : Becomes value (.literal c) [c]
  /-- The value as it is. -/
  | text : Becomes value .text value.toList
  /-- The integer that the value stands for, without superfluous characters. -/
  | integer {i : Int} {out : List Char} (hi : Text.DenotesInt value i) (hrange : Text.InRange64 i)
      (hout : Text.Canonical i out) : Becomes value .integer out

/-- What the pass over a text writes. -/
inductive Written (value : String) : List Char → List Char → Prop where
  /-- Nothing for nothing. -/
  | nil : Written value [] []
  /-- At each turn what becomes of the piece, and the rest behind it. -/
  | turn {text rest part out : List Char} {p : Piece} (h : Turn text p rest)
      (hp : Becomes value p part) (hrest : Written value rest out) :
      Written value text (part ++ out)

/-! ### The pass and the pieces -/

/-- A turn takes the first piece. -/
theorem Turn.piecesOf_eq (h : Turn text p rest) : piecesOf text = p :: piecesOf rest := by
  cases h with
  | percent | text | integer => rfl
  | lone h =>
    rw [piecesOf]
    · rintro rest' - rfl
      exact (h 's' rfl).2.1 rfl
    · rintro rest' - rfl
      exact (h 'd' rfl).2.2 rfl
    · rintro rest' - rfl
      exact (h '%' rfl).1 rfl
  | other h rest =>
    rw [piecesOf]
    · exact fun _ hc _ => h hc
    · exact fun _ hc _ => h hc
    · exact fun _ hc _ => h hc

/-- **The pass goes on to the end**: what holds of the empty text, and of a text if it holds of what
a turn leaves of it, holds of every text. -/
theorem turn_induction {motive : List Char → Prop} (nil : motive [])
    (turn : ∀ {text p rest}, Turn text p rest → motive rest → motive text) (text : List Char) :
    motive text := by
  fun_induction piecesOf text with
  | case1 => exact nil
  | case2 rest ih => exact turn (.text rest) ih
  | case3 rest ih => exact turn (.integer rest) ih
  | case4 rest ih => exact turn (.percent rest) ih
  | case5 c rest hs hd hpercent ih =>
    by_cases hc : c = '%'
    · subst hc
      refine turn (.lone fun c hc => ?_) ih
      obtain ⟨rest', rfl⟩ := List.head?_eq_some_iff.1 hc
      refine ⟨?_, ?_, ?_⟩
      · rintro rfl
        exact hpercent rest' rfl rfl
      · rintro rfl
        exact hs rest' rfl rfl
      · rintro rfl
        exact hd rest' rfl rfl
    · exact turn (.other hc rest) ih

/-- The pass comes upon the pieces of the text. -/
theorem meets_iff : Meets p text ↔ p ∈ piecesOf text := by
  constructor
  · intro h
    induction h with
    | here h => exact h.piecesOf_eq ▸ List.mem_cons_self
    | behind h _ ih => exact h.piecesOf_eq ▸ List.mem_cons_of_mem _ ih
  · induction text using turn_induction with
    | nil => exact fun h => absurd h List.not_mem_nil
    | turn h ih =>
      rw [h.piecesOf_eq, List.mem_cons]
      rintro (rfl | hp)
      · exact .here h
      · exact .behind h (ih hp)

/-- What a piece is filled with is what is written for it. -/
theorem fillPiece_eq_some_iff : fillPiece value p = some part ↔ Becomes value p part := by
  constructor
  · intro h
    cases p with
    | literal c =>
      cases h
      exact .literal c
    | text =>
      cases h
      exact .text
    | integer =>
      rw [fillPiece] at h
      split at h
      · next word hword =>
        cases h
        exact .integer (Text.readInt64_eq_ok_iff.1 hword) (Text.inRange64_toInt word)
          (Text.canonical_iff.2 rfl)
      · cases h
  · intro h
    cases h with
    | literal c => rfl
    | text => rfl
    | @integer i out hi hrange hout =>
      obtain rfl := Text.canonical_iff.1 hout
      have hword := Text.toInt_ofInt hrange
      have hread : Text.readInt64 value = .ok (Int64.ofInt i) :=
        Text.readInt64_eq_ok_iff.2 (by rwa [hword])
      rw [fillPiece, hread]
      simp only [hword]

/-- Filling a piece fails exactly if the value has to be an integer and is none. -/
theorem fillPiece_eq_none_iff :
    fillPiece value p = none ↔
      p = .integer ∧ ¬ ∃ i, Text.DenotesInt value i ∧ Text.InRange64 i := by
  rw [← Text.exists_readInt64_iff]
  cases p with
  | literal c => simp [fillPiece]
  | text => simp [fillPiece]
  | integer => cases h : Text.readInt64 value <;> simp [fillPiece, h]

/-- **The pass writes what the pieces are filled with.** -/
theorem map_flatten_eq_some_iff :
    ((piecesOf text).mapM (fillPiece value)).map List.flatten = some out ↔
      Written value text out := by
  constructor
  · induction text using turn_induction generalizing out with
    | nil =>
      intro h
      cases h
      exact .nil
    | @turn text p rest h ih =>
      rw [h.piecesOf_eq, List.mapM_cons]
      intro hout
      cases hp : fillPiece value p with
      | none => simp [hp] at hout
      | some part =>
        cases hrest : (piecesOf rest).mapM (fillPiece value) with
        | none => simp [hp, hrest] at hout
        | some parts =>
          simp only [hp, hrest, Option.pure_def, Option.bind_eq_bind, Option.bind_some,
            Option.map_some, List.flatten_cons, Option.some.injEq] at hout
          subst hout
          exact .turn h (fillPiece_eq_some_iff.1 hp) (ih (by rw [hrest]; rfl))
  · intro h
    induction h with
    | nil => rfl
    | turn h hp _ ih =>
      obtain ⟨parts, hparts, rfl⟩ := Option.map_eq_some_iff.1 ih
      rw [h.piecesOf_eq, List.mapM_cons, fillPiece_eq_some_iff.2 hp, hparts]
      rfl

/-- Filling the pieces fails exactly if one of them cannot be filled. -/
theorem mapM_fillPiece_eq_none_iff {pieces : List Piece} :
    pieces.mapM (fillPiece value) = none ↔ ∃ p ∈ pieces, fillPiece value p = none := by
  induction pieces with
  | nil => simp
  | cons p pieces ih =>
    rw [List.mapM_cons, List.exists_mem_cons_iff, ← ih]
    cases fillPiece value p <;> cases pieces.mapM (fillPiece value) <;> simp

/-! ### Templates -/

variable {token : String}

theorem pieces_ofToken (h : Unquoted token.toList text) :
    (ofToken token).pieces = piecesOf text := by
  rw [unquoted_iff.1 h]
  rfl

/-- A template depends on the value if the pass comes upon a place for it. -/
theorem hasPlaceholders_iff (h : Unquoted token.toList text) :
    (ofToken token).hasPlaceholders = true ↔ Meets .text text ∨ Meets .integer text := by
  rw [hasPlaceholders, pieces_ofToken h, List.any_eq_true, meets_iff, meets_iff]
  constructor
  · rintro ⟨p, hp, hplace⟩
    cases p with
    | literal c => cases hplace
    | text => exact .inl hp
    | integer => exact .inr hp
  · rintro (hp | hp)
    · exact ⟨_, hp, rfl⟩
    · exact ⟨_, hp, rfl⟩

/-- A template with places for the value is filled by the pass. -/
theorem fill_eq_some_iff (h : Unquoted token.toList text)
    (hp : Meets .text text ∨ Meets .integer text) {line : String} :
    (ofToken token).fill value = some line ↔ Written value text line.toList := by
  rw [fill, if_pos ((hasPlaceholders_iff h).2 hp), pieces_ofToken h, ← map_flatten_eq_some_iff]
  simp only [Option.map_eq_some_iff, ← String.toList_inj, String.toList_ofList]

/-- Filling fails exactly if there is a place for an integer, and the value is none. -/
theorem fill_eq_none_iff (h : Unquoted token.toList text) :
    (ofToken token).fill value = none ↔
      Meets .integer text ∧ ¬ ∃ i, Text.DenotesInt value i ∧ Text.InRange64 i := by
  by_cases hp : Meets .text text ∨ Meets .integer text
  · rw [fill, if_pos ((hasPlaceholders_iff h).2 hp), pieces_ofToken h, Option.map_eq_none_iff,
      mapM_fillPiece_eq_none_iff, meets_iff]
    simp only [fillPiece_eq_none_iff, ← and_assoc, exists_and_right, exists_eq_right]
  · rw [fill, if_neg fun hplace => hp ((hasPlaceholders_iff h).1 hplace)]
    exact iff_of_false (Option.some_ne_none _) fun hnone => hp (.inr hnone.1)

/-- **A template is filled in one pass.** Of the word of a request one pair of equal quotes is taken
off, if there is one; the pass goes over the text that is left. If it comes upon a place for the
value, the line for the value is what the pass writes. There is no line exactly if it comes upon a
place for an integer, and the value is not digits, perhaps behind a sign, that stand for an integer
of 64 bits. If it comes upon no place, the line is the value. -/
theorem filled_in_one_pass (token value : String) :
    ∃ text, (∀ t, Unquoted token.toList t ↔ t = text) ∧
      (Meets .text text ∨ Meets .integer text → ∀ line,
        (ofToken token).fill value = some line ↔ Written value text line.toList) ∧
      ((ofToken token).fill value = none ↔
        Meets .integer text ∧ ¬ ∃ i, Text.DenotesInt value i ∧ Text.InRange64 i) ∧
      (¬ Meets .text text → ¬ Meets .integer text → (ofToken token).fill value = some value) := by
  have h : Unquoted token.toList (stripQuotes token).toList := unquoted_iff.2 rfl
  refine ⟨(stripQuotes token).toList, fun t => unquoted_iff, fun hp line => fill_eq_some_iff h hp,
    fill_eq_none_iff h, fun htext hinteger => if_neg fun hplace => ?_⟩
  exact ((hasPlaceholders_iff h).1 hplace).elim htext hinteger

/-- Runs of percent signs, one before another character, one at the end, and an integer with
superfluous characters; a value that is no integer; and a template without a place for the value. -/
theorem filled_in_one_pass_percents :
    Written "+007" "%%%s%x%%d%d%".toList "%+007%x%d7%".toList ∧
      (ofToken "'%%%s%x%%d%d%'").fill "7.0" = none ∧
      (ofToken "\"100%%\"").fill "+007" = some "+007" := by
  have hquotes : Unquoted "'%%%s%x%%d%d%'".toList "%%%s%x%%d%d%".toList :=
    unquoted_iff.2 (by decide)
  have hquotes' : Unquoted "\"100%%\"".toList "100%%".toList := unquoted_iff.2 (by decide)
  refine ⟨?_, ?_, ?_⟩
  · obtain ⟨text, htext, hfill, -⟩ := filled_in_one_pass "'%%%s%x%%d%d%'" "+007"
    obtain rfl := (htext _).1 hquotes
    exact (hfill (.inl (meets_iff.2 (by decide))) "%+007%x%d7%").1 (by decide)
  · obtain ⟨text, htext, -, hnone, -⟩ := filled_in_one_pass "'%%%s%x%%d%d%'" "7.0"
    obtain rfl := (htext _).1 hquotes
    refine hnone.2 ⟨meets_iff.2 (by decide), ?_⟩
    rw [← Text.exists_readInt64_iff]
    rintro ⟨word, hword⟩
    cases hword
  · obtain ⟨text, htext, -, -, hplain⟩ := filled_in_one_pass "\"100%%\"" "+007"
    obtain rfl := (htext _).1 hquotes'
    exact hplain (fun h => absurd (meets_iff.1 h) (by decide))
      fun h => absurd (meets_iff.1 h) (by decide)

end Template

end AttributeGateway

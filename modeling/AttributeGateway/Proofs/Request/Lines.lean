import AttributeGateway.Proofs.Request.Items

/-!
# Lines and their words

A line is cut into words wherever white space stands, and it does not matter how much of it stands
there: a line is cut into these words exactly if they stand in it in order, with white space around
them. What a request line asks for is therefore asked for by other lines too: for each of its
queries there is a line that asks for that one alone.

* `Word` — a text that is one word; `words_append` says that white space separates.
* `Spaced` — words in order with white space around them; `wordsOf_eq_iff` says that these are the
  words that a line is cut into.
* `lineOf` — a line for some words; `wordsOf_lineOf`.
* `Get.only`, `Command.exists_line_only` — the request for one of the queries, and a line for it.
-/

namespace AttributeGateway

namespace Text

variable {c : Char} {text rest word : List Char}

/-! ### Words -/

/-- A text that is one word: it is not empty, and has no white space. -/
structure Word (text : List Char) : Prop where
  ne_nil : text ≠ []
  solid : ∀ c ∈ text, isBlank c = false

theorem word_iff : Word text ↔ text ≠ [] ∧ text.all (fun c => !isBlank c) = true := by
  rw [List.all_eq_true]
  simp only [Bool.not_eq_true']
  exact ⟨fun h => ⟨h.ne_nil, h.solid⟩, fun h => ⟨h.1, h.2⟩⟩

instance (text : List Char) : Decidable (Word text) := decidable_of_iff _ word_iff.symm

/-- Cutting a text before one that is cut already only adds words in front of it, if the one behind
begins with no word. -/
theorem foldr_cutBefore (text : List Char) (behind : List (List Char)) :
    text.foldr cutBefore ([], behind) =
      ((text.foldr cutBefore ([], [])).1, (text.foldr cutBefore ([], [])).2 ++ behind) := by
  induction text with
  | nil => rfl
  | cons c text ih =>
    rw [List.foldr_cons, List.foldr_cons, ih, cutBefore, cutBefore]
    split
    · split <;> rfl
    · rfl

/-- **White space separates words.** -/
theorem words_append (text : List Char) (hc : isBlank c = true) (rest : List Char) :
    words (text ++ c :: rest) = words text ++ words rest := by
  have hrest : (c :: rest).foldr cutBefore ([], []) = ([], words rest) := by
    rw [List.foldr_cons, cutBefore, if_pos hc]
    rfl
  generalize words rest = behind at hrest ⊢
  rw [words, List.foldr_append, hrest, foldr_cutBefore, words]
  dsimp only
  split <;> rfl

/-- A word is cut into itself. -/
theorem Word.words_eq (h : Word word) : words word = [word] := by
  have hfold : word.foldr cutBefore ([], []) = (word, []) := by
    obtain ⟨-, hsolid⟩ := h
    induction word with
    | nil => rfl
    | cons c word ih =>
      rw [List.foldr_cons, ih fun d hd => hsolid d (List.mem_cons_of_mem _ hd), cutBefore, if_neg]
      exact Bool.eq_false_iff.1 (hsolid c List.mem_cons_self)
  rw [words, hfold, if_neg]
  simpa using h.ne_nil

/-- Whatever a text is cut into are words, but for an empty one that may stand in front. -/
theorem solid_of_mem_cut (text : List Char) :
    (∀ c ∈ (text.foldr cutBefore ([], [])).1, isBlank c = false) ∧
      ∀ word ∈ (text.foldr cutBefore ([], [])).2, Word word := by
  induction text with
  | nil => simp
  | cons c text ih =>
    obtain ⟨hfirst, hrest⟩ := ih
    rw [List.foldr_cons, cutBefore]
    split
    · refine ⟨by simp, ?_⟩
      split
      · exact hrest
      · next hne => exact List.forall_mem_cons.2 ⟨⟨by simpa using hne, hfirst⟩, hrest⟩
    · next hc => exact ⟨List.forall_mem_cons.2 ⟨Bool.eq_false_iff.2 hc, hfirst⟩, hrest⟩

theorem word_of_mem_words (h : word ∈ words text) : Word word := by
  obtain ⟨hfirst, hrest⟩ := solid_of_mem_cut text
  rw [words] at h
  split at h
  · exact hrest word h
  · next hne =>
    rcases List.mem_cons.1 h with rfl | h
    · exact ⟨by simpa using hne, hfirst⟩
    · exact hrest word h

/-! ### White space around words -/

/-- Words in order with white space around them: a word ends where white space or nothing follows
it. -/
inductive Spaced : List String → List Char → Prop where
  /-- Behind the last word there may be white space. -/
  | blank {gap : List Char} (hgap : ∀ c ∈ gap, isBlank c = true) : Spaced [] gap
  /-- And so there may be before each word. -/
  | word {gap rest : List Char} {w : String} {ws : List String}
      (hgap : ∀ c ∈ gap, isBlank c = true) (hend : ∀ c, rest.head? = some c → isBlank c = true)
      (h : Spaced ws rest) : Spaced (w :: ws) (gap ++ (w.toList ++ rest))

theorem words_blank_append {gap : List Char} (h : ∀ c ∈ gap, isBlank c = true)
    (text : List Char) : words (gap ++ text) = words text := by
  induction gap with
  | nil => rfl
  | cons c gap ih =>
    obtain ⟨hc, hgap⟩ := List.forall_mem_cons.1 h
    rw [List.cons_append, words_cons_blank hc, ih hgap]

/-- A word that ends is the first one, and the others stand behind it. -/
theorem Word.words_append (hw : Word word) (hend : ∀ c, rest.head? = some c → isBlank c = true) :
    words (word ++ rest) = word :: words rest := by
  cases rest with
  | nil => rw [List.append_nil, hw.words_eq, words_nil]
  | cons c rest =>
    have hc : isBlank c = true := hend c rfl
    rw [Text.words_append _ hc, hw.words_eq, words_cons_blank hc]
    rfl

theorem Spaced.words_eq {ws : List String} (h : Spaced ws text)
    (hws : ∀ w ∈ ws, Word w.toList) : (words text).map String.ofList = ws := by
  induction h with
  | @blank gap hgap =>
    rw [← List.append_nil gap, words_blank_append hgap]
    rfl
  | @word gap rest w ws hgap hend _ ih =>
    obtain ⟨hw, hws⟩ := List.forall_mem_cons.1 hws
    rw [words_blank_append hgap, hw.words_append hend, List.map_cons, String.ofList_toList, ih hws]

theorem Spaced.blank_cons {ws : List String} (hc : isBlank c = true) (h : Spaced ws text) :
    Spaced ws (c :: text) := by
  cases h with
  | blank hgap => exact .blank (List.forall_mem_cons.2 ⟨hc, hgap⟩)
  | word hgap hend h => exact .word (List.forall_mem_cons.2 ⟨hc, hgap⟩) hend h

/-- Wherever a text is cut, its first characters are a word so far, and the words that follow stand
in the rest with white space around them. -/
theorem spaced_cut (text : List Char) :
    ∃ rest, text = (text.foldr cutBefore ([], [])).1 ++ rest ∧
      (∀ c, rest.head? = some c → isBlank c = true) ∧
      Spaced ((text.foldr cutBefore ([], [])).2.map String.ofList) rest := by
  induction text with
  | nil => exact ⟨[], rfl, by simp, .blank (by simp)⟩
  | cons c text ih =>
    obtain ⟨rest, htext, hend, hrest⟩ := ih
    rw [List.foldr_cons, cutBefore]
    generalize text.foldr cutBefore ([], []) = cut at htext hrest ⊢
    obtain ⟨first, behind⟩ := cut
    subst htext
    split
    · next hc =>
      refine ⟨c :: (first ++ rest), rfl, fun d hd => Option.some.inj hd ▸ hc, ?_⟩
      split
      · next hfirst =>
        obtain rfl : first = [] := by simpa using hfirst
        exact hrest.blank_cons hc
      · have h : Spaced (String.ofList first :: behind.map String.ofList)
            ([c] ++ ((String.ofList first).toList ++ rest)) := .word (by simpa using hc) hend hrest
        rwa [String.toList_ofList] at h
    · exact ⟨rest, rfl, hend, hrest⟩

/-- The words of a text stand in it with white space around them. -/
theorem spaced_words (text : List Char) : Spaced ((words text).map String.ofList) text := by
  obtain ⟨rest, htext, hend, hrest⟩ := spaced_cut text
  rw [words]
  generalize text.foldr cutBefore ([], []) = cut at htext hrest ⊢
  obtain ⟨first, behind⟩ := cut
  subst htext
  dsimp only
  split
  · next hfirst =>
    obtain rfl : first = [] := by simpa using hfirst
    exact hrest
  · have h : Spaced (String.ofList first :: behind.map String.ofList)
        ([] ++ ((String.ofList first).toList ++ rest)) := .word (by simp) hend hrest
    rwa [String.toList_ofList] at h

/-! ### Lines -/

theorem word_of_mem_wordsOf {line w : String} (h : w ∈ wordsOf line) : Word w.toList := by
  obtain ⟨word, hword, rfl⟩ := List.mem_map.1 h
  rw [String.toList_ofList]
  exact word_of_mem_words hword

/-- **A line is cut into the words that stand in it with white space around them.** -/
theorem wordsOf_eq_iff {line : String} {ws : List String} :
    wordsOf line = ws ↔ (∀ w ∈ ws, Word w.toList) ∧ Spaced ws line.toList := by
  constructor
  · rintro rfl
    exact ⟨fun w => word_of_mem_wordsOf, spaced_words line.toList⟩
  · rintro ⟨hws, h⟩
    exact h.words_eq hws

/-- The line of some words, with a space behind each of them. -/
def lineOf (ws : List String) : String := String.ofList (ws.flatMap fun w => w.toList ++ [' '])

theorem spaced_lineOf (ws : List String) : Spaced ws (lineOf ws).toList := by
  rw [lineOf, String.toList_ofList]
  induction ws with
  | nil => exact .blank (by simp)
  | cons w ws ih =>
    rw [List.flatMap_cons, List.append_assoc, List.singleton_append,
      ← List.nil_append (w.toList ++ _)]
    exact .word (by simp) (fun c hc => Option.some.inj hc ▸ by decide) (ih.blank_cons (by decide))

/-- **A line of words is cut into these words.** -/
theorem wordsOf_lineOf {ws : List String} (h : ∀ w ∈ ws, Word w.toList) :
    wordsOf (lineOf ws) = ws :=
  wordsOf_eq_iff.2 ⟨h, spaced_lineOf ws⟩

end Text

/-! ### Requests for one of the queries -/

/-- The request for one query alone. -/
def Get.only (get : Get) (q : Query) : Get := { get with queries := [q] }

theorem mem_of_mem_pairs {items : List String} {x : String × String} (h : x ∈ pairs items) :
    x.1 ∈ items ∧ x.2 ∈ items := by
  fun_induction pairs items with
  | case1 a b rest ih =>
    rcases List.mem_cons.1 h with rfl | h
    · exact ⟨List.mem_cons_self, List.mem_cons_of_mem _ List.mem_cons_self⟩
    · exact (ih h).imp (fun h => List.mem_cons_of_mem _ (List.mem_cons_of_mem _ h)) fun h =>
        List.mem_cons_of_mem _ (List.mem_cons_of_mem _ h)
  | case2 => cases h

/-- **For each query of a request line there is a line that asks for it alone.** -/
theorem Command.exists_line_only {line : String} {get : Get} (h : parse line = .ok (.get get))
    {q : Query} (hq : q ∈ get.queries) : ∃ line', parse line' = .ok (.get (get.only q)) := by
  obtain ⟨args, hwords, hargs⟩ := arguments_of_parse h
  obtain ⟨url, template, items, rfl, rfl⟩ := Get.of_arguments hargs
  obtain ⟨x, hx, rfl⟩ := List.mem_map.1 hq
  obtain ⟨hbean, hpath⟩ := mem_of_mem_pairs hx
  refine ⟨Text.lineOf ["GET", url, template, x.1, x.2], ?_⟩
  rw [parse, Text.wordsOf_lineOf]
  · rfl
  · intro w hw
    apply Text.word_of_mem_wordsOf
    rw [hwords]
    simp only [List.mem_cons, List.not_mem_nil, or_false] at hw ⊢
    rcases hw with rfl | rfl | rfl | rfl | rfl
    · exact .inl rfl
    · exact .inr (.inl rfl)
    · exact .inr (.inr (.inl rfl))
    · exact .inr (.inr (.inr hbean))
    · exact .inr (.inr (.inr hpath))

end AttributeGateway

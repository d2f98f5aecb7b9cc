import AttributeGateway.Proofs.Wire.Cutting
import AttributeGateway.Request.Command

/-!
# The shape of answers

What a client may expect of the answer to a request line, by the words of the line. Words that are
no request are refused in one way. A request to drop the connection is answered by `OK` alone. A
request with `n` pairs of a bean and a path is answered by `n` values, or by one of two errors.

* `Refusal`, `Reply` — the answers to words that are no request and to those that are one;
  `refusal_of_ofWords` and `ofWords_of_refusal` say that exactly the former are no command.
* `Documented` — the answers that a client may expect; `Documented.carries` says how many values
  they have.
-/

namespace AttributeGateway

variable {words : List String} {r : Response} {f : Fault} {get : Get} {url : String}

/-- The answer to words that are no request. -/
inductive Refusal : List String → Response → Prop where
  /-- There is no word. -/
  | noCommand : Refusal [] (.err .noCommand "No command was given")
  /-- The first word is no command. -/
  | unknown {word : String} {args : List String} (hg : word ≠ "GET") (hc : word ≠ "CLOSE") :
    Refusal (word :: args) (.err .unknownCommand word)
  /-- There is not an endpoint, a template and one or more pairs. -/
  | getCount {args : List String} (h : args.length < 4 ∨ args.length % 2 = 1) :
    Refusal ("GET" :: args) (.err .invalidArgumentLength
      ("Expecting an even number of arguments and at least 4 but there was " ++
        Text.decimal args.length))
  /-- There is not one endpoint. -/
  | closeCount {args : List String} (h : args.length ≠ 1) :
    Refusal ("CLOSE" :: args) (.err .invalidArgumentLength
      ("Expecting 1 argument but there was " ++ Text.decimal args.length))

/-- Words that ask for `n` pairs of a bean and a path. -/
def AsksFor (n : Nat) (words : List String) : Prop :=
  0 < n ∧ ∃ url template items, words = "GET" :: url :: template :: items ∧ items.length = 2 * n

/-- An answer to words that are a request. -/
inductive Reply (words : List String) : Response → Prop where
  /-- The connection has been dropped. -/
  | closed {url : String} (h : words = ["CLOSE", url]) : Reply words (.ok [])
  /-- There is one value for each pair. -/
  | values {values : List String} (h : AsksFor values.length words) : Reply words (.ok values)
  /-- No connection could be had, or the channel failed. -/
  | failed {n : Nat} {code : ErrorCode} (h : AsksFor n words)
      (hc : code = .connectionFailed ∨ code = .channelError) (detail : String) :
    Reply words (.err code detail)

/-- An answer that a client may expect to a line with these words. -/
def Documented (words : List String) (r : Response) : Prop := Refusal words r ∨ Reply words r

/-! ### Words that are a request -/

theorem length_pairs {n : Nat} : {items : List String} → items.length = 2 * n →
    (pairs items).length = n
  | [], h => by
    rw [List.length_nil] at h
    obtain rfl : n = 0 := by omega
    rfl
  | [_], h => by
    rw [List.length_singleton] at h
    omega
  | a :: b :: items, h => by
    cases n with
    | zero => cases h
    | succ n =>
      have hitems : items.length = 2 * n := by
        simp only [List.length_cons] at h
        omega
      rw [pairs, List.length_cons, length_pairs hitems]

/-- Either the arguments of `GET` are counted wrongly, or they have the pairs of the request. -/
theorem Get.ofArguments_cases (args : List String) :
    Get.ofArguments args = Get.ofArguments.refused args ∧
        (args.length < 4 ∨ args.length % 2 = 1) ∨
      ∃ get, Get.ofArguments args = .ok get ∧ AsksFor get.queries.length ("GET" :: args) := by
  unfold Get.ofArguments
  split
  · next url template a b rest =>
    split
    · next heven =>
      obtain ⟨n, hn⟩ : ∃ n, rest.length = 2 * n := ⟨rest.length / 2, by omega⟩
      have hlen : (pairs (a :: b :: rest)).length = n + 1 :=
        length_pairs (by simp only [List.length_cons]; omega)
      refine .inr ⟨_, rfl, ?_, url, template, a :: b :: rest, rfl, ?_⟩
      · rw [List.length_map, hlen]
        exact Nat.succ_pos n
      · rw [List.length_map, hlen]
        simp only [List.length_cons]
        omega
    · next hodd =>
      refine .inl ⟨rfl, .inr ?_⟩
      simp only [List.length_cons]
      omega
  · next hargs =>
    refine .inl ⟨rfl, .inl ?_⟩
    match args, hargs with
    | [], _ | [_], _ | [_, _], _ | [_, _, _], _ => simp
    | a :: b :: c :: d :: rest, hargs => exact absurd rfl (hargs a b c d rest)

/-- Either the arguments of `CLOSE` are counted wrongly, or there is one. -/
theorem closeArgument_cases (args : List String) :
    closeArgument args = .error (.wrongArgumentCount
        ("Expecting 1 argument but there was " ++ Text.decimal args.length)) ∧ args.length ≠ 1 ∨
      ∃ url, args = [url] ∧ closeArgument args = .ok url := by
  by_cases hlen : args.length = 1
  · obtain ⟨url, rfl⟩ := List.length_eq_one_iff.1 hlen
    exact .inr ⟨url, rfl, rfl⟩
  · refine .inl ⟨?_, hlen⟩
    have htext : Text.decimal (1 : Nat) = "1" := by decide
    rw [closeArgument, checkCount, if_neg hlen, htext, if_pos rfl]
    rfl

namespace Command

/-- Words are refused or are a request, by the first of them and by their number. -/
theorem ofWords_cases (words : List String) :
    (∃ f, ofWords words = .error f ∧ Refusal words (.ofFault f)) ∨
      (∃ get, ofWords words = .ok (.get get) ∧ AsksFor get.queries.length words) ∨
      ∃ url, ofWords words = .ok (.close url) ∧ words = ["CLOSE", url] := by
  cases words with
  | nil => exact .inl ⟨_, rfl, .noCommand⟩
  | cons name args =>
    rw [ofWords]
    split
    · next hname =>
      subst hname
      rcases Get.ofArguments_cases args with ⟨heq, hcount⟩ | ⟨get, heq, hn⟩
      · rw [heq]
        exact .inl ⟨_, rfl, .getCount hcount⟩
      · rw [heq]
        exact .inr (.inl ⟨get, rfl, hn⟩)
    · next hget =>
      split
      · next hname =>
        subst hname
        rcases closeArgument_cases args with ⟨heq, hcount⟩ | ⟨u, rfl, heq⟩
        · rw [heq]
          exact .inl ⟨_, rfl, .closeCount hcount⟩
        · exact .inr (.inr ⟨u, rfl, rfl⟩)
      · next hclose => exact .inl ⟨_, rfl, .unknown hget hclose⟩

/-- Words that are no command are refused. -/
theorem refusal_of_ofWords (h : ofWords words = .error f) : Refusal words (.ofFault f) := by
  rcases ofWords_cases words with ⟨f', hf, hr⟩ | ⟨get, hok, -⟩ | ⟨url, hok, -⟩
  · rw [h] at hf
    cases hf
    exact hr
  · rw [h] at hok
    cases hok
  · rw [h] at hok
    cases hok

/-- The words of a request to read attributes. -/
theorem asksFor_of_get (h : ofWords words = .ok (.get get)) :
    AsksFor get.queries.length words := by
  rcases ofWords_cases words with ⟨f', hf, -⟩ | ⟨get', hok, hn⟩ | ⟨url, hok, -⟩
  · rw [h] at hf
    cases hf
  · rw [h] at hok
    cases hok
    exact hn
  · rw [h] at hok
    cases hok

/-- The words of a request to drop a connection. -/
theorem words_of_close (h : ofWords words = .ok (.close url)) : words = ["CLOSE", url] := by
  rcases ofWords_cases words with ⟨f', hf, -⟩ | ⟨get', hok, -⟩ | ⟨url', hok, hwords⟩
  · rw [h] at hf
    cases hf
  · rw [h] at hok
    cases hok
  · rw [h] at hok
    cases hok
    exact hwords

/-- Words that are refused are no command. -/
theorem ofWords_of_refusal (h : Refusal words r) :
    ∃ f, ofWords words = .error f ∧ r = .ofFault f := by
  cases h with
  | noCommand => exact ⟨_, rfl, rfl⟩
  | unknown hg hc => exact ⟨_, by rw [ofWords, if_neg hg, if_neg hc], rfl⟩
  | @getCount args hcount =>
    rcases Get.ofArguments_cases args with ⟨heq, -⟩ | ⟨get, -, hpos, u, t, items, hargs, hlen⟩
    · exact ⟨_, by rw [ofWords, if_pos rfl, heq]; rfl, rfl⟩
    · cases hargs
      simp only [List.length_cons] at hcount
      omega
  | @closeCount args hcount =>
    rcases closeArgument_cases args with ⟨heq, -⟩ | ⟨u, rfl, -⟩
    · exact ⟨_, by rw [ofWords, if_neg (by decide), if_pos rfl, heq]; rfl, rfl⟩
    · exact absurd rfl hcount

/-- How many values a client expects in the answer to a line with these words, if all goes well. -/
def expected : List String → Nat
  | name :: _ :: _ :: items => if name = "GET" then items.length / 2 else 0
  | _ => 0

end Command

/-- Every answer that a client may expect has as many values as the client expects, or none. -/
theorem Documented.carries (h : Documented words r) : r.Carries (Command.expected words) := by
  intro values hr
  rcases h with h | h
  · cases h <;> cases hr
  · cases h with
    | closed hwords =>
      subst hwords
      cases hr
      rfl
    | values hasks =>
      obtain ⟨-, url, template, items, rfl, hlen⟩ := hasks
      cases hr
      rw [Command.expected, if_pos rfl, hlen, Nat.mul_div_cancel_left _ (by decide)]
    | failed => cases hr

end AttributeGateway

import AttributeGateway.Proofs.Path.Roundtrip
import Mathlib.Tactic.NthRewrite

/-!
# The grammar of paths

A path is a string of tokens, each of which stands for one segment. The grammar says which texts are
tokens without saying how they are found:

* at an opening bracket stands a selector. Its body extends to a closing bracket; within it every
  backslash stands before a character that it makes literal, so that no closing bracket in it is
  unprotected. A point directly behind it belongs to it. If the text has no such beginning, all of
  it is the key.
* at any other character stands a field. Its body extends to a point, which belongs to it, to an
  opening bracket, which does not, or to the end, where a lone backslash is left out. Its name is
  not empty.

The reader takes the same tokens: from any text that begins with a token it takes that token
(`scan_of_token`), and whatever it takes is a token (`token_of_bracket`, `token_of_other`).

* `Spells` — a body and the text that it stands for.
* `Token`, `Derives` — the tokens, and the texts that consist of them.
* `scan_eq_some_iff` — the reader gives the segments that a text derives.
* `parse_iff_derives` — a text is read as a path if it derives segments that begin with a field.
-/

namespace AttributeGateway

namespace Path

/-! ### Tokens -/

/-- A body and what it stands for: a backslash makes the character behind it literal, and no other
character ends a body. -/
inductive Spells (ends : Char → Bool) : List Char → List Char → Prop where
  /-- The empty body. -/
  | nil : Spells ends [] []
  /-- A character that stands for itself. -/
  | plain {c : Char} {body spelled : List Char} (hb : c ≠ '\\') (he : ends c = false)
      (h : Spells ends body spelled) : Spells ends (c :: body) (c :: spelled)
  /-- A backslash and the character that it makes literal. -/
  | literal {c : Char} {body spelled : List Char} (h : Spells ends body spelled) :
    Spells ends ('\\' :: c :: body) (c :: spelled)

/-- The character that ends a key. -/
def endsKey (c : Char) : Bool := c == ']'

/-- The characters that end a name. -/
def endsName (c : Char) : Bool := c == '.' || c == '['

/-- What follows the closing bracket of a selector, and what follows the selector. -/
inductive SelectorEnd : List Char → List Char → Prop where
  /-- A point belongs to the selector. -/
  | point (rest : List Char) : SelectorEnd ('.' :: rest) rest
  /-- Anything else does not. -/
  | other {rest : List Char} (h : ∀ rest', rest ≠ '.' :: rest') : SelectorEnd rest rest

/-- What follows the body of a field, and what follows the field. -/
inductive FieldEnd : List Char → List Char → Prop where
  /-- A point belongs to the field. -/
  | point (rest : List Char) : FieldEnd ('.' :: rest) rest
  /-- An opening bracket does not. -/
  | bracket (rest : List Char) : FieldEnd ('[' :: rest) ('[' :: rest)
  /-- The text ends. -/
  | finish : FieldEnd [] []
  /-- A lone backslash at the end stands for nothing. -/
  | backslash : FieldEnd ['\\'] []

/-- A text that begins with the token of a segment, and what follows the token. -/
inductive Token : List Char → Segment → List Char → Prop where
  /-- A selector that is closed. -/
  | selector {body key tail rest : List Char} (h : Spells endsKey body key)
      (he : SelectorEnd tail rest) :
    Token ('[' :: (body ++ ']' :: tail)) (.selector (String.ofList key)) rest
  /-- A selector that is not closed takes all of the text. -/
  | unclosed {text : List Char}
      (h : ∀ body key tail, Spells endsKey body key → text ≠ body ++ ']' :: tail) :
    Token ('[' :: text) (.selector (String.ofList text)) []
  /-- A field. -/
  | field {body name tail rest : List Char} (h : Spells endsName body name) (hn : name ≠ [])
      (he : FieldEnd tail rest) : Token (body ++ tail) (.field (String.ofList name)) rest

/-- A text that consists of the tokens of segments. -/
inductive Derives : List Char → List Segment → Prop where
  /-- The empty text. -/
  | nil : Derives [] []
  /-- A token and the tokens behind it. -/
  | cons {text rest : List Char} {s : Segment} {segments : List Segment} (ht : Token text s rest)
      (h : Derives rest segments) : Derives text (s :: segments)

/-! ### The reader takes the tokens -/

variable {body key name tail rest text read : List Char}

theorem Spells.scanKey_eq (h : Spells endsKey body key) (read rest : List Char) :
    scanKey read (body ++ rest) = scanKey (key.reverse ++ read) rest := by
  induction h generalizing read with
  | nil => rfl
  | @plain c body key hb he _ ih =>
    have hclose : c ≠ ']' := by simpa [endsKey] using he
    rw [List.cons_append, scanKey_plain read _ hclose hb, ih, List.reverse_cons, List.append_assoc,
      List.singleton_append]
  | literal _ ih =>
    rw [List.cons_append, List.cons_append, scanKey_protected, ih, List.reverse_cons,
      List.append_assoc, List.singleton_append]

theorem Spells.scanField_eq (h : Spells endsName body name) (read rest : List Char) :
    scanField read (body ++ rest) = scanField (name.reverse ++ read) rest := by
  induction h generalizing read with
  | nil => rfl
  | @plain c body name hb he _ ih =>
    obtain ⟨hpoint, hbracket⟩ : c ≠ '.' ∧ c ≠ '[' := by simpa [endsName] using he
    rw [List.cons_append, scanField_plain read _ hpoint hbracket hb, ih, List.reverse_cons,
      List.append_assoc, List.singleton_append]
  | literal _ ih =>
    rw [List.cons_append, List.cons_append, scanField_protected, ih, List.reverse_cons,
      List.append_assoc, List.singleton_append]

/-- A name ends where its body does. -/
theorem FieldEnd.scanField_eq (h : FieldEnd tail rest) (read : List Char) :
    scanField read tail = (read.reverse, rest) := by
  cases h with
  | point | bracket | finish | backslash => rfl

theorem SelectorEnd.takeSelector_eq (h : SelectorEnd tail rest)
    (hk : scanKey [] text = some (key, tail)) : takeSelector text = (key, rest) := by
  rw [takeSelector, hk]
  cases h with
  | point => rfl
  | other hother =>
    split
    · next key' rest' he =>
      cases he
      exact absurd rfl (hother _)
    · next he =>
      cases he
      rfl
    · next he => cases he

/-- A field does not begin like a selector. -/
theorem Spells.exists_head (h : Spells endsName body name) (hn : name ≠ []) :
    ∃ c cs, body = c :: cs ∧ c ≠ '[' := by
  cases h with
  | nil => exact absurd rfl hn
  | @plain c body name hb he h =>
    obtain ⟨-, hbracket⟩ : c ≠ '.' ∧ c ≠ '[' := by simpa [endsName] using he
    exact ⟨c, body, rfl, hbracket⟩
  | literal h => exact ⟨'\\', _, rfl, by decide⟩

/-! ### What the reader takes is a token -/

/-- A character at which no other case of a scanner applies stands for itself. -/
theorem ne_backslash {c : Char} (hpair : ∀ d cs, c = '\\' → text = d :: cs → False)
    (hlast : c = '\\' → text = [] → False) : c ≠ '\\' := by
  intro hc
  cases text with
  | nil => exact hlast hc rfl
  | cons d cs => exact hpair d cs hc rfl

/-- A key that is found has been spelled before its closing bracket. -/
theorem exists_spells_of_scanKey (h : scanKey read text = some (key, rest)) :
    ∃ body spelled, Spells endsKey body spelled ∧ text = body ++ ']' :: rest ∧
      key = read.reverse ++ spelled := by
  fun_induction scanKey read text with
  | case1 => cases h
  | case2 read rest =>
    cases h
    exact ⟨[], [], .nil, rfl, (List.append_nil _).symm⟩
  | case3 read c text ih =>
    obtain ⟨body, spelled, hs, rfl, rfl⟩ := ih h
    exact ⟨'\\' :: c :: body, c :: spelled, .literal hs, rfl, by simp⟩
  | case4 => cases h
  | case5 read c text hclose hpair hlast ih =>
    obtain ⟨body, spelled, hs, rfl, rfl⟩ := ih h
    have he : endsKey c = false := by simpa [endsKey] using hclose
    exact ⟨c :: body, c :: spelled, .plain (ne_backslash hpair hlast) he hs, rfl, by simp⟩

/-- A name is spelled by what stands before the end of its field. -/
theorem exists_spells_of_scanField (read text : List Char) :
    ∃ body spelled tail, Spells endsName body spelled ∧ text = body ++ tail ∧
      FieldEnd tail (scanField read text).2 ∧
      (scanField read text).1 = read.reverse ++ spelled := by
  fun_induction scanField read text with
  | case1 => exact ⟨[], [], [], .nil, rfl, .finish, (List.append_nil _).symm⟩
  | case2 read rest =>
    exact ⟨[], [], '.' :: rest, .nil, rfl, .point rest, (List.append_nil _).symm⟩
  | case3 read rest =>
    exact ⟨[], [], '[' :: rest, .nil, rfl, .bracket rest, (List.append_nil _).symm⟩
  | case4 read c text ih =>
    obtain ⟨body, spelled, tail, hs, rfl, he, hname⟩ := ih
    exact ⟨'\\' :: c :: body, c :: spelled, tail, .literal hs, rfl, he, by simp [hname]⟩
  | case5 => exact ⟨[], [], ['\\'], .nil, rfl, .backslash, (List.append_nil _).symm⟩
  | case6 read c text hpoint hbracket hpair hlast ih =>
    obtain ⟨body, spelled, tail, hs, rfl, he, hname⟩ := ih
    have hends : endsName c = false := by simpa [endsName] using ⟨hpoint, hbracket⟩
    exact ⟨c :: body, c :: spelled, tail, .plain (ne_backslash hpair hlast) hends hs, rfl, he,
      by simp [hname]⟩

/-- What is taken at an opening bracket is a selector. -/
theorem token_of_bracket (text : List Char) :
    Token ('[' :: text) (.selector (String.ofList (takeSelector text).1))
      (takeSelector text).2 := by
  cases hk : scanKey [] text with
  | none =>
    have htake : takeSelector text = (text, []) := by rw [takeSelector, hk]
    rw [htake]
    refine .unclosed fun body key tail hs he => ?_
    rw [he, hs.scanKey_eq, scanKey] at hk
    cases hk
  | some found =>
    obtain ⟨key, tail⟩ := found
    obtain ⟨body, spelled, hs, rfl, rfl⟩ := exists_spells_of_scanKey hk
    obtain ⟨rest, he⟩ : ∃ rest, SelectorEnd tail rest := by
      by_cases hp : ∃ rest, tail = '.' :: rest
      · obtain ⟨rest, rfl⟩ := hp
        exact ⟨rest, .point rest⟩
      · exact ⟨tail, .other fun rest' => fun he => hp ⟨rest', he⟩⟩
    rw [he.takeSelector_eq hk]
    exact .selector hs he

/-- What is taken at any other character is a field, unless it has no name. -/
theorem token_of_other (text : List Char) (hn : (scanField [] text).1 ≠ []) :
    Token text (.field (String.ofList (scanField [] text).1)) (scanField [] text).2 := by
  obtain ⟨body, name, tail, hs, htext, he, hname⟩ := exists_spells_of_scanField [] text
  rw [List.reverse_nil, List.nil_append] at hname
  rw [hname] at hn ⊢
  nth_rewrite 1 [htext]
  exact .field hs hn he

/-- **The reader takes the token that a text begins with.** -/
theorem scan_of_token {s : Segment} (h : Token text s rest) (read : List Segment) :
    scan read text = scan (s :: read) rest := by
  cases h with
  | @selector body key tail rest hs he =>
    have hk : scanKey [] (body ++ ']' :: tail) = some (key, tail) := by
      rw [hs.scanKey_eq, scanKey, List.append_nil, List.reverse_reverse]
    rw [scan_bracket, he.takeSelector_eq hk]
  | @unclosed text h =>
    have hk : scanKey [] text = none := by
      rw [Option.eq_none_iff_forall_ne_some]
      rintro ⟨key, tail⟩ hfound
      obtain ⟨body, spelled, hs, he, -⟩ := exists_spells_of_scanKey hfound
      exact h body spelled tail hs he
    have htake : takeSelector text = (text, []) := by rw [takeSelector, hk]
    rw [scan_bracket, htake]
  | @field body name tail rest hs hn he =>
    obtain ⟨c, cs, rfl, hc⟩ := hs.exists_head hn
    have hfield : scanField [] (c :: (cs ++ tail)) = (name, rest) := by
      have hspelled := hs.scanField_eq [] tail
      rw [List.cons_append] at hspelled
      rw [hspelled, he.scanField_eq, List.append_nil, List.reverse_reverse]
    rw [List.cons_append, scan_other read _ hc, hfield, if_neg hn]

/-! ### Paths -/

/-- **The reader gives the segments that a text derives.** -/
theorem scan_eq_some_iff {read segments : List Segment} :
    scan read text = some segments ↔
      ∃ rest, Derives text rest ∧ segments = read.reverse ++ rest := by
  constructor
  · intro h
    fun_induction scan read text with
    | case1 read =>
      cases h
      exact ⟨[], .nil, (List.append_nil _).symm⟩
    | case2 read text _ ih =>
      obtain ⟨rest, hrest, rfl⟩ := ih h
      exact ⟨_, .cons (token_of_bracket text) hrest, by simp⟩
    | case3 => cases h
    | case4 read c text hc hn _ ih =>
      obtain ⟨rest, hrest, rfl⟩ := ih h
      exact ⟨_, .cons (token_of_other (c :: text) hn) hrest, by simp⟩
  · rintro ⟨rest, h, rfl⟩
    induction h generalizing read with
    | nil => rw [scan, List.append_nil]
    | @cons text rest s segments ht h ih =>
      rw [scan_of_token ht, ih, List.reverse_cons, List.append_assoc, List.singleton_append]

/-- A text is divided into tokens in one way only. -/
theorem Derives.unique {first second : List Segment} (h : Derives text first)
    (h' : Derives text second) : first = second := by
  have hfirst : scan [] text = some first := scan_eq_some_iff.2 ⟨first, h, rfl⟩
  have hsecond : scan [] text = some second := scan_eq_some_iff.2 ⟨second, h', rfl⟩
  exact Option.some.inj (hfirst.symm.trans hsecond)

/-- Segments that begin with a field. -/
def BeginsWithField (segments : List Segment) : Prop := ∃ name rest, segments = .field name :: rest

/-- What a text derives, if it begins with a field, is a path. -/
theorem exists_parse_iff {text : String} {segments : List Segment} :
    (∃ p, parse text = .ok p ∧ p.segments = segments) ↔
      Derives text.toList segments ∧ BeginsWithField segments := by
  constructor
  · rintro ⟨p, hp, rfl⟩
    obtain ⟨rest, h, hrest⟩ := scan_eq_some_iff.1 (parse_eq_ok_iff.1 hp)
    rw [hrest]
    exact ⟨h, p.attributeName, p.rest, hrest.symm⟩
  · rintro ⟨h, hbegins⟩
    have hscan : scan [] text.toList = some segments := scan_eq_some_iff.2 ⟨segments, h, rfl⟩
    obtain ⟨p, rfl⟩ := exists_segments ⟨hbegins, named_of_scan (by simp) hscan⟩
    exact ⟨p, parse_eq_ok_iff.2 hscan, rfl⟩

theorem fault_of_parse {text : String} {f : Fault} (h : parse text = .error f) :
    f = .invalidPath text := by
  rw [parse] at h
  split at h
  · split at h
    · cases h
    · cases h
      rfl
  · cases h
    rfl

/-- **A text is read as a path exactly if it derives segments that begin with a field**, and these
are the segments of the path. In every other case, and only then, the text is refused as an invalid
path, and there is no other refusal. -/
theorem parse_iff_derives (text : String) :
    (∀ segments, (∃ p, parse text = .ok p ∧ p.segments = segments) ↔
      Derives text.toList segments ∧ BeginsWithField segments) ∧
    (parse text = .error (.invalidPath text) ↔
      ¬ ∃ segments, Derives text.toList segments ∧ BeginsWithField segments) ∧
    ∀ f, parse text = .error f → f = .invalidPath text := by
  refine ⟨fun segments => exists_parse_iff, ⟨?_, fun h => ?_⟩, fun f => fault_of_parse⟩
  · rintro herror ⟨segments, h⟩
    obtain ⟨p, hp, -⟩ := exists_parse_iff.2 h
    rw [hp] at herror
    cases herror
  · cases hp : parse text with
    | error f => rw [fault_of_parse hp]
    | ok p => exact absurd ⟨p.segments, exists_parse_iff.1 ⟨p, hp, rfl⟩⟩ h

/-- A text with literal points and brackets whose last selector is not closed, one with a field that
has no name, and one that begins with a selector. -/
theorem parse_iff_derives_corners :
    (Derives "a\\.b[c\\]].d[e\\]f\\".toList
        [.field "a.b", .selector "c]", .field "d", .selector "e\\]f\\"]) ∧
      (parse "a[0]..b" = .error (.invalidPath "a[0]..b") ∧
        ¬ ∃ segments, Derives "a[0]..b".toList segments ∧ BeginsWithField segments) ∧
      ¬ ∃ segments, Derives "[0].a".toList segments ∧ BeginsWithField segments := by
  let p : Path := ⟨"a.b", [.selector "c]", .field "d", .selector "e\\]f\\"], by decide⟩
  have hread : parse "a\\.b[c\\]].d[e\\]f\\" = .ok p := by decide +kernel
  have hpoints : parse "a[0]..b" = .error (.invalidPath "a[0]..b") := by decide +kernel
  have hbracket : parse "[0].a" = .error (.invalidPath "[0].a") := by decide +kernel
  exact ⟨(((parse_iff_derives _).1 p.segments).1 ⟨p, hread, rfl⟩).1,
    ⟨hpoints, (parse_iff_derives _).2.1.1 hpoints⟩, (parse_iff_derives _).2.1.1 hbracket⟩

end Path

end AttributeGateway

import AttributeGateway.Path.Parser
import Mathlib.Data.Char

/-!
# Writing a path and reading it back

Reading undoes writing one segment at a time: a backslash protects each character at which a field
or a key would end, and the point in front of a field is used up by the segment before it. So the
reader stands at the beginning of a segment again whenever it has read one. What it reads is never
a field without a name, so lists with such a field, or without a field in front, are not read back.

* `scanField_escape`, `scanKey_escape` — the written name or key is read as it was.
* `scan_display_cons` — a written segment is read, whatever segment comes next.
* `named_of_scan` — no field that is read is without a name.
* `parse_display_iff` — the lists of segments that are read back as they were written.
-/

namespace AttributeGateway

namespace Segment

/-- Segments that lead from a bean to a value: they begin with a field, the attribute, and every
field has a name. -/
structure Addressing (segments : List Segment) : Prop where
  /-- The first segment is a field. -/
  begins : ∃ name rest, segments = .field name :: rest
  /-- No field has an empty name. -/
  named : ∀ name, .field name ∈ segments → name ≠ ""

variable {special : Char → Bool}

/-! ### Written forms -/

theorem escape_cons (c : Char) (cs : List Char) :
    escape special (String.ofList (c :: cs)) =
      (if c = '\\' ∨ special c then ['\\', c] else [c]) ++ escape special (String.ofList cs) := by
  simp [escape]

/-- The written form of a name does not begin like a selector. -/
theorem head_chars_field {name : String} (hn : name ≠ "") :
    ∃ c cs, (field name).chars = c :: cs ∧ c ≠ '[' := by
  obtain ⟨cs, rfl⟩ : ∃ cs, name = String.ofList cs := ⟨name.toList, by simp⟩
  cases cs with
  | nil => exact absurd rfl hn
  | cons c cs =>
    rw [chars, escape_cons]
    split
    · exact ⟨'\\', _, rfl, by decide⟩
    · next hc =>
      refine ⟨c, _, rfl, ?_⟩
      rintro rfl
      simp at hc

theorem display_cons (s : Segment) (rest : List Segment) :
    display (s :: rest) = s.chars ++ rest.flatMap following := rfl

end Segment

namespace Path

open Segment

/-! ### Reading names -/

theorem scanField_protected (read : List Char) (c : Char) (rest : List Char) :
    scanField read ('\\' :: c :: rest) = scanField (c :: read) rest := by
  rw [scanField]

theorem scanField_plain (read rest : List Char) {c : Char} (hp : c ≠ '.') (hb : c ≠ '[')
    (hs : c ≠ '\\') : scanField read (c :: rest) = scanField (c :: read) rest := by
  rw [scanField] <;> simp_all

/-- A written name is read as it was. -/
theorem scanField_escape (name read rest : List Char) :
    scanField read (chars (.field (String.ofList name)) ++ rest) =
      scanField (name.reverse ++ read) rest := by
  rw [chars]
  induction name generalizing read with
  | nil => rfl
  | cons c cs ih =>
    rw [escape_cons]
    split
    · simp only [List.cons_append, List.nil_append, scanField_protected, ih,
        List.reverse_cons, List.append_assoc]
    · next hc =>
      simp only [Bool.or_eq_true, beq_iff_eq, not_or] at hc
      obtain ⟨hs, hp, hb⟩ := hc
      rw [List.append_assoc, List.singleton_append, scanField_plain read _ hp hb hs, ih,
        List.reverse_cons, List.append_assoc, List.singleton_append]

/-- A name ends where the written form of another segment begins, and takes up its point. -/
theorem scanField_following (read : List Char) (rest : List Segment) :
    scanField read (rest.flatMap following) = (read.reverse, display rest) := by
  cases rest with
  | nil => rfl
  | cons s rest => cases s <;> rfl

/-! ### Reading keys -/

theorem scanKey_protected (read : List Char) (c : Char) (rest : List Char) :
    scanKey read ('\\' :: c :: rest) = scanKey (c :: read) rest := by
  rw [scanKey]

theorem scanKey_plain (read rest : List Char) {c : Char} (hb : c ≠ ']') (hs : c ≠ '\\') :
    scanKey read (c :: rest) = scanKey (c :: read) rest := by
  rw [scanKey] <;> simp_all

/-- A written key is read as it was, up to its closing bracket. -/
theorem scanKey_escape (key read rest : List Char) :
    scanKey read (escape (· == ']') (String.ofList key) ++ ']' :: rest) =
      some (read.reverse ++ key, rest) := by
  induction key generalizing read with
  | nil => simp [escape, scanKey]
  | cons c cs ih =>
    rw [escape_cons]
    split
    · simp only [List.cons_append, List.nil_append, scanKey_protected, ih, List.reverse_cons,
        List.append_assoc]
    · next hc =>
      simp only [beq_iff_eq, not_or] at hc
      rw [List.append_assoc, List.singleton_append, scanKey_plain read _ hc.2 hc.1, ih,
        List.reverse_cons, List.append_assoc, List.singleton_append]

/-- A selector ends behind its closing bracket, and takes up the point of a field behind it. -/
theorem takeSelector_following (key : List Char) (rest : List Segment) :
    takeSelector (escape (· == ']') (String.ofList key) ++ ']' :: rest.flatMap following) =
      (key, display rest) := by
  rw [takeSelector, scanKey_escape]
  cases rest with
  | nil => rfl
  | cons s rest => cases s <;> rfl

/-! ### Reading segments -/

/-- At an opening bracket stands a selector. -/
theorem scan_bracket (read : List Segment) (body : List Char) :
    scan read ('[' :: body) =
      scan (.selector (String.ofList (takeSelector body).1) :: read) (takeSelector body).2 := by
  rw [scan, dif_pos rfl]

/-- At any other character stands a field. -/
theorem scan_other (read : List Segment) {c : Char} (rest : List Char) (hc : c ≠ '[') :
    scan read (c :: rest) =
      if (scanField [] (c :: rest)).1 = [] then none
      else scan (.field (String.ofList (scanField [] (c :: rest)).1) :: read)
        (scanField [] (c :: rest)).2 := by
  rw [scan, dif_neg hc]

/-- **A written segment is read**, and the reader then stands where the next one begins. -/
theorem scan_display_cons (read : List Segment) (s : Segment) (rest : List Segment)
    (hs : s ≠ .field "") : scan read (display (s :: rest)) = scan (s :: read) (display rest) := by
  rw [display_cons]
  cases s with
  | field name =>
    have hn : name ≠ "" := fun h => hs (congrArg Segment.field h)
    -- The scanner finds the first character of the name, and then all of it.
    obtain ⟨c, cs, hc, hb⟩ := head_chars_field hn
    have hfield : scanField [] (c :: (cs ++ rest.flatMap following)) =
        (name.toList, display rest) := by
      have h := scanField_escape name.toList [] (rest.flatMap following)
      rw [String.ofList_toList, hc, scanField_following] at h
      simpa using h
    rw [hc, List.cons_append, scan_other read _ hb, hfield]
    simp [hn]
  | selector key =>
    have hkey : takeSelector (escape (· == ']') key ++ ']' :: rest.flatMap following) =
        (key.toList, display rest) := by
      have h := takeSelector_following key.toList rest
      rwa [String.ofList_toList] at h
    rw [chars, List.cons_append, List.append_assoc, List.singleton_append, scan_bracket, hkey]
    simp

/-- Written segments are read as they were, unless a field has no name. -/
theorem scan_display (read segments : List Segment)
    (hn : ∀ name, .field name ∈ segments → name ≠ "") :
    scan read (display segments) = some (read.reverse ++ segments) := by
  induction segments generalizing read with
  | nil => simp [display, scan]
  | cons s rest ih =>
    have hs : s ≠ .field "" := by
      rintro rfl
      exact hn "" List.mem_cons_self rfl
    rw [scan_display_cons read s rest hs,
      ih (s :: read) fun name h => hn name (List.mem_cons_of_mem _ h)]
    simp

/-- **No field that is read is without a name.** -/
theorem named_of_scan {read segments : List Segment} {text : List Char}
    (hr : ∀ name, .field name ∈ read → name ≠ "") (h : scan read text = some segments) :
    ∀ name, .field name ∈ segments → name ≠ "" := by
  fun_induction scan read text with
  | case1 read =>
    obtain rfl := Option.some.inj h
    simpa using hr
  | case2 read rest _ ih =>
    refine ih (fun name hm => ?_) h
    rcases List.mem_cons.1 hm with hm | hm
    · cases hm
    · exact hr name hm
  | case3 => cases h
  | case4 read c rest hc hne _ ih =>
    refine ih (fun name hm => ?_) h
    rcases List.mem_cons.1 hm with hm | hm
    · cases hm
      simpa using hne
    · exact hr name hm

/-! ### Reading paths -/

/-- A text is read as a path if its segments are those of the path. -/
theorem parse_eq_ok_iff {text : String} {p : Path} :
    parse text = .ok p ↔ scan [] text.toList = some p.segments := by
  rw [parse]
  constructor
  · intro h
    split at h
    · next name rest hs =>
      split at h
      · cases h
        exact hs
      · cases h
    · cases h
  · intro h
    obtain ⟨name, rest, hn⟩ := p
    rw [h]
    simp [segments, hn]

theorem addressing_of_parse {text : String} {p : Path} (h : parse text = .ok p) :
    Addressing p.segments :=
  ⟨⟨p.attributeName, p.rest, rfl⟩, named_of_scan (by simp) (parse_eq_ok_iff.1 h)⟩

theorem parse_display {p : Path} (h : Addressing p.segments) :
    parse (String.ofList (display p.segments)) = .ok p := by
  rw [parse_eq_ok_iff, String.toList_ofList, scan_display [] p.segments h.named]
  rfl

theorem exists_segments {segments : List Segment} (h : Addressing segments) :
    ∃ p : Path, p.segments = segments := by
  obtain ⟨name, rest, rfl⟩ := h.begins
  exact ⟨⟨name, rest, h.named name List.mem_cons_self⟩, rfl⟩

/-- **Reading undoes writing** for the lists of segments that begin with a field and none of whose
fields has an empty name, and for no others; and every text that is read at all gives such a list,
so that what has been read is read again from its written form. -/
theorem parse_display_iff (segments : List Segment) :
    ((∃ p, parse (String.ofList (display segments)) = .ok p ∧ p.segments = segments) ↔
      Addressing segments) ∧
    ∀ text p, parse text = .ok p → Addressing p.segments ∧ parse p.text = .ok p := by
  refine ⟨⟨?_, fun h => ?_⟩, fun text p h => ?_⟩
  · rintro ⟨p, hp, rfl⟩
    exact addressing_of_parse hp
  · obtain ⟨p, rfl⟩ := exists_segments h
    exact ⟨p, parse_display h, rfl⟩
  · have ha := addressing_of_parse h
    exact ⟨ha, parse_display ha⟩

/-- A path whose last selector has no end is read again from its written form, in which it has
one. -/
theorem parse_unterminated :
    ∃ p, parse "a\\.b[c\\]].d[e\\f" = .ok p ∧
      p.segments = [.field "a.b", .selector "c]", .field "d", .selector "e\\f"] ∧
      p.text = "a\\.b[c\\]].d[e\\\\f]" ∧ parse p.text = .ok p := by
  let p : Path := ⟨"a.b", [.selector "c]", .field "d", .selector "e\\f"], by decide⟩
  have h : parse "a\\.b[c\\]].d[e\\f" = .ok p := by decide +kernel
  exact ⟨p, h, rfl, by decide +kernel, ((parse_display_iff p.segments).2 _ p h).2⟩

end Path

end AttributeGateway

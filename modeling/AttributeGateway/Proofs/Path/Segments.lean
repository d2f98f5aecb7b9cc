import AttributeGateway.Proofs.Path.Grammar

/-!
# Paths that are built from segments

A path comes into being in two ways: a text is read, or a list of segments is taken as it is. Both
ask for a field with a name in front. The reader asks for more: no field behind it is without a name
either. A list with such a field is taken, but no text stands for it. Its written form is still a
text, in which the field has left nothing but its point. Where another field follows, the reader
finds two points in a row and refuses the text; at the end, or where a selector follows, it reads on
as if the field were not there.

* `BeginsWithName` — what is asked of a list of segments.
* `reread` — the segments that the reader finds in the written form of a list.
* `scan_display_eq`, `reread_eq_self_iff` — it finds these, and all of them if every field has a
  name.
* `taken_and_read` — which lists are taken, which are read from some text, and what becomes of the
  written form of those that are taken.
-/

namespace AttributeGateway

namespace Path

open Segment

/-- Segments with a field in front that has a name. -/
def BeginsWithName (segments : List Segment) : Prop :=
  ∃ name rest, segments = .field name :: rest ∧ name ≠ ""

/-- Whether the first of these segments is a field. -/
def fieldNext : List Segment → Bool
  | .field _ :: _ => true
  | _ => false

/-- The segments that the reader finds in the written form of these: all but the fields without a
name, and nothing if one of those stands in front of another field. -/
def reread : List Segment → Option (List Segment)
  | [] => some []
  | s :: rest =>
    if s ≠ .field "" then (reread rest).map (s :: ·)
    else if fieldNext rest then none
    else reread rest

/-! ### Taking segments as they are -/

/-- A list is taken as the path whose segments they are, and as no other. -/
theorem ofSegments_eq_ok_iff {segments : List Segment} {p : Path} :
    ofSegments segments = .ok p ↔ p.segments = segments := by
  constructor
  · intro h
    unfold ofSegments at h
    split at h
    · split at h
      · cases h
        rfl
      · cases h
    · cases h
  · rintro rfl
    simp [ofSegments, Path.segments, p.attributeName_ne]

theorem begins_segments (p : Path) : BeginsWithName p.segments :=
  ⟨p.attributeName, p.rest, rfl, p.attributeName_ne⟩

theorem exists_path {segments : List Segment} (h : BeginsWithName segments) :
    ∃ p : Path, p.segments = segments := by
  obtain ⟨name, rest, rfl, hn⟩ := h
  exact ⟨⟨name, rest, hn⟩, rfl⟩

/-- Any other list is refused, and the refusal shows it. -/
theorem ofSegments_refused {segments : List Segment} (h : ¬ BeginsWithName segments) :
    ofSegments segments =
      .error (.invalidPath (String.intercalate "," (segments.map Segment.listed))) := by
  unfold ofSegments
  split
  · next name rest =>
    rw [dif_neg]
    exact fun hn => h ⟨name, rest, rfl, hn⟩
  · rfl

/-- What is asked of segments that are to be read is asked of their first field here, and of the
others beyond that. -/
theorem addressing_iff {segments : List Segment} :
    Addressing segments ↔
      BeginsWithName segments ∧ ∀ name, .field name ∈ segments.tail → name ≠ "" := by
  constructor
  · rintro ⟨⟨first, rest, rfl⟩, hnamed⟩
    exact ⟨⟨first, rest, rfl, hnamed first List.mem_cons_self⟩,
      fun name h => hnamed name (List.mem_cons_of_mem _ h)⟩
  · rintro ⟨⟨first, rest, rfl, hfirst⟩, hrest⟩
    refine ⟨⟨first, rest, rfl⟩, fun name h => ?_⟩
    rcases List.mem_cons.1 h with h | h
    · cases h
      exact hfirst
    · exact hrest name h

/-! ### Reading what was written -/

/-- At the point of a field that was to come behind another point there is no name. -/
theorem scan_point (read : List Segment) (rest : List Char) : scan read ('.' :: rest) = none := by
  rw [scan_other read rest (by decide), scanField]
  rfl

/-- Behind a field without a name the reader stands at the point of the field that follows, or where
it would stand without it. -/
theorem scan_display_unnamed (read rest : List Segment) :
    scan read (display (.field "" :: rest)) =
      if fieldNext rest then none else scan read (display rest) := by
  rcases rest with - | ⟨name | key, rest⟩
  · rfl
  · exact scan_point read _
  · rfl

/-- **The reader finds in a written list** the segments with a name, in order. -/
theorem scan_display_eq (read segments : List Segment) :
    scan read (display segments) = (reread segments).map (read.reverse ++ ·) := by
  induction segments generalizing read with
  | nil => simp [display, reread, scan]
  | cons s rest ih =>
    rw [reread]
    split
    · next hs =>
      rw [scan_display_cons read s rest hs, ih, Option.map_map]
      congr 1
      funext found
      simp
    · next hs =>
      obtain rfl := not_not.1 hs
      rw [scan_display_unnamed]
      split
      · rfl
      · exact ih read

theorem length_of_reread {segments found : List Segment} (h : reread segments = some found) :
    found.length ≤ segments.length := by
  induction segments generalizing found with
  | nil => cases h; rfl
  | cons s rest ih =>
    rw [reread] at h
    split at h
    · obtain ⟨more, hmore, rfl⟩ := Option.map_eq_some_iff.1 h
      exact Nat.succ_le_succ (ih hmore)
    · split at h
      · cases h
      · exact Nat.le_succ_of_le (ih h)

/-- All of them are found again if every field has a name, and only then: each field that has none
is missing. -/
theorem reread_eq_self_iff {segments : List Segment} :
    reread segments = some segments ↔ ∀ name, .field name ∈ segments → name ≠ "" := by
  induction segments with
  | nil => simp [reread]
  | cons s rest ih =>
    by_cases hs : s = .field ""
    · subst hs
      refine ⟨fun h => ?_, fun h => absurd rfl (h "" List.mem_cons_self)⟩
      -- What is found is no longer than the rest, which is shorter than the whole.
      rw [reread, if_neg (not_not.2 rfl)] at h
      split at h
      · cases h
      · exact absurd (length_of_reread h) (Nat.not_succ_le_self _)
    · have hcons : reread (s :: rest) = some (s :: rest) ↔ reread rest = some rest := by
        rw [reread, if_pos hs]
        simp
      rw [hcons, ih]
      refine ⟨fun h name hm => ?_, fun h name hm => h name (List.mem_cons_of_mem _ hm)⟩
      rcases List.mem_cons.1 hm with rfl | hm
      · rintro rfl
        exact hs rfl
      · exact h name hm

/-- The field in front is found if anything is. -/
theorem begins_of_reread {segments found : List Segment} (hl : BeginsWithName segments)
    (h : reread segments = some found) : BeginsWithName found := by
  obtain ⟨name, rest, rfl, hn⟩ := hl
  have hs : (.field name : Segment) ≠ .field "" := fun h => hn (Segment.field.inj h)
  rw [reread, if_pos hs] at h
  obtain ⟨more, -, rfl⟩ := Option.map_eq_some_iff.1 h
  exact ⟨name, more, rfl, hn⟩

/-- What is read from the written form of a path. -/
theorem parse_text_eq_ok_iff {p q : Path} :
    parse p.text = .ok q ↔ reread p.segments = some q.segments := by
  rw [parse_eq_ok_iff, text, String.toList_ofList, scan_display_eq]
  simp

/-- The written form is refused if the reader finds nothing in it. -/
theorem parse_text_eq_error_iff {p : Path} :
    parse p.text = .error (.invalidPath p.text) ↔ reread p.segments = none := by
  cases hfound : reread p.segments with
  | none =>
    refine iff_of_true ?_ rfl
    cases hp : parse p.text with
    | error f => rw [fault_of_parse hp]
    | ok q =>
      rw [parse_text_eq_ok_iff, hfound] at hp
      cases hp
  | some found =>
    obtain ⟨q, rfl⟩ := exists_path (begins_of_reread (begins_segments p) hfound)
    rw [parse_text_eq_ok_iff.2 hfound]
    exact iff_of_false (fun h => nomatch h) (fun h => nomatch h)

/-- A path is read from its written form if none of its fields is without a name. -/
theorem parse_text_self_iff {p : Path} :
    parse p.text = .ok p ↔ ∀ name, .field name ∈ p.rest → name ≠ "" := by
  rw [parse_text_eq_ok_iff, reread_eq_self_iff]
  refine ⟨fun h name hm => h name (List.mem_cons_of_mem _ hm), fun h name hm => ?_⟩
  rcases List.mem_cons.1 hm with hm | hm
  · cases hm
    exact p.attributeName_ne
  · exact h name hm

/-! ### The two ways to a path -/

/-- **A list of segments is taken** if there is a field with a name in front, and is refused with
the list in its message otherwise. **It is read from some text** if in addition every field behind
the first has a name. The written form of a list that is taken is read as what `reread` says, which
is the list itself if every field has a name and never else; where `reread` has nothing, the text is
refused. -/
theorem taken_and_read (segments : List Segment) :
    ((∃ p, ofSegments segments = .ok p ∧ p.segments = segments) ↔ BeginsWithName segments) ∧
    (¬ BeginsWithName segments → ofSegments segments =
      .error (.invalidPath (String.intercalate "," (segments.map Segment.listed)))) ∧
    ((∃ text p, parse text = .ok p ∧ p.segments = segments) ↔
      BeginsWithName segments ∧ ∀ name, .field name ∈ segments.tail → name ≠ "") ∧
    ∀ p, ofSegments segments = .ok p →
      (parse p.text = .ok p ↔ ∀ name, .field name ∈ segments.tail → name ≠ "") ∧
      (∀ q, parse p.text = .ok q ↔ reread segments = some q.segments) ∧
      (parse p.text = .error (.invalidPath p.text) ↔ reread segments = none) := by
  refine ⟨⟨?_, fun h => ?_⟩, ofSegments_refused, ⟨?_, fun h => ?_⟩, fun p hp => ?_⟩
  · rintro ⟨p, -, rfl⟩
    exact begins_segments p
  · obtain ⟨p, hp⟩ := exists_path h
    exact ⟨p, ofSegments_eq_ok_iff.2 hp, hp⟩
  · rintro ⟨text, p, hp, rfl⟩
    exact addressing_iff.1 (addressing_of_parse hp)
  · obtain ⟨p, rfl⟩ := exists_segments (addressing_iff.2 h)
    exact ⟨_, p, parse_display (addressing_iff.2 h), rfl⟩
  · obtain rfl := ofSegments_eq_ok_iff.1 hp
    exact ⟨parse_text_self_iff, fun q => parse_text_eq_ok_iff, parse_text_eq_error_iff⟩

/-- A list with a key and an unnamed field behind it, which is lost when its written form is read,
and one whose written form is refused. -/
theorem taken_and_read_unnamed :
    (∃ p q, ofSegments [.field "a", .selector "k", .field ""] = .ok p ∧ p.text = "a[k]." ∧
      parse p.text = .ok q ∧ q.segments = [.field "a", .selector "k"]) ∧
    ∃ p, ofSegments [.field "a", .field "", .field "b"] = .ok p ∧ p.text = "a..b" ∧
      parse p.text = .error (.invalidPath p.text) := by
  let lost : Path := ⟨"a", [.selector "k", .field ""], by decide⟩
  let found : Path := ⟨"a", [.selector "k"], by decide⟩
  let refused : Path := ⟨"a", [.field "", .field "b"], by decide⟩
  have hlost : ofSegments [.field "a", .selector "k", .field ""] = .ok lost := by rfl
  have hrefused : ofSegments [.field "a", .field "", .field "b"] = .ok refused := by rfl
  refine ⟨⟨lost, found, hlost, by decide +kernel, ?_, rfl⟩, refused, hrefused,
    by decide +kernel, ?_⟩
  · exact (((taken_and_read _).2.2.2 lost hlost).2.1 found).2 (by rfl)
  · exact ((taken_and_read _).2.2.2 refused hrefused).2.2.2 (by rfl)

/-- A list that is taken although no text is read as it, and whose written form is read as another
one: the two ways to a path do not ask for the same. -/
theorem taken_but_not_read :
    ¬ (∀ segments : List Segment, (∃ p, ofSegments segments = .ok p) ↔
      ∃ text p, parse text = .ok p ∧ p.segments = segments) ∧
    ∃ p, ofSegments [.field "a", .field ""] = .ok p ∧ p.text = "a." ∧ parse p.text ≠ .ok p ∧
      ¬ ∃ text q, parse text = .ok q ∧ q.segments = [.field "a", .field ""] := by
  let p : Path := ⟨"a", [.field ""], by decide⟩
  have htaken : ofSegments [.field "a", .field ""] = .ok p := by rfl
  have hunread : ¬ ∃ text q, parse text = .ok q ∧ q.segments = [.field "a", .field ""] := by
    rintro ⟨text, q, hq, hs⟩
    have hnamed := (addressing_of_parse hq).named ""
    rw [hs] at hnamed
    exact hnamed (by simp) rfl
  refine ⟨fun h => hunread ((h _).1 ⟨p, htaken⟩), p, htaken, by decide +kernel, fun h => ?_,
    hunread⟩
  exact parse_text_self_iff.1 h "" (by simp [p]) rfl

end Path

end AttributeGateway

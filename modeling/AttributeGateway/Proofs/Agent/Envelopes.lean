import AttributeGateway.Agent.Envelope

/-!
# What is an envelope

A body that is an object is an envelope if its members of the four names are there at most once and
are what they have to be; a body that is an array is one if it has at most four items, which are.
The status must be there and fit into 16 bits. A value that is missing is null, and a text that is
missing or null is no text.

* `StatusOf`, `TextOf`, `Fits` — what the four parts have to be.
* `Sole` — a member that is there at most once.
* `Decodes` — the envelope of the content of a body; `ofBody?_eq_some_iff` says that bodies are read
  so.
-/

namespace AttributeGateway

namespace Agent

namespace Envelope

variable {members : List (String × Json)} {name : String} {part : Option Json} {j : Json} {n : Nat}
  {text : Option String} {status value error errorType : Option Json} {e : Envelope}

/-- A status is a whole number of 16 bits. -/
inductive StatusOf : Json → Nat → Prop where
  | integer {n : Nat} (h : n < 0x10000) (hi) : StatusOf (.number (.integer n hi)) n

/-- A text may be null. -/
inductive TextOf : Json → Option String → Prop where
  | null : TextOf .null none
  | string (s : String) : TextOf (.string s) (some s)

/-- The four parts of an envelope, each of which may be missing except the status. -/
structure Fits (status value error errorType : Option Json) (e : Envelope) : Prop where
  status : ∃ j, status = some j ∧ StatusOf j e.status
  value : e.value = value.getD .null
  error : TextOf (error.getD .null) e.error
  errorType : TextOf (errorType.getD .null) e.errorType

/-- The member of a name, if no other has the name. -/
inductive Sole (members : List (String × Json)) (name : String) : Option Json → Prop where
  /-- There is none. -/
  | missing (h : ∀ m ∈ members, m.1 ≠ name) : Sole members name none
  /-- There is one, and none before or behind it. -/
  | there {front back : List (String × Json)} {j : Json} (h : members = front ++ (name, j) :: back)
    (hfront : ∀ m ∈ front, m.1 ≠ name) (hback : ∀ m ∈ back, m.1 ≠ name) :
    Sole members name (some j)

/-- The envelope of the content of a body. -/
inductive Decodes : Content → Envelope → Prop where
  /-- An object: each of the four members is there at most once. -/
  | members {members : List (String × Json)} {status value error errorType : Option Json}
    {e : Envelope} (hs : Sole members "status" status) (hv : Sole members "value" value)
    (he : Sole members "error" error) (ht : Sole members "error_type" errorType)
    (h : Fits status value error errorType e) : Decodes (.members members) e
  /-- An array: there are at most the four items. -/
  | items {items : List Json} {e : Envelope} (hl : items.length ≤ 4)
    (h : Fits items[0]? items[1]? items[2]? items[3]? e) : Decodes (.items items) e

theorem status?_eq_some_iff : status? j = some n ↔ StatusOf j n := by
  constructor
  · intro h
    unfold status? at h
    split at h
    · next i hi =>
      split at h
      · next hrange =>
        cases h
        obtain ⟨k, rfl⟩ := Int.eq_ofNat_of_zero_le hrange.1
        exact .integer (by omega) hi
      · cases h
    · cases h
  · rintro ⟨h, hi⟩
    rw [status?, if_pos (by omega), Int.toNat_natCast]

theorem text?_eq_some_iff : text? j = some text ↔ TextOf j text := by
  constructor
  · intro h
    unfold text? at h
    split at h
    · cases h
      exact .null
    · next s =>
      cases h
      exact .string s
    · cases h
  · rintro (_ | s) <;> rfl

theorem filter_eq_nil_iff :
    members.filter (fun m => m.1 = name) = [] ↔ ∀ m ∈ members, m.1 ≠ name := by
  simp [List.filter_eq_nil_iff]

/-- A member is found if it is the only one of its name. -/
theorem member?_eq_some_iff : member? members name = some part ↔ Sole members name part := by
  constructor
  · intro h
    unfold member? at h
    split at h
    · next hnil =>
      cases h
      exact .missing (filter_eq_nil_iff.1 hnil)
    · next m hone =>
      cases h
      obtain ⟨front, back, hmembers, hfront, hm, hback⟩ := List.filter_eq_cons_iff.1 hone
      obtain ⟨key, j⟩ := m
      obtain rfl : key = name := by simpa using hm
      exact .there hmembers (by simpa using hfront) (filter_eq_nil_iff.1 hback)
    · cases h
  · intro h
    cases h with
    | missing h => rw [member?, filter_eq_nil_iff.2 h]
    | there h hfront hback =>
      rw [member?, h, List.filter_append, filter_eq_nil_iff.2 hfront, List.nil_append,
        List.filter_cons_of_pos (by simp), filter_eq_nil_iff.2 hback]

theorem ofParts?_eq_some_iff :
    ofParts? status value error errorType = some e ↔ Fits status value error errorType e := by
  simp only [ofParts?, Option.bind_eq_bind, Option.bind_eq_some_iff, Option.pure_def,
    Option.some.injEq, status?_eq_some_iff, text?_eq_some_iff]
  constructor
  · rintro ⟨j, hj, n, hn, text, herror, kind, htype, rfl⟩
    exact ⟨⟨j, hj, hn⟩, rfl, herror, htype⟩
  · rintro ⟨⟨j, hj, hn⟩, hvalue, herror, htype⟩
    exact ⟨j, hj, _, hn, _, herror, _, htype, by rw [← hvalue]⟩

/-- Content is read as the envelope that it decodes to. -/
theorem ofContent?_eq_some_iff {content : Content} :
    ofContent? content = some e ↔ Decodes content e := by
  cases content with
  | members members =>
    simp only [ofContent?, ofMembers?, Option.bind_eq_bind, Option.bind_eq_some_iff,
      member?_eq_some_iff, ofParts?_eq_some_iff]
    constructor
    · rintro ⟨status, hs, value, hv, error, he, kind, ht, h⟩
      exact .members hs hv he ht h
    · intro h
      cases h with
      | members hs hv he ht h => exact ⟨_, hs, _, hv, _, he, _, ht, h⟩
  | items items =>
    rw [ofContent?, ofItems?]
    constructor
    · intro h
      split at h
      · next hl => exact .items hl (ofParts?_eq_some_iff.1 h)
      · cases h
    · intro h
      cases h with
      | items hl h =>
        rw [if_pos hl]
        exact ofParts?_eq_some_iff.2 h

/-- **A body is read as the envelope that its content decodes to.** -/
theorem ofBody?_eq_some_iff {body : List UInt8} :
    ofBody? body = some e ↔ ∃ content, content? (Body.pieces body) = some content ∧
      Decodes content e := by
  rw [ofBody?, Option.bind_eq_some_iff]
  exact exists_congr fun content => and_congr_right fun _ => ofContent?_eq_some_iff

/-- A body whose value is read as an infinity is no envelope, unless the value is passed over. -/
example :
    (ofBody? (Text.toBytes "\x7b\"status\":200,\"value\":1.7976931348623158e308\x7d")).isNone ∧
    (ofBody? (Text.toBytes "\x7b\"status\":200,\"other\":1.7976931348623158e308\x7d")).isSome := by
  decide +kernel

end Envelope

end Agent

end AttributeGateway

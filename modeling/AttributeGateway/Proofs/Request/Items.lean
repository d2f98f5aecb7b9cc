import AttributeGateway.Path.Resolve
import AttributeGateway.Request.Command

/-!
# Faults of single items

What can be wrong with one of the queries of a request concerns that query only: a text that is no
path, and a path that does not lead through the value of the attribute. Such faults never spoil the
answer to the other queries.

* `itemLevel_of_parse`, `itemLevel_of_resolve` — the faults of reading a path and of walking it.
* `Get.of_arguments`, `Command.arguments_of_parse` — the words of a request line.
* `itemLevel_of_query` — the faults that the queries of a request line keep.
-/

namespace AttributeGateway

variable {f : Fault}

theorem Path.itemLevel_of_parse {text : String} (h : Path.parse text = .error f) :
    f.itemLevel = true := by
  rw [Path.parse] at h
  split at h
  · split at h
    · cases h
    · cases h
      rfl
  · cases h
    rfl

namespace Value

theorem itemLevel_of_select {v : Value} {key : String} (h : v.select key = .error f) :
    f.itemLevel = true := by
  unfold select at h
  split at h
  · cases h
    rfl
  · split at h <;> cases h
  · split at h
    · cases h
      rfl
    · split at h
      · cases h
      · cases h
        rfl
  · cases h
    rfl

theorem itemLevel_of_field {v : Value} {name : String} (h : v.field name = .error f) :
    f.itemLevel = true := by
  unfold field at h
  split at h
  · cases h
    rfl
  · split at h
    · cases h
    · cases h
      rfl
  · split at h
    · cases h
    · split at h
      · cases h
      · cases h
        rfl
  · cases h
    rfl
  · cases h
    rfl

/-- Every fault of walking a path concerns a single item. -/
theorem itemLevel_of_resolve {v : Value} {steps : List Segment}
    (h : v.resolve steps = .error f) : f.itemLevel = true := by
  induction steps generalizing v with
  | nil => cases h
  | cons s rest ih =>
    rw [resolve] at h
    split at h
    · cases h
    · split at h
      · exact ih h
      · next f' hs =>
        cases h
        cases s with
        | selector key => exact itemLevel_of_select hs
        | field name => exact itemLevel_of_field hs

end Value

/-- A request consists of the words that it has been read from. -/
theorem Get.of_arguments {args : List String} {get : Get} (h : ofArguments args = .ok get) :
    ∃ url template items, args = url :: template :: items ∧
      get = ⟨url, .ofToken template, (pairs items).map fun p => .ofTexts p.1 p.2⟩ := by
  unfold ofArguments at h
  split at h
  · split at h
    · cases h
      exact ⟨_, _, _, rfl, rfl⟩
    · cases h
  · cases h

/-- The queries of a request line are read from its words. -/
theorem Get.query_of_arguments {args : List String} {get : Get}
    (h : Get.ofArguments args = .ok get) {q : Query} (hq : q ∈ get.queries) :
    ∃ bean rawPath, q = .ofTexts bean rawPath := by
  obtain ⟨url, template, items, -, rfl⟩ := Get.of_arguments h
  obtain ⟨p, -, rfl⟩ := List.mem_map.1 hq
  exact ⟨p.1, p.2, rfl⟩

/-- A request line for attributes has been read from the words of `GET`. -/
theorem Command.arguments_of_parse {line : String} {get : Get}
    (h : Command.parse line = .ok (.get get)) :
    ∃ args, Text.wordsOf line = "GET" :: args ∧ Get.ofArguments args = .ok get := by
  rw [Command.parse] at h
  unfold Command.ofWords at h
  split at h
  · cases h
  · next name args hwords =>
    split at h
    · next hname =>
      cases hargs : Get.ofArguments args with
      | ok get' =>
        rw [hargs] at h
        cases h
        exact ⟨args, hname ▸ hwords, hargs⟩
      | error f =>
        rw [hargs] at h
        cases h
    · split at h
      · cases hclose : closeArgument args <;> rw [hclose] at h <;> cases h
      · cases h

/-- Every fault that a query of a request line keeps concerns that query only. -/
theorem Command.itemLevel_of_query {line : String} {get : Get}
    (h : Command.parse line = .ok (.get get)) {q : Query} (hq : q ∈ get.queries)
    (hf : q.path = .error f) : f.itemLevel = true := by
  obtain ⟨args, -, hargs⟩ := Command.arguments_of_parse h
  obtain ⟨bean, rawPath, rfl⟩ := Get.query_of_arguments hargs hq
  exact Path.itemLevel_of_parse hf

end AttributeGateway

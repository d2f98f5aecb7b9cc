/-!
# Text on a single line

Answers are written one value to a line. A text that holds line breaks or tabs is flattened
before it is written, so that a value can never look like the end of its line.
-/

namespace AttributeGateway

namespace Text

/-- The characters that would break the layout of an answer: line feed, carriage return, tab. -/
def breaksLine (c : Char) : Bool := c == '\n' || c == '\r' || c == '\t'

/-- The text with every line feed, carriage return and tab replaced by one space. -/
def singleLine (text : String) : String :=
  String.ofList (text.toList.map fun c => if breaksLine c then ' ' else c)

/-- A flattened text has no character that breaks a line. -/
theorem not_breaksLine_of_mem_singleLine {text : String} {c : Char}
    (h : c ∈ (singleLine text).toList) : breaksLine c = false := by
  simp only [singleLine, String.toList_ofList, List.mem_map] at h
  obtain ⟨d, -, rfl⟩ := h
  by_cases hd : breaksLine d = true
  · simp only [hd, if_true]
    decide
  · simp [hd]

end Text

end AttributeGateway

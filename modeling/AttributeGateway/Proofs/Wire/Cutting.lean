import AttributeGateway.Proofs.Text.Utf8
import AttributeGateway.Wire.Response

/-!
# Cutting a stream of answers

A client gets the answers to its requests as one stream of bytes. It knows how many values each of
its requests is answered by if all goes well, and an error always has a code and a detail; so it can
tell where an answer ends from the first line of the answer, provided that no line contains the byte
that ends lines. Texts are flattened before they are written, so none does.

* `Response.not_breaksLine_of_mem_lines` — no line of an answer contains a line feed, a carriage
  return or a tab.
* `Response.cutAll` — how a client cuts the stream; `Response.cutAll_encode` says that it gets the
  lines of the answers that have been written.
-/

namespace AttributeGateway

namespace Response

variable {r : Response} {line : String} {stream rest : List UInt8} {n : Nat}

/-! ### The lines of an answer -/

/-- **No line of an answer contains a character that breaks lines.** -/
theorem not_breaksLine_of_mem_lines (hl : line ∈ r.lines) {c : Char} (hc : c ∈ line.toList) :
    Text.breaksLine c = false := by
  have hplain (text : String) (ht : text.toList.all (!Text.breaksLine ·) = true)
      (hc : c ∈ text.toList) : Text.breaksLine c = false :=
    Bool.not_eq_true' _ ▸ List.all_eq_true.1 ht c hc
  cases r with
  | ok values =>
    rcases List.mem_cons.1 hl with rfl | hl
    · exact hplain _ (by decide) hc
    · obtain ⟨v, -, rfl⟩ := List.mem_map.1 hl
      exact Text.not_breaksLine_of_mem_singleLine hc
  | err code detail =>
    simp only [lines, List.mem_cons, List.not_mem_nil, or_false] at hl
    rcases hl with rfl | rfl | rfl
    · exact hplain _ (by decide) hc
    · exact hplain _ (by cases code <;> decide) hc
    · exact Text.not_breaksLine_of_mem_singleLine hc

/-! ### Cutting -/

/-- The first line of a stream, without its end, and what follows it. -/
def takeLine : List UInt8 → Option (List UInt8 × List UInt8)
  | [] => none
  | b :: stream =>
    if b = 0x0A then some ([], stream)
    else (takeLine stream).map fun p => (b :: p.1, p.2)

/-- The first lines of a stream, and what follows them. -/
def takeLines : Nat → List UInt8 → Option (List (List UInt8) × List UInt8)
  | 0, stream => some ([], stream)
  | n + 1, stream => do
    let (line, stream) ← takeLine stream
    let (lines, stream) ← takeLines n stream
    return (line :: lines, stream)

/-- The lines of the answer that a stream begins with, and what follows them: behind `OK` there are
as many as values are expected, otherwise there are the code and the detail of an error. -/
def cut (n : Nat) (stream : List UInt8) : Option (List (List UInt8) × List UInt8) := do
  let (head, stream) ← takeLine stream
  let (body, stream) ← takeLines (if head = Text.toBytes "OK" then n else 2) stream
  return (head :: body, stream)

/-- The lines of the answers that a stream begins with, given how many values are expected in each,
and what follows them. -/
def cutAll : List Nat → List UInt8 → Option (List (List (List UInt8)) × List UInt8)
  | [], stream => some ([], stream)
  | n :: ns, stream => do
    let (answer, stream) ← cut n stream
    let (answers, stream) ← cutAll ns stream
    return (answer :: answers, stream)

/-- An answer has a number of values, unless it is an error. -/
def Carries (r : Response) (n : Nat) : Prop := ∀ values, r = .ok values → values.length = n

theorem takeLine_append {bytes : List UInt8} (h : 0x0A ∉ bytes) :
    takeLine (bytes ++ 0x0A :: rest) = some (bytes, rest) := by
  induction bytes with
  | nil => simp [takeLine]
  | cons b bytes ih =>
    obtain ⟨hb, h⟩ := not_or.1 (mt List.mem_cons.2 h)
    rw [List.cons_append, takeLine, if_neg (Ne.symm hb), ih h, Option.map_some]

theorem takeLines_append {lines : List String} (h : ∀ l ∈ lines, 0x0A ∉ Text.toBytes l)
    (rest : List UInt8) :
    takeLines lines.length
        (lines.flatMap (fun line => Text.toBytes line ++ [0x0A]) ++ rest) =
      some (lines.map Text.toBytes, rest) := by
  induction lines with
  | nil => rfl
  | cons line lines ih =>
    obtain ⟨hl, h⟩ := List.forall_mem_cons.1 h
    simp [takeLines, takeLine_append hl, ih h]

/-- The client gets the lines of the first answer. -/
theorem cut_encode (h : r.Carries n) (rest : List UInt8) :
    cut n (r.encode ++ rest) = some (r.lines.map Text.toBytes, rest) := by
  have hlf : ∀ l ∈ r.lines, 0x0A ∉ Text.toBytes l :=
    fun l hl => Text.lineFeed_not_mem_toBytes fun c hc => not_breaksLine_of_mem_lines hl hc
  have herr : Text.toBytes "ERR" ≠ Text.toBytes "OK" := by
    rw [Text.toBytes_eq, Text.toBytes_eq]
    decide
  cases r with
  | ok values =>
    obtain ⟨hok, hvalues⟩ := List.forall_mem_cons.1 hlf
    obtain rfl := h values rfl
    have hbody := takeLines_append hvalues rest
    rw [List.length_map] at hbody
    simp [cut, encode, lines, takeLine_append hok, hbody]
  | err code detail =>
    obtain ⟨hhead, hbody⟩ := List.forall_mem_cons.1 hlf
    have hbody : takeLines 2 _ = _ := takeLines_append hbody rest
    simp only [List.flatMap_cons, List.flatMap_nil, List.append_nil, List.append_assoc,
      List.cons_append, List.nil_append, List.map_cons, List.map_nil] at hbody
    simp [cut, encode, lines, takeLine_append hhead, hbody, herr]

/-- **The client gets the lines of all answers**, and nothing of what follows them. -/
theorem cutAll_encode {ι : Type} {requests : List ι} {expected : ι → Nat} {answer : ι → Response}
    (h : ∀ q ∈ requests, (answer q).Carries (expected q)) (rest : List UInt8) :
    cutAll (requests.map expected) (requests.flatMap (fun q => (answer q).encode) ++ rest) =
      some (requests.map fun q => (answer q).lines.map Text.toBytes, rest) := by
  induction requests with
  | nil => rfl
  | cons q requests ih =>
    obtain ⟨hq, h⟩ := List.forall_mem_cons.1 h
    simp [cutAll, cut_encode hq, ih h]

end Response

end AttributeGateway

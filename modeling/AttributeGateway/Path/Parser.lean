import AttributeGateway.Path.Basic

/-!
# Reading paths

A path is read from left to right. At an opening bracket stands a selector, which extends to the
next closing bracket that no backslash protects; a point directly behind it belongs to it. If
there is no such bracket, all that is left of the path, taken verbatim, is the key. At any other
character stands a field, which extends to the next unprotected point (which belongs to it) or
opening bracket (which does not), or to the end. A path is refused if a field comes out empty or
if it does not begin with a field.

A backslash and the character after it stand for that character; a backslash at the very end of a
field stands for nothing.
-/

namespace AttributeGateway

namespace Path

/-- The key of the selector whose body begins here, and what follows its closing bracket; nothing
if no unprotected closing bracket follows. The characters read before come first, the last one in
front. -/
def scanKey (read : List Char) : List Char → Option (List Char × List Char)
  | [] => none
  | ']' :: rest => some (read.reverse, rest)
  | '\\' :: c :: rest => scanKey (c :: read) rest
  | ['\\'] => none
  | c :: rest => scanKey (c :: read) rest

/-- The key of the selector whose body begins here, and what follows the selector. -/
def takeSelector (body : List Char) : List Char × List Char :=
  match scanKey [] body with
  | some (key, '.' :: rest) => (key, rest)
  | some (key, rest) => (key, rest)
  | none => (body, [])

/-- The name of the field that begins here, and what follows the field. The characters read before
come first, the last one in front. -/
def scanField (read : List Char) : List Char → List Char × List Char
  | [] => (read.reverse, [])
  | '.' :: rest => (read.reverse, rest)
  | '[' :: rest => (read.reverse, '[' :: rest)
  | '\\' :: c :: rest => scanField (c :: read) rest
  | ['\\'] => (read.reverse, [])
  | c :: rest => scanField (c :: read) rest

theorem length_of_scanKey {read body key rest : List Char}
    (h : scanKey read body = some (key, rest)) : rest.length < body.length := by
  fun_induction scanKey read body with
  | case1 => simp at h
  | case2 read r =>
    simp only [Option.some.injEq, Prod.mk.injEq] at h
    obtain ⟨-, rfl⟩ := h
    exact Nat.lt_succ_self _
  | case3 read c r ih =>
    have := ih h
    simp only [List.length_cons]
    omega
  | case4 => simp at h
  | case5 read c r _ _ _ ih => exact Nat.lt_trans (ih h) (Nat.lt_succ_self _)

/-- What follows a selector is no longer than its body. -/
theorem length_takeSelector_le (body : List Char) :
    (takeSelector body).2.length ≤ body.length := by
  unfold takeSelector
  split
  · next key rest h =>
    have := length_of_scanKey h
    simp only [List.length_cons] at this
    simp only
    omega
  · next key rest _ h => exact Nat.le_of_lt (length_of_scanKey h)
  · simp

/-- What follows a field is no longer than the text at which it begins. -/
theorem length_scanField_le (read text : List Char) :
    (scanField read text).2.length ≤ text.length := by
  fun_induction scanField read text with
  | case1 => simp
  | case2 => simp
  | case3 => simp
  | case4 read c r ih =>
    simp only [List.length_cons]
    omega
  | case5 => simp
  | case6 read c r _ _ _ _ ih => exact Nat.le_trans ih (Nat.le_succ _)

/-- A field that begins at a character other than an opening bracket uses that character up. -/
theorem length_scanField_lt {c : Char} (rest : List Char) (h : c ≠ '[') :
    (scanField [] (c :: rest)).2.length < (c :: rest).length := by
  unfold scanField
  split
  · simp_all
  · simp_all
  · simp_all
  · next d r he =>
    have := length_scanField_le [d] r
    simp only [List.cons.injEq] at he
    simp only [he.2, List.length_cons]
    omega
  · simp_all
  · next d r _ _ _ _ he =>
    have := length_scanField_le [d] r
    simp only [List.cons.injEq] at he
    simp only [he.2, List.length_cons]
    omega

/-- The segments of a text, behind the segments read before, the last one in front; nothing if a
field is empty. -/
def scan (read : List Segment) (text : List Char) : Option (List Segment) :=
  match text with
  | [] => some read.reverse
  | c :: rest =>
    if h : c = '[' then
      have := length_takeSelector_le rest
      scan (.selector (String.ofList (takeSelector rest).1) :: read) (takeSelector rest).2
    else
      if (scanField [] (c :: rest)).1 = [] then none
      else
        have := length_scanField_lt rest h
        scan (.field (String.ofList (scanField [] (c :: rest)).1) :: read)
          (scanField [] (c :: rest)).2
termination_by text.length
decreasing_by
  · exact Nat.lt_succ_of_le this
  · exact this

/-- The path that a text stands for. -/
def parse (text : String) : Except Fault Path :=
  match scan [] text.toList with
  | some (.field name :: rest) =>
    if h : name ≠ "" then .ok ⟨name, rest, h⟩ else .error (.invalidPath text)
  | _ => .error (.invalidPath text)

end Path

end AttributeGateway

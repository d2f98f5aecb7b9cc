/-!
# Runs

A system with states `S` to which events `E` happen is given by what becomes of a state when an
event happens to it, if it can happen. A run is what can happen one after the other.
-/

namespace AttributeGateway

/-- Things that can happen one after the other. -/
inductive Run {S E : Type} (after? : S → E → Option S) : S → List E → S → Prop where
  /-- Nothing has happened. -/
  | nil (s : S) : Run after? s [] s
  /-- One more thing happens. -/
  | snoc {s s' s'' : S} {es : List E} {e : E} :
    Run after? s es s' → after? s' e = some s'' → Run after? s (es ++ [e]) s''

end AttributeGateway

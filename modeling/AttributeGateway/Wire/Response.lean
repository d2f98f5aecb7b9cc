import AttributeGateway.Fault
import AttributeGateway.Text.SingleLine
import AttributeGateway.Text.Utf8

/-!
# Answers

Each request is answered by a block of lines: `OK` and one line for each value, or `ERR`, a code
and a detail. Texts are flattened, so that the block has as many lines as it should whatever the
values are.
-/

namespace AttributeGateway

/-- What is answered in place of a value that cannot be had. -/
def notAvailable : String := "N/A"

/-- The answer to one request. -/
inductive Response where
  /-- Success, with one line for each value. -/
  | ok (values : List String)
  /-- Failure. -/
  | err (code : ErrorCode) (detail : String)
  deriving DecidableEq, Repr

namespace Response

/-- The answer that tells a client of a fault. -/
def ofFault (f : Fault) : Response := .err f.code f.detail

/-- Whether the answer is a success. -/
def isOk : Response → Bool
  | .ok _ => true
  | .err _ _ => false

/-- The lines of an answer, without their ends. -/
def lines : Response → List String
  | .ok values => "OK" :: values.map Text.singleLine
  | .err code detail => ["ERR", code.word, Text.singleLine detail]

/-- The bytes of an answer: each line ends in a line feed. -/
def encode (r : Response) : List UInt8 :=
  r.lines.flatMap fun line => Text.toBytes line ++ [0x0A]

end Response

end AttributeGateway

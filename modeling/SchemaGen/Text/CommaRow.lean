import SchemaGen.Text.Words

/-!
# Rows of fields between commas

The first row of a text, as the list of its fields. A field may be put between quotes; it can then
hold commas and line ends, and a quote inside it is written twice. A quote stands nowhere else. Lines
with nothing on them before the row are passed over.

Places in a text are counted in bytes, from one, within lines that are counted from one.
-/

set_option autoImplicit false

namespace SchemaGen.Text

/-- A place in a text. -/
structure TextPlace where
  line : Nat
  column : Nat
deriving Repr, DecidableEq, Inhabited

/-- Why a text has no row of fields. -/
inductive RowProblem where
  | noRow
  /-- A quote in a field that is not quoted. -/
  | bareQuote (firstLine : Nat) (place : TextPlace)
  /-- A quote that should close a field and does not, or is missing. -/
  | strayQuote (firstLine : Nat) (place : TextPlace)
deriving Repr, DecidableEq, Inhabited

/-- Where a problem of a row is. -/
def RowProblem.whereText (firstLine : Nat) (place : TextPlace) : String :=
  (if firstLine = place.line then "" else "record on line " ++ firstLine.repr ++ "; ")
    ++ "parse error on line " ++ place.line.repr ++ ", column " ++ place.column.repr ++ ": "

/-- The words for a problem of a row. -/
def RowProblem.text : RowProblem → String
  | noRow => "EOF"
  | bareQuote firstLine place => whereText firstLine place ++ "bare \" in non-quoted-field"
  | strayQuote firstLine place =>
    whereText firstLine place ++ "extraneous or missing \" in quoted-field"

namespace CommaRow

/-- Every line end as one character; a carriage return at the very end is dropped. -/
def normalLines : List Char → List Char
  | [] => []
  | ['\r'] => []
  | '\r' :: '\n' :: cs => '\n' :: normalLines cs
  | c :: cs => c :: normalLines cs

/-- How a field is being read. -/
inductive Mode where
  /-- Nothing of it has been read. -/
  | fresh
  | plain
  | quoted
deriving Repr, DecidableEq

/-- The fields from a place on. What has been read of the first of them is in `field`, last
character first. -/
def fieldsFrom (firstLine : Nat) (mode : Mode) (field : List Char) (place : TextPlace) :
    List Char → Except RowProblem (List String)
  | [] =>
    if mode = .quoted then .error (.strayQuote firstLine place)
    else .ok [String.ofList field.reverse]
  | c :: cs =>
    let next := { place with column := place.column + c.utf8Size }
    let finish := String.ofList field.reverse
    if mode = .quoted then
      if c = '"' then
        match cs with
        | [] => .ok [finish]
        | d :: rest =>
          let after := { next with column := next.column + 1 }
          if d = '"' then fieldsFrom firstLine .quoted ('"' :: field) after rest
          else if d = ',' then (fieldsFrom firstLine .fresh [] after rest).map (finish :: ·)
          else if d = '\n' then .ok [finish]
          else .error (.strayQuote firstLine place)
      else if c = '\n' && !cs.isEmpty then
        fieldsFrom firstLine .quoted (c :: field) ⟨place.line + 1, 1⟩ cs
      else fieldsFrom firstLine .quoted (c :: field) next cs
    else if c = ',' then (fieldsFrom firstLine .fresh [] next cs).map (finish :: ·)
    else if c = '\n' then .ok [finish]
    else if c = '"' then
      if mode = .fresh then fieldsFrom firstLine .quoted [] next cs
      else .error (.bareQuote firstLine place)
    else fieldsFrom firstLine .plain (c :: field) next cs

/-- The first row of a text. -/
def read (s : String) : Except RowProblem (List String) :=
  let cs := normalLines s.toList
  let blank := cs.takeWhile (· == '\n')
  let firstLine := blank.length + 1
  match cs.drop blank.length with
  | [] => .error .noRow
  | row => fieldsFrom firstLine .fresh [] ⟨firstLine, 1⟩ row

end CommaRow

end SchemaGen.Text

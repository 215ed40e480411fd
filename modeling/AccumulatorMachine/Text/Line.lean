import AccumulatorMachine.Text.Blank

/-!
# Lines of a text

A line feed ends a line, and what follows the last line feed is a line too
unless it is empty.  The content of a line leaves out its line feed and one
carriage return right before that.  The span of a line says where it stands in
the bytes of the text.
-/

namespace AccumulatorMachine
namespace Text

/-- The lines of a text, each with the line feed that ends it. -/
def pieces : Text → List Text
  | [] => []
  | c :: rest =>
      if c = '\n' then
        [c] :: pieces rest
      else
        match pieces rest with
        | [] => [[c]]
        | piece :: later => (c :: piece) :: later

@[simp] theorem pieces_nil : pieces [] = [] := rfl

/-- Splitting in lines loses nothing. -/
@[simp] theorem flatten_pieces (text : Text) : (pieces text).flatten = text := by
  fun_induction pieces text with
  | case1 => rfl
  | case2 rest ih => simp [ih]
  | case3 c rest _ h ih => simp_all
  | case4 c rest _ piece later h ih => simp_all

/-- A line without its ending: a line feed, or a carriage return and a line
feed. -/
def withoutEnding (piece : Text) : Text :=
  match piece.reverse with
  | '\n' :: '\r' :: content => content.reverse
  | '\n' :: content => content.reverse
  | _ => piece

/-- The ending that a line is without. -/
def ending (piece : Text) : Text :=
  match piece.reverse with
  | '\n' :: '\r' :: _ => ['\r', '\n']
  | '\n' :: _ => ['\n']
  | _ => []

/-- The contents of the lines of a text. -/
def lines (text : Text) : List Text :=
  (pieces text).map withoutEnding

@[simp] theorem length_lines (text : Text) :
    (lines text).length = (pieces text).length := by
  simp [lines]

/-- A stretch of the bytes of a text. -/
structure ByteSpan where
  /-- Offset of the first byte. -/
  start : Nat
  /-- Offset after the last byte. -/
  stop : Nat
  deriving DecidableEq, Repr

/-- A line without any of the line feeds and carriage returns it ends with. -/
def withoutBreaks (piece : Text) : Text :=
  (piece.reverse.dropWhile fun c => c == '\n' || c == '\r').reverse

/-- Where the line with a given number, counted from one, stands in a text,
without the line feeds and carriage returns it ends with. -/
def lineSpan (text : Text) (number : Nat) : Option ByteSpan :=
  match number with
  | 0 => none
  | index + 1 =>
      (pieces text)[index]?.map fun piece =>
        let start := byteLength ((pieces text).take index).flatten
        ⟨start, start + byteLength (withoutBreaks piece)⟩

/-- The number of line breaks in a text, where a carriage return that no line
feed follows is a break of its own. -/
def breakCount : Text → Nat
  | [] => 0
  | '\r' :: '\n' :: rest => breakCount rest + 1
  | c :: rest => if c = '\n' ∨ c = '\r' then breakCount rest + 1 else breakCount rest

end Text
end AccumulatorMachine

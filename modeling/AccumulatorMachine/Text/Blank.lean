/-!
# White space, trimming and words

A text is a list of characters.  White space is the property `White_Space` of
Unicode: twenty-five characters, among them the line separators and the
no-break spaces, but neither the zero-width space nor the byte order mark.
-/

namespace AccumulatorMachine

/-- A text, character by character. -/
abbrev Text := List Char

namespace Text

/-- The characters with the property `White_Space`. -/
def isBlank (c : Char) : Bool :=
  (decide (0x09 ≤ c.toNat) && decide (c.toNat ≤ 0x0D)) ||
    c.toNat == 0x20 || c.toNat == 0x85 || c.toNat == 0xA0 ||
    c.toNat == 0x1680 ||
    (decide (0x2000 ≤ c.toNat) && decide (c.toNat ≤ 0x200A)) ||
    c.toNat == 0x2028 || c.toNat == 0x2029 || c.toNat == 0x202F ||
    c.toNat == 0x205F || c.toNat == 0x3000

/-- A text without the white space it starts with. -/
def trimStart (text : Text) : Text :=
  text.dropWhile isBlank

/-- A text without the white space it ends with. -/
def trimEnd (text : Text) : Text :=
  (text.reverse.dropWhile isBlank).reverse

/-- A text without the white space around it. -/
def trim (text : Text) : Text :=
  trimEnd (trimStart text)

@[simp] theorem trim_nil : trim [] = [] := rfl

/-- The maximal runs of characters that are not white space. -/
def words (text : Text) : List Text :=
  (text.splitOnP isBlank).filter fun word => !word.isEmpty

/-- White space only. -/
def isBlankText (text : Text) : Bool :=
  text.all isBlank

/-- The number of bytes a text takes in UTF-8. -/
def byteLength : Text → Nat
  | [] => 0
  | c :: rest => c.utf8Size + byteLength rest

@[simp] theorem byteLength_nil : byteLength [] = 0 := rfl

@[simp] theorem byteLength_cons (c : Char) (rest : Text) :
    byteLength (c :: rest) = c.utf8Size + byteLength rest := rfl

@[simp] theorem byteLength_append (first second : Text) :
    byteLength (first ++ second) = byteLength first + byteLength second := by
  induction first with
  | nil => simp
  | cons c rest ih => simp [ih, Nat.add_assoc]

end Text
end AccumulatorMachine

import AquariumControl.SlotId

/-!
# Names and labels

A registered object carries a name that its owner chose and a label that the registry gave it.

* A `Name` is a text of at most 16 bytes in UTF-8.  `Name.ofString` keeps the longest part of a
  longer text that fits and consists of whole characters.
* A `Label` is a kind of object and a place: `A3`, `C0`, `S12`.  The label is also the key under
  which the object's record is stored.
-/

set_option autoImplicit false

namespace AquariumControl

/-! ## Names -/

/-- The most bytes a name may take. -/
def nameCapacity : Nat := 16

/-- A text whose UTF-8 form has at most `nameCapacity` bytes. -/
structure Name where
  text : String
  size_le : text.utf8ByteSize ≤ nameCapacity
deriving DecidableEq

namespace Name

/-- The characters from the front of `cs` that fit into `room` bytes.  The first character that
does not fit ends the text, even if a later one would be small enough. -/
def fitting : Nat → List Char → List Char
  | _, [] => []
  | room, c :: cs => if c.utf8Size ≤ room then c :: fitting (room - c.utf8Size) cs else []

theorem utf8ByteSize_ofList_cons (c : Char) (cs : List Char) :
    (String.ofList (c :: cs)).utf8ByteSize = c.utf8Size + (String.ofList cs).utf8ByteSize := by
  rw [show c :: cs = [c] ++ cs from rfl, String.ofList_append, String.utf8ByteSize_append,
    ← String.singleton_eq_ofList, String.utf8ByteSize_singleton]

theorem utf8ByteSize_fitting (room : Nat) (cs : List Char) :
    (String.ofList (fitting room cs)).utf8ByteSize ≤ room := by
  induction cs generalizing room with
  | nil => simp [fitting]
  | cons c cs ih =>
    rw [fitting]
    split
    · next h =>
      rw [utf8ByteSize_ofList_cons]
      have := ih (room - c.utf8Size)
      omega
    · simp

/-- The name for a text: all of it, or as many whole characters as fit. -/
def ofString (s : String) : Name where
  text := String.ofList (fitting nameCapacity s.toList)
  size_le := utf8ByteSize_fitting nameCapacity s.toList

/-- The text as a name if it is short enough as it stands. -/
def ofString? (s : String) : Option Name :=
  if h : s.utf8ByteSize ≤ nameCapacity then some ⟨s, h⟩ else none

def byteSize (n : Name) : Nat :=
  n.text.utf8ByteSize

end Name

/-! ## Labels -/

/-- The three kinds of registered object. -/
inductive Tag
  | actuator
  | controller
  | sensor
deriving DecidableEq

namespace Tag

/-- The letter that begins a label. -/
def letter : Tag → String
  | .actuator => "A"
  | .controller => "C"
  | .sensor => "S"

/-- The word for the kind in messages. -/
def word : Tag → String
  | .actuator => "Actuator"
  | .controller => "Controller"
  | .sensor => "Sensor"

end Tag

/-- A kind of object and its place.  The label of an object without a place is empty. -/
structure Label where
  tag : Tag
  id : SlotId
deriving DecidableEq

namespace Label

/-- The kind's letter followed by the decimal number of the place. -/
def text (l : Label) : String :=
  match l.id with
  | .unassigned => ""
  | .slot i => l.tag.letter ++ toString i.val

end Label

end AquariumControl

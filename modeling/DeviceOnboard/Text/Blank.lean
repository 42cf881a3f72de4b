/-!
# Blank space and trimming

The characters with the Unicode property White_Space, and texts without them at either end.
Address fields, annotations and image names count as unset when nothing is left after trimming.
-/
namespace DeviceOnboard.Text

/-- Code points with the property White_Space. -/
def blankRanges : List (Nat × Nat) :=
  [(0x9, 0xD), (0x20, 0x20), (0x85, 0x85), (0xA0, 0xA0), (0x1680, 0x1680), (0x2000, 0x200A),
   (0x2028, 0x2029), (0x202F, 0x202F), (0x205F, 0x205F), (0x3000, 0x3000)]

/-- Whether a code point lies in one of the closed ranges. -/
def inRanges (ranges : List (Nat × Nat)) (n : Nat) : Bool :=
  ranges.any fun r => r.1 ≤ n && n ≤ r.2

def isBlank (c : Char) : Bool := inRanges blankRanges c.toNat

/-- The characters between the first and the last one that is not blank. -/
def trimChars (cs : List Char) : List Char :=
  ((cs.dropWhile isBlank).reverse.dropWhile isBlank).reverse

def trim (s : String) : String := String.ofList (trimChars s.toList)

/-- A field's trimmed text; a field that is absent or blank is unset. -/
def field? (s : Option String) : Option String :=
  match s.map trim with
  | some t => if t = "" then none else some t
  | none => none

end DeviceOnboard.Text

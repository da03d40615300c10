/-!
# Byte offsets into a text

Positions are offsets into the UTF-8 encoding of a text, while the text itself is a list of
characters. An offset inside a character belongs to that character: cutting a text there keeps the
whole character in the second part.
-/

namespace Peg.Text

/-- The number of bytes that the UTF-8 encoding of the characters takes. -/
def byteLength : List Char → Nat
  | [] => 0
  | c :: cs => c.utf8Size + byteLength cs

/-- The longest initial part that takes at most `n` bytes. -/
def takeBytes : List Char → Nat → List Char
  | [], _ => []
  | c :: cs, n => if c.utf8Size ≤ n then c :: takeBytes cs (n - c.utf8Size) else []

/-- What remains after the longest initial part that takes at most `n` bytes. -/
def dropBytes : List Char → Nat → List Char
  | [], _ => []
  | c :: cs, n => if c.utf8Size ≤ n then dropBytes cs (n - c.utf8Size) else c :: cs

/-- The empty text takes no bytes. -/
@[simp] theorem byteLength_nil : byteLength [] = 0 := rfl

/-- A character adds the bytes it is written in. -/
@[simp] theorem byteLength_cons (c : Char) (cs : List Char) :
    byteLength (c :: cs) = c.utf8Size + byteLength cs := rfl

/-- The bytes of a joined text are those of its parts. -/
@[simp] theorem byteLength_append (cs ds : List Char) :
    byteLength (cs ++ ds) = byteLength cs + byteLength ds := by
  induction cs with
  | nil => simp
  | cons c cs ih => simp [ih, Nat.add_assoc]

/-- Cutting a text loses nothing. -/
theorem takeBytes_append_dropBytes (cs : List Char) (n : Nat) :
    takeBytes cs n ++ dropBytes cs n = cs := by
  induction cs generalizing n with
  | nil => rfl
  | cons c cs ih =>
    by_cases h : c.utf8Size ≤ n
    · simp [takeBytes, dropBytes, h, ih]
    · simp [takeBytes, dropBytes, h]

/-- The first part of a cut stays within its bound. -/
theorem byteLength_takeBytes_le (cs : List Char) (n : Nat) : byteLength (takeBytes cs n) ≤ n := by
  induction cs generalizing n with
  | nil => simp [takeBytes]
  | cons c cs ih =>
    by_cases h : c.utf8Size ≤ n
    · have hrest := ih (n - c.utf8Size)
      simp only [takeBytes, h, if_true, byteLength_cons]
      omega
    · simp [takeBytes, h]

/-- Cutting exactly behind an initial part returns that part. -/
theorem takeBytes_byteLength (cs ds : List Char) : takeBytes (cs ++ ds) (byteLength cs) = cs := by
  induction cs with
  | nil =>
    cases ds with
    | nil => rfl
    | cons d ds =>
      have hsize : ¬ d.utf8Size ≤ 0 := Nat.not_le.mpr d.utf8Size_pos
      simp [takeBytes, hsize]
  | cons c cs ih => simp [takeBytes, ih]

/-- Cutting exactly behind an initial part leaves what follows it. -/
theorem dropBytes_byteLength (cs ds : List Char) : dropBytes (cs ++ ds) (byteLength cs) = ds := by
  have hcut := takeBytes_append_dropBytes (cs ++ ds) (byteLength cs)
  rw [takeBytes_byteLength] at hcut
  exact List.append_cancel_left hcut

/-- The offset at which the character that contains offset `n` starts, or the end of the text. -/
def floorOffset (cs : List Char) (n : Nat) : Nat :=
  byteLength (takeBytes cs n)

/-- Whether `n` is the offset of a character or of the end of the text. -/
def isBoundary (cs : List Char) (n : Nat) : Bool :=
  floorOffset cs n == n

/-- The characters between two offsets. -/
def slice (cs : List Char) (start stop : Nat) : List Char :=
  takeBytes (dropBytes cs start) (stop - start)

/-- The characters between two offsets, if these are boundaries in order. -/
def slice? (cs : List Char) (start stop : Nat) : Option (List Char) :=
  if start ≤ stop && isBoundary cs start && isBoundary cs stop then some (slice cs start stop)
  else none

/-- The character that starts at offset `n`. -/
def charAt? (cs : List Char) (n : Nat) : Option Char :=
  if isBoundary cs n then (dropBytes cs n).head? else none

/-- The bytes of the UTF-8 encoding. -/
def utf8Bytes (cs : List Char) : List UInt8 :=
  cs.flatMap String.utf8EncodeChar

end Peg.Text

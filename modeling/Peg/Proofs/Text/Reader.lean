/-!
# Reading texts back

A reader takes a value from the front of a text. What has been written with an end of its own is
read back whatever stands behind it, so texts that are put together can be read back in parts.
-/

namespace Peg.Text

/-- A value from the front of a text, with the rest of the text. -/
abbrev Reader := StateT (List Char) Option

namespace Reader

variable {α β : Type}

/-- The reader takes the value from the text and leaves what stands behind it. -/
def Reads (reader : Reader α) (text : String) (a : α) : Prop :=
  ∀ rest, reader.run (text.toList ++ rest) = some (a, rest)

/-- The value that a whole text denotes. -/
def whole? (reader : Reader α) (text : String) : Option α :=
  match reader.run text.toList with
  | some (a, []) => some a
  | _ => none

/-- A text denotes the value that is read from all of it. -/
theorem whole?_of_reads {reader : Reader α} {text : String} {a : α} (h : Reads reader text a) :
    whole? reader text = some a := by
  have hread := h []
  rw [List.append_nil] at hread
  rw [whole?, hread]

/-- A value that has been found without reading. -/
def found : Option α → Reader α
  | some a => pure a
  | none => failure

/-- A value is there without reading. -/
theorem reads_pure (a : α) : Reads (pure a) "" a :=
  fun _ => rfl

/-- A value that has been found is there without reading. -/
theorem reads_found {found? : Option α} {a : α} (h : found? = some a) :
    Reads (found found?) "" a := by
  rw [h]
  exact reads_pure a

/-- A value is read from a text that is written in another way. -/
theorem Reads.congr {reader : Reader α} {text text' : String} {a : α} (h : Reads reader text a)
    (htext : text' = text) : Reads reader text' a :=
  htext ▸ h

/-- What has been read decides how the text behind it is read. -/
theorem Reads.bind {first : Reader α} {next : α → Reader β} {text text' : String} {a : α} {b : β}
    (h : Reads first text a) (h' : Reads (next a) text' b) :
    Reads (first >>= next) (text ++ text') b := by
  intro rest
  rw [String.toList_append, List.append_assoc, StateT.run_bind, h]
  exact h' rest

/-- Exactly this text. -/
def expect (text : String) : Reader Unit := fun chars =>
  if text.toList <+: chars then some ((), chars.drop text.toList.length) else none

/-- An expected text is read off itself. -/
theorem reads_expect (text : String) : Reads (expect text) text () := by
  intro rest
  simp [StateT.run, expect]

/-- What stands before a character, which is taken, too. -/
def textBefore (stop : Char) : Reader String := fun chars =>
  match chars.dropWhile (· != stop) with
  | [] => none
  | _ :: rest => some (String.ofList (chars.takeWhile (· != stop)), rest)

/-- A text without the stop is read up to the stop. -/
theorem reads_textBefore {text : String} {stop : Char} (h : stop ∉ text.toList) :
    Reads (textBefore stop) (text ++ String.singleton stop) text := by
  intro rest
  have hne : ∀ c ∈ text.toList, (c != stop) = true := by
    intro c hc
    simpa using fun heq : c = stop => h (heq ▸ hc)
  simp [StateT.run, textBefore, List.dropWhile_append_of_pos hne,
    List.takeWhile_append_of_pos hne]

/-- The number that decimal digits denote. -/
def number? (digits : String) : Option Nat :=
  if digits.toList.all Char.isDigit then some (Nat.ofDigitChars 10 digits.toList 0) else none

/-- A number is what its decimal digits denote. -/
theorem number?_repr (n : Nat) : number? n.repr = some n := by
  have hdigits : (Nat.toDigits 10 n).all Char.isDigit = true :=
    List.all_eq_true.mpr fun c hc => Nat.isDigit_of_mem_toDigits (by decide) (by decide) hc
  rw [number?, Nat.toList_repr, if_pos hdigits,
    Nat.ofDigitChars_toDigits (by decide) (by decide)]

/-- The number that stands before a character, which is taken, too. -/
def numberBefore (stop : Char) : Reader Nat := do
  found (number? (← textBefore stop))

/-- A number is read up to the stop behind its digits. -/
theorem reads_numberBefore (n : Nat) {stop : Char} (h : stop.isDigit = false) :
    Reads (numberBefore stop) (n.repr ++ String.singleton stop) n := by
  have hstop : stop ∉ n.repr.toList := by
    intro hmem
    rw [Nat.toList_repr] at hmem
    have hdigit := Nat.isDigit_of_mem_toDigits (by decide) (by decide) hmem
    rw [h] at hdigit
    cases hdigit
  have hread : Reads (numberBefore stop) (n.repr ++ String.singleton stop ++ "") n :=
    (reads_textBefore hstop).bind (reads_found (number?_repr n))
  rwa [String.append_empty] at hread

end Reader

end Peg.Text

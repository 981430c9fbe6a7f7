/-!
# Text from arbitrary bytes

Bytes that are not the UTF-8 form of a text are shown as well as possible: a sequence that begins
like a character and breaks off, or that cannot begin one, is shown as one replacement character.
-/
namespace RecipePins.Text

def replacement : Char := '\uFFFD'

def between (low high b : Nat) : Bool :=
  low ≤ b && b ≤ high

/-- What may follow a leading byte: how many bytes in all, and the bounds of the first of them. No
byte may follow one that leads no sequence. -/
def followers (lead : Nat) : Nat × Nat × Nat :=
  if between 0xC2 0xDF lead then (1, 0x80, 0xBF)
  else if lead = 0xE0 then (2, 0xA0, 0xBF)
  else if lead = 0xED then (2, 0x80, 0x9F)
  else if between 0xE1 0xEF lead then (2, 0x80, 0xBF)
  else if lead = 0xF0 then (3, 0x90, 0xBF)
  else if between 0xF1 0xF3 lead then (3, 0x80, 0xBF)
  else if lead = 0xF4 then (3, 0x80, 0x8F)
  else (0, 0, 0)

/-- The bytes at the start of `rest` that belong with a leading byte. -/
def sequence (lead : Nat) (rest : List Nat) : List Nat :=
  match followers lead, rest with
  | (n + 1, low, high), b :: more =>
    if between low high b then b :: (more.take n).takeWhile (between 0x80 0xBF) else []
  | _, _ => []

/-- The value of a leading byte without the bits that give the length of its sequence. -/
def leadValue (lead : Nat) : Nat :=
  if lead < 0xE0 then lead - 0xC0 else if lead < 0xF0 then lead - 0xE0 else lead - 0xF0

def spelled (lead : Nat) (seq : List Nat) : Char :=
  if lead < 0x80 then Char.ofNat lead
  else if seq.isEmpty || seq.length < (followers lead).1 then replacement
  else Char.ofNat (seq.foldl (fun n b => 64 * n + (b - 0x80)) (leadValue lead))

def lossyChars : List Nat → List Char
  | [] => []
  | lead :: rest =>
    let seq := sequence lead rest
    spelled lead seq :: lossyChars (rest.drop seq.length)
termination_by bytes => bytes.length
decreasing_by simp only [List.length_drop, List.length_cons]; omega

/-- The text of some bytes, whatever they are. -/
def lossy (bytes : ByteArray) : String :=
  String.ofList (lossyChars (bytes.toList.map UInt8.toNat))

end RecipePins.Text

/-!
Blank characters, texts without them at the ends, and phrases within texts. Main statement: a phrase
occurs in a text exactly when it is a contiguous part of it.
-/
namespace HostNet.Text

/-- The twenty-five characters with the Unicode property White_Space. -/
def isBlank (c : Char) : Bool :=
  let n := c.toNat
  (9 ≤ n && n ≤ 13) || n == 0x20 || n == 0x85 || n == 0xa0 || n == 0x1680 ||
    (0x2000 ≤ n && n ≤ 0x200a) || n == 0x2028 || n == 0x2029 || n == 0x202f ||
    n == 0x205f || n == 0x3000

/-- The text without the blanks at its two ends. -/
def trim (text : String) : String :=
  String.ofList ((text.toList.dropWhile isBlank).reverse.dropWhile isBlank).reverse

def startsWith : List Char → List Char → Bool
  | _, [] => true
  | [], _ :: _ => false
  | c :: rest, d :: word => c == d && startsWith rest word

/-- Whether a phrase occurs somewhere in a text. -/
def occursIn (phrase : List Char) : List Char → Bool
  | [] => phrase.isEmpty
  | c :: rest => startsWith (c :: rest) phrase || occursIn phrase rest

def mentions (text phrase : String) : Bool :=
  occursIn phrase.toList text.toList

theorem startsWith_iff {text word : List Char} : startsWith text word = true ↔ word <+: text := by
  induction text generalizing word with
  | nil => cases word <;> simp [startsWith]
  | cons c rest ih =>
    cases word with
    | nil => simp [startsWith]
    | cons d word =>
      simp only [startsWith, Bool.and_eq_true, beq_iff_eq, ih, List.cons_prefix_cons]
      constructor
      · rintro ⟨rfl, h⟩
        exact ⟨rfl, h⟩
      · rintro ⟨rfl, h⟩
        exact ⟨rfl, h⟩

theorem occursIn_iff {phrase text : List Char} :
    occursIn phrase text = true ↔ phrase <:+: text := by
  induction text with
  | nil => simp [occursIn]
  | cons c rest ih => simp [occursIn, startsWith_iff, ih, List.infix_cons_iff]

instance decidableOccurs (phrase text : List Char) : Decidable (phrase <:+: text) :=
  decidable_of_iff _ occursIn_iff

end HostNet.Text

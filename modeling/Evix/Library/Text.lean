import Mathlib.Data.List.TakeWhile

/-!
# Lines and tokens of a text

A text is the list of its characters. A line is ended by a line feed, before which one carriage
return is dropped; what follows the last line feed is a line unless it is empty. A token is a
longest part without separators.
-/

namespace Text

/-- Whether a character has the Unicode property `White_Space`. -/
def isWhitespace (char : Char) : Bool :=
  (0x9 ≤ char.toNat && char.toNat ≤ 0xD) || char.toNat == 0x20 || char.toNat == 0x85 ||
    char.toNat == 0xA0 || char.toNat == 0x1680 || (0x2000 ≤ char.toNat && char.toNat ≤ 0x200A) ||
    char.toNat == 0x2028 || char.toNat == 0x2029 || char.toNat == 0x202F || char.toNat == 0x205F ||
    char.toNat == 0x3000

/-- Whether nothing is left of a text without its whitespace. -/
def isBlank (text : List Char) : Bool := text.all isWhitespace

/-- A text without the whitespace at its ends. -/
def trim (text : List Char) : List Char :=
  ((text.dropWhile isWhitespace).reverse.dropWhile isWhitespace).reverse

/-- A text that begins with another character has no whitespace to drop. -/
theorem dropWhile_eq_self {text : List Char} (start : text.head?.any isWhitespace = false) :
    text.dropWhile isWhitespace = text := by
  cases text with
  | nil => rfl
  | cons char rest =>
    rw [List.head?_cons, Option.any_some] at start
    rw [List.dropWhile_cons, start, if_neg Bool.false_ne_true]

/-- A text without whitespace at its ends is what it is without it. -/
theorem trim_eq_self {text : List Char} (start : text.head?.any isWhitespace = false)
    (stop : text.getLast?.any isWhitespace = false) : trim text = text := by
  have back : text.reverse.head?.any isWhitespace = false := by rwa [List.head?_reverse]
  rw [trim, dropWhile_eq_self start, dropWhile_eq_self back, List.reverse_reverse]

/-- The bytes of a text are those of its characters. -/
theorem utf8_ofList (text : List Char) :
    (String.ofList text).toUTF8.data.toList = text.flatMap String.utf8EncodeChar := by
  simp [List.utf8Encode]

/-- The characters of two texts, one after the other. -/
theorem append_spelled {one two : String} {first rest : List Char} (front : one = .ofList first)
    (back : two = .ofList rest) : one ++ two = .ofList (first ++ rest) := by
  rw [front, back, String.ofList_append]

/-- Put a character in front of the first line. -/
def onto (char : Char) : List (List Char) → List (List Char)
  | [] => [[char]]
  | line :: lines => (char :: line) :: lines

/-- The lines of a text. -/
def lines : List Char → List (List Char)
  | [] => []
  | '\n' :: rest => [] :: lines rest
  | '\r' :: '\n' :: rest => [] :: lines rest
  | char :: rest => onto char (lines rest)

/-- A line without line ends of its own. -/
def IsLine (line : List Char) : Prop := ∀ char ∈ line, char ≠ '\n' ∧ char ≠ '\r'

instance (line : List Char) : Decidable (IsLine line) := List.decidableBAll _ _

/-- The first line of a text. -/
theorem lines_line {line : List Char} (plain : IsLine line) (rest : List Char) :
    lines (line ++ '\n' :: rest) = line :: lines rest := by
  induction line with
  | nil => rfl
  | cons char line ih =>
    obtain ⟨notFeed, notReturn⟩ := plain char List.mem_cons_self
    have later := ih fun other member => plain other (List.mem_cons_of_mem _ member)
    rw [List.cons_append, lines, later]
    · rfl
    · rintro rfl
      exact absurd rfl notFeed
    · rintro other rfl _
      exact absurd rfl notReturn

/-- The lines of a text that is written line by line. -/
theorem lines_written {written : List (List Char)} (plain : ∀ line ∈ written, IsLine line) :
    lines (written.flatMap (· ++ ['\n'])) = written := by
  induction written with
  | nil => rfl
  | cons line written ih =>
    rw [List.flatMap_cons, List.append_assoc, List.singleton_append,
      lines_line (plain line List.mem_cons_self),
      ih fun other member => plain other (List.mem_cons_of_mem _ member)]

/-! ## Tokens -/

/-- The parts of a text between separators that are not empty. -/
def tokens (blank : Char → Bool) (text : List Char) : List (List Char) :=
  (text.splitOnP blank).filter fun token => !token.isEmpty

/-- What the parts of a text between separators hold together. -/
theorem flatten_splitOnP (blank : Char → Bool) (text : List Char) :
    (text.splitOnP blank).flatten = text.filter (!blank ·) := by
  induction text with
  | nil => rfl
  | cons char text ih =>
    rw [List.splitOnP_cons_eq_if_modifyHead]
    cases separates : blank char with
    | true => simp [separates, ih]
    | false =>
      cases parts : text.splitOnP blank with
      | nil => exact absurd parts (List.splitOnP_ne_nil blank text)
      | cons part parts =>
        rw [parts] at ih
        simpa [separates] using ih

/-- The tokens of a text hold all of it but the separators. -/
theorem flatten_tokens (blank : Char → Bool) (text : List Char) :
    (tokens blank text).flatten = text.filter (!blank ·) := by
  rw [← flatten_splitOnP, tokens, List.flatten_filter_not_isEmpty]

/-- The tokens of two texts with a separator between them. -/
theorem tokens_append {blank : Char → Bool} {separator : Char} (separates : blank separator = true)
    (first rest : List Char) :
    tokens blank (first ++ separator :: rest) = tokens blank first ++ tokens blank rest := by
  rw [tokens, List.splitOnP_append_cons _ _ separates, List.filter_append]
  rfl

/-- A text without separators is one token, unless it is empty. -/
theorem tokens_single {blank : Char → Bool} {text : List Char} (some : text ≠ [])
    (joined : ∀ char ∈ text, blank char = false) : tokens blank text = [text] := by
  rw [tokens, List.splitOnP_eq_singleton joined, List.filter_cons_of_pos (by simpa using some)]
  rfl

/-- A token is not empty and holds characters of the text that separate nothing. -/
theorem mem_tokens {blank : Char → Bool} {text token : List Char}
    (listed : token ∈ tokens blank text) :
    token ≠ [] ∧ ∀ char ∈ token, char ∈ text ∧ blank char = false := by
  refine ⟨by simpa using (List.mem_filter.mp listed).2, fun char member => ?_⟩
  have kept : char ∈ (tokens blank text).flatten := List.mem_flatten.mpr ⟨token, listed, member⟩
  simpa [flatten_tokens] using kept

/-- The tokens of tokens written with a separator between them. -/
theorem tokens_intercalate {blank : Char → Bool} {separator : Char}
    (separates : blank separator = true) {written : List (List Char)}
    (plain : ∀ token ∈ written, token ≠ [] ∧ ∀ char ∈ token, blank char = false) :
    tokens blank ([separator].intercalate written) = written := by
  induction written with
  | nil => rfl
  | cons token written ih =>
    obtain ⟨some, joined⟩ := plain token List.mem_cons_self
    have later := ih fun other member => plain other (List.mem_cons_of_mem _ member)
    cases written with
    | nil => simpa using tokens_single some joined
    | cons next written =>
      rw [List.intercalate_cons_cons, List.append_assoc, List.singleton_append,
        tokens_append separates, tokens_single some joined, later]
      rfl

/-! ## Splitting once -/

/-- What stands before and behind the first separator of a text. -/
def splitOnce (separator : Char) (text : String) : Option (String × String) :=
  match text.toList.dropWhile (· ≠ separator) with
  | [] => none
  | _ :: rest => some (.ofList (text.toList.takeWhile (· ≠ separator)), .ofList rest)

/-- A text without the separator is not split. -/
theorem splitOnce_eq_none {separator : Char} {text : String} :
    splitOnce separator text = none ↔ separator ∉ text.toList := by
  have whole : text.toList.dropWhile (· ≠ separator) = [] ↔ separator ∉ text.toList := by
    simp only [List.dropWhile_eq_nil_iff, decide_eq_true_eq]
    exact ⟨fun others member => others _ member rfl, fun absent _ member same =>
      absent (same ▸ member)⟩
  rw [← whole, splitOnce]
  split
  case h_1 nothing => exact iff_of_true rfl nothing
  case h_2 rest found => exact iff_of_false nofun fun nothing => nomatch nothing.symm.trans found

/-- What stands before and behind the first separator. -/
theorem splitOnce_append {separator : Char} {front : String} (absent : separator ∉ front.toList)
    (rest : String) :
    splitOnce separator (front ++ String.singleton separator ++ rest) = some (front, rest) := by
  have plain : ∀ char ∈ front.toList, decide (char ≠ separator) = true := fun char member =>
    decide_eq_true fun same => absent (same ▸ member)
  have parts : (front ++ String.singleton separator ++ rest).toList =
      front.toList ++ separator :: rest.toList := by
    simp
  rw [splitOnce, parts, List.dropWhile_append_of_pos plain, List.takeWhile_append_of_pos plain]
  simp

/-- A text that is split is put together again. -/
theorem splitOnce_eq_some {separator : Char} {text front rest : String} :
    splitOnce separator text = some (front, rest) ↔
      text = front ++ String.singleton separator ++ rest ∧ separator ∉ front.toList := by
  refine ⟨fun found => ?_, fun ⟨parts, absent⟩ => parts ▸ splitOnce_append absent rest⟩
  by_cases present : separator ∈ text.toList
  · obtain ⟨before, after, parts, absent⟩ := List.eq_append_cons_of_mem present
    have same : text = .ofList before ++ String.singleton separator ++ .ofList after := by
      rw [← String.toList_inj, parts]
      simp
    have first : separator ∉ (String.ofList before).toList := by simpa using absent
    rw [same, splitOnce_append first] at found
    obtain ⟨rfl, rfl⟩ := Prod.mk.inj (Option.some.inj found)
    exact ⟨same, first⟩
  · rw [splitOnce_eq_none.mpr present] at found
    cases found

end Text

/-!
# Blank characters

The characters with the property White_Space, and the words of a text: its longest pieces without
such characters. Neither the zero-width space nor the byte order mark is blank.

Main statement: `words_nonempty`, no word is empty.
-/

namespace CiWorkflow.Text

/-- Whether a character has the property White_Space. -/
def isBlank (c : Char) : Bool :=
  let n := c.toNat
  (0x09 ≤ n && n ≤ 0x0D) || n == 0x20 || n == 0x85 || n == 0xA0 || n == 0x1680 ||
    (0x2000 ≤ n && n ≤ 0x200A) || n == 0x2028 || n == 0x2029 || n == 0x202F || n == 0x205F ||
    n == 0x3000

/-- The words of a text whose beginning lies in `word`, the letters of the open word, last first. -/
def wordsFrom (word : List Char) : List Char → List (List Char)
  | [] => if word.isEmpty then [] else [word.reverse]
  | c :: rest =>
    if isBlank c then
      if word.isEmpty then wordsFrom [] rest else word.reverse :: wordsFrom [] rest
    else wordsFrom (c :: word) rest

/-- The longest pieces of a text without blank characters, in order. -/
def words (text : String) : List String := (wordsFrom [] text.toList).map String.ofList

/-- Whether a text has nothing but blank characters. -/
def isBlankText (text : String) : Bool := text.toList.all isBlank

/-- A word is closed only where a letter was read. -/
theorem wordsFrom_nonempty (word cs : List Char) : ∀ w ∈ wordsFrom word cs, w ≠ [] := by
  -- for any beginning of a word, since each character may add to one
  induction cs generalizing word with
  | nil =>
    intro w hw
    by_cases h : word = [] <;> simp_all [wordsFrom]
  | cons c rest ih =>
    intro w hw
    by_cases hc : isBlank c = true
    · by_cases h : word = []
      · simp [wordsFrom, hc, h] at hw
        exact ih [] w hw
      · simp [wordsFrom, hc, h] at hw
        rcases hw with rfl | hw
        · simpa using h
        · exact ih [] w hw
    · simp [wordsFrom, hc] at hw
      exact ih _ w hw

/-- No word is empty, however many blank characters stand in a row. -/
theorem words_nonempty {text w : String} (h : w ∈ words text) : w.toList ≠ [] := by
  obtain ⟨cs, hcs, rfl⟩ := List.mem_map.1 h
  simpa using wordsFrom_nonempty _ _ cs hcs

end CiWorkflow.Text

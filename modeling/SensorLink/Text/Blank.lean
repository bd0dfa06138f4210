/-!
# White space

White space around a device id and anywhere in a payload's digits is not looked at. It is the
characters with the Unicode property White_Space, not the ASCII ones alone.
-/

namespace SensorLink.Text

/-- The characters with the property White_Space. -/
def isBlank (c : Char) : Bool :=
  let n := c.toNat
  (9 ≤ n && n ≤ 13) || n = 0x20 || n = 0x85 || n = 0xA0 || n = 0x1680
    || (0x2000 ≤ n && n ≤ 0x200A) || n = 0x2028 || n = 0x2029 || n = 0x202F || n = 0x205F
    || n = 0x3000

/-- A text without the white space at its two ends. -/
def trim (cs : List Char) : List Char :=
  ((cs.dropWhile isBlank).reverse.dropWhile isBlank).reverse

/-- A text without any of its white space. -/
def squeeze (cs : List Char) : List Char := cs.filter fun c => !isBlank c

/-- White space is taken from the front up to the first character that shows. -/
theorem dropWhile_blank {blanks rest : List Char} (hblanks : ∀ c ∈ blanks, isBlank c = true)
    (hrest : ∀ c ∈ rest.head?, isBlank c = false) : (blanks ++ rest).dropWhile isBlank = rest := by
  rw [List.dropWhile_append_of_pos hblanks]
  cases rest with
  | nil => rfl
  | cons c rest => simp [hrest c rfl]

/-- A text that is all white space has nothing between its ends. -/
theorem trim_of_blank {blanks : List Char} (h : ∀ c ∈ blanks, isBlank c = true) :
    trim blanks = [] := by
  have hnone : (blanks ++ []).dropWhile isBlank = [] := dropWhile_blank h (by simp)
  rw [List.append_nil] at hnone
  rw [trim, hnone]
  rfl

/-- White space around a text does not change what is left of it. -/
theorem trim_of_blank_ends {before after cs : List Char} (hb : ∀ c ∈ before, isBlank c = true)
    (ha : ∀ c ∈ after, isBlank c = true) (hcs : ∀ c ∈ cs, isBlank c = false) :
    trim (before ++ cs ++ after) = cs := by
  cases cs with
  | nil =>
    rw [List.append_nil]
    exact trim_of_blank (List.forall_mem_append.mpr ⟨hb, ha⟩)
  | cons c cs =>
    have hfirst : ∀ d ∈ (c :: cs ++ after).head?, isBlank d = false := by
      rintro d ⟨⟩
      exact hcs c (.head _)
    have hlast : ∀ d ∈ (c :: cs).reverse.head?, isBlank d = false := fun d hd =>
      hcs d (List.mem_reverse.mp (List.mem_of_mem_head? hd))
    have hafter : ∀ d ∈ after.reverse, isBlank d = true := fun d hd =>
      ha d (List.mem_reverse.mp hd)
    rw [trim, List.append_assoc, dropWhile_blank hb hfirst, List.reverse_append,
      dropWhile_blank hafter hlast, List.reverse_reverse]

end SensorLink.Text

import SensorLink.Json.Printer
import SensorLink.Proofs.Json.Written

/-!
# What is printed is written

The compact text of a value has nothing between its tokens, and each token is printed in one of the
ways in which it can be written: a string with its quotes and escapes, an integer by its digits
without a zero in front. So

> **the text of a value is a way to write it** (`written_compact`),

and what reads every way to write a value reads what is printed (`ofText_compact`). That is said of
values with integers only. The text of a double is looked for digit by digit until it reads back,
and has no grammar to be held against.
-/

namespace SensorLink
namespace Json

/-! ## Strings -/

theorem charText_control :
    ∀ n < 32, Hex.value? (['0', '0'] ++ (Hex.fixedDigits 2 n).map Char.toLower) = some n := by
  decide

theorem charText_escape (c : Char) : CharText c (escape c) := by
  unfold escape
  -- The escapes with a letter of their own come first.
  iterate 7
    split
    · subst c
      exact .short (by decide)
  split
  · rename_i hcontrol
    have hlt : c.toNat < 32 := hcontrol
    have hunit := CharText.unit (charText_control c.toNat hlt) (.inl (by omega))
    rwa [Char.ofNat_toNat] at hunit
  · rename_i hquote hescape _ _ _ _ _ hcontrol
    exact .plain hquote hescape (Char.not_lt.mp hcontrol)

theorem stringText_escape (cs : List Char) : StringText cs (cs.flatMap escape) := by
  induction cs with
  | nil => exact .nil
  | cons c cs ih => exact .cons (charText_escape c) ih

theorem lexeme_quote (s : String) : Lexeme (.string s) (quote s).toList := by
  have hstring := Lexeme.string (stringText_escape s.toList)
  rw [String.ofList_toList] at hstring
  rw [quote, String.toList_ofList]
  exact hstring

/-! ## Integers -/

theorem digitChar_eq : ∀ d < 10, Nat.digitChar d = Hex.digit d := by decide

theorem takeWhole_append_digit {n m d : Nat} {ds : List Nat}
    (h : Number.takeWhole n ds = (m, 0)) (hd : m * 10 + d < Number.limit) :
    Number.takeWhole n (ds ++ [d]) = (m * 10 + d, 0) := by
  induction ds generalizing n with
  | nil =>
    cases h
    rw [List.nil_append, Number.takeWhole, if_neg (Nat.not_le.mpr hd), Number.takeWhole]
  | cons e ds ih =>
    rw [Number.takeWhole] at h
    rw [List.cons_append, Number.takeWhole]
    split
    · rename_i hlarge
      rw [if_pos hlarge] at h
      cases h
    · rename_i hsmall
      rw [if_neg hsmall] at h
      exact ih h

/-- The digits of a number: none is too many, and there is no zero in front. -/
theorem exists_digits {n : Nat} (hn : n < Number.limit) :
    ∃ ds, Nat.toDigits 10 n = digitsText ds ∧ AreDigits ds ∧ (ds.head? = some 0 → n = 0) ∧
      (n = 0 → ds = [0]) ∧ Number.takeWhole 0 ds = (n, 0) := by
  -- From the last digit to the first, as the number is printed.
  induction n using Nat.strongRecOn with
  | ind n ih =>
    by_cases hsmall : n < 10
    · refine ⟨[n], ?_, ⟨by simp, by simpa using hsmall⟩, by simp, by simp, ?_⟩
      · rw [Nat.toDigits_of_lt_base hsmall, digitChar_eq n hsmall]
        rfl
      · have hlimit : ¬ Number.limit ≤ 0 * 10 + n := by omega
        rw [Number.takeWhole, if_neg hlimit, Number.takeWhole, Nat.zero_mul, Nat.zero_add]
    · have hlast : n % 10 < 10 := Nat.mod_lt n (by decide)
      have hsum : n / 10 * 10 + n % 10 = n := Nat.div_add_mod' n 10
      obtain ⟨ds, htext, ⟨hne, hdigits⟩, hhead, -, hwhole⟩ := ih (n / 10) (by omega) (by omega)
      refine ⟨ds ++ [n % 10], ?_, ⟨by simp, ?_⟩, ?_, by omega, ?_⟩
      · rw [Nat.toDigits_of_base_le (by decide) (Nat.le_of_not_lt hsmall), htext,
          digitChar_eq _ hlast, digitsText, digitsText, List.map_append]
        rfl
      · intro d hd
        rcases List.mem_append.mp hd with hd | hd
        · exact hdigits d hd
        · rw [List.mem_singleton.mp hd]
          exact hlast
      · -- A zero in front would be a zero in front of all digits but the last.
        obtain ⟨d, ds, rfl⟩ := List.exists_cons_of_ne_nil hne
        intro hzero
        have hnone := hhead hzero
        omega
      · have happend := takeWhole_append_digit hwhole (hsum.symm ▸ hn)
        rwa [hsum] at happend

/-- Whole numbers that fit. -/
def Number.isWhole : Number → Bool
  | .natural n => n < 2 ^ 64
  | .negative n => 0 < n && n ≤ 2 ^ 63
  | .real _ => false

/-- A whole number is printed as digits alone, and they have no zero in front. -/
theorem exists_unsignedText {m : Nat} (isNegative : Bool) (hm : m < Number.limit) :
    ∃ l : Number.Literal, l.UnsignedText (toString m).toList ∧ l.negative = isNegative ∧
      l.fraction = none ∧ l.exponent = none ∧ Number.takeWhole 0 l.whole = (m, 0) := by
  obtain ⟨ds, htext, hdigits, hhead, hzero, hwhole⟩ := exists_digits hm
  refine ⟨⟨isNegative, ds, none, none⟩, ?_, rfl, rfl, rfl, hwhole⟩
  have htoList : (toString m).toList = digitsText ds ++ ([] ++ []) := by
    rw [List.append_nil, List.append_nil, ← htext]
    exact Nat.toList_repr
  rw [htoList]
  exact .intro hdigits (fun h => hzero (hhead h)) .none .none

theorem lexeme_number {n : Number} (h : n.isWhole = true) : Lexeme (.number n) n.text.toList := by
  cases n with
  | natural m =>
    obtain ⟨l, htext, hsign, hfraction, hexponent, hwhole⟩ :=
      exists_unsignedText false (of_decide_eq_true h)
    refine .unsigned htext hsign ?_
    simp only [Number.Literal.toNumber?, hfraction, hexponent, hwhole, hsign]
    rfl
  | negative m =>
    obtain ⟨hpos, hle⟩ : 0 < m ∧ m ≤ 2 ^ 63 := by simpa [Number.isWhole] using h
    have hlimit : m < Number.limit := by
      have : Number.limit = 2 ^ 64 := rfl
      omega
    obtain ⟨l, htext, hsign, hfraction, hexponent, hwhole⟩ :=
      exists_unsignedText true hlimit
    rw [Number.text, String.toList_append]
    refine .signed htext hsign ?_
    simp only [Number.Literal.toNumber?, hfraction, hexponent, hwhole, hsign, hpos, hle]
    rfl
  | real => cases h

/-! ## Values -/

mutual
/-- All numbers are whole. -/
def isWhole : Json → Bool
  | .number n => n.isWhole
  | .array items => itemsWhole items
  | .object members => membersWhole members
  | .null | .bool _ | .string _ => true

/-- `isWhole` of every item. -/
def itemsWhole : List Json → Bool
  | [] => true
  | item :: rest => isWhole item && itemsWhole rest

/-- `isWhole` of every member's value. -/
def membersWhole : List (String × Json) → Bool
  | [] => true
  | (_, value) :: rest => isWhole value && membersWhole rest
end

/-- Punctuation ends a number. -/
theorem follows_cons {c : Char} (h : c = ',' ∨ c = ']' ∨ c = '\x7d') (cs : List Char) :
    Follows (c :: cs) := by
  rintro _ ⟨⟩
  rcases h with rfl | rfl | rfl <;> decide

theorem laid_string (s : String) {tokens : List Token} {cs : List Char} (h : Laid tokens cs) :
    Laid (.string s :: tokens) ((quote s).toList ++ cs) := .token (lexeme_quote s) nofun h

mutual
/-- By the structure of the value; what comes after it must not run on a number at its end. -/
theorem laid_compact {tokens : List Token} {cs : List Char} : ∀ v : Json, v.isWhole = true →
    Follows cs → Laid tokens cs → Laid (v.tokens ++ tokens) (v.compact.toList ++ cs)
  | .null, _, _, h => .token .null nofun h
  | .bool true, _, _, h => .token .true nofun h
  | .bool false, _, _, h => .token .false nofun h
  | .number _, hwhole, hfollows, h => .token (lexeme_number hwhole) (fun _ _ => hfollows) h
  | .string s, _, _, h => laid_string s h
  | .array [], _, _, h => by
    show Laid (.beginArray :: .endArray :: tokens) ('[' :: ']' :: cs)
    exact .token .beginArray nofun (.token .endArray nofun h)
  | .object [], _, _, h => by
    show Laid (.beginObject :: .endObject :: tokens) ('\x7b' :: '\x7d' :: cs)
    exact .token .beginObject nofun (.token .endObject nofun h)
  | .array (item :: items), hwhole, _, h => by
    have hitems := laid_compactItems (item :: items) hwhole h item items rfl
    rw [Json.tokens, compact, compactItems]
    simp only [String.toList_append, List.append_assoc, List.cons_append] at hitems ⊢
    exact .token .beginArray nofun hitems
  | .object ((key, v) :: members), hwhole, _, h => by
    have hmembers := laid_compactMembers ((key, v) :: members) hwhole h key v members rfl
    rw [Json.tokens, compact, compactMembers]
    simp only [String.toList_append, List.append_assoc, List.cons_append] at hmembers ⊢
    exact .token .beginObject nofun hmembers

/-- A comma stands between two items and none behind the last. So a list is laid out from its second
item on, and the first one is given. -/
theorem laid_compactItems {tokens : List Token} {cs : List Char} : ∀ items : List Json,
    itemsWhole items = true → Laid tokens cs → ∀ item rest, items = item :: rest →
      Laid (item.tokens ++ (itemTokens rest ++ tokens))
        ((",".intercalate (item.compact :: compactItems rest) ++ "]").toList ++ cs)
  | [], _, _, _, _, hnil => nomatch hnil
  | [item], hwhole, h, _, _, rfl => by
    obtain ⟨hitem, -⟩ := Bool.and_eq_true_iff.mp hwhole
    have hend : Laid (.endArray :: tokens) (']' :: cs) := .token .endArray nofun h
    have hlaid := laid_compact item hitem (follows_cons (by simp) cs) hend
    simpa [compactItems, itemTokens] using hlaid
  | item :: next :: items, hwhole, h, _, _, rfl => by
    obtain ⟨hitem, hrest⟩ := Bool.and_eq_true_iff.mp hwhole
    have hlater := laid_compactItems (next :: items) hrest h next items rfl
    have hcomma := Laid.token Lexeme.comma nofun hlater
    have hlaid := laid_compact item hitem (follows_cons (by simp) _) hcomma
    simpa [compactItems, itemTokens, String.intercalate_cons_cons] using hlaid

theorem laid_compactMembers {tokens : List Token} {cs : List Char} :
    ∀ members : List (String × Json), membersWhole members = true → Laid tokens cs →
      ∀ key v rest, members = (key, v) :: rest →
        Laid (.string key :: .colon :: (v.tokens ++ (memberTokens rest ++ tokens)))
          ((",".intercalate ((quote key ++ ":" ++ v.compact) :: compactMembers rest)
            ++ "\x7d").toList ++ cs)
  | [], _, _, _, _, _, hnil => nomatch hnil
  | [(key, v)], hwhole, h, _, _, _, rfl => by
    obtain ⟨hv, -⟩ := Bool.and_eq_true_iff.mp hwhole
    have hend : Laid (.endObject :: tokens) ('\x7d' :: cs) := .token .endObject nofun h
    have hlaid := laid_compact v hv (follows_cons (by simp) cs) hend
    have hmember := laid_string key (Laid.token Lexeme.colon nofun hlaid)
    simpa [compactMembers, memberTokens] using hmember
  | (key, v) :: (next, value) :: members, hwhole, h, _, _, _, rfl => by
    obtain ⟨hv, hrest⟩ := Bool.and_eq_true_iff.mp hwhole
    have hlater := laid_compactMembers ((next, value) :: members) hrest h next value members rfl
    have hcomma := Laid.token Lexeme.comma nofun hlater
    have hlaid := laid_compact v hv (follows_cons (by simp) _) hcomma
    have hmember := laid_string key (Laid.token Lexeme.colon nofun hlaid)
    simpa [compactMembers, memberTokens, String.intercalate_cons_cons] using hmember
end

/-- **What is printed is a way to write the value.** -/
theorem written_compact {v : Json} (h : v.isWhole = true) : Written v v.compact := by
  have hnothing : Follows [] := fun c hc => nomatch hc
  have hlaid := laid_compact v h hnothing Laid.nil
  rwa [List.append_nil, List.append_nil] at hlaid

/-- What is printed is read back, unless it goes too deep. -/
theorem ofText_compact {v : Json} (h : v.isWhole = true) (hdepth : v.depth ≤ Document.maxDepth) :
    Document.ofText v.compact = (v.document, true) :=
  Document.ofText_written (written_compact h) hdepth

end Json
end SensorLink

import SensorLink.Json.Token
import SensorLink.Proofs.Text.Digits

/-!
# How the tokens of a JSON text are written

A bracket is written in one way. A number can have a point and an exponent, and each character of a
string can be escaped in one way or another, so these tokens have many texts. `Lexeme` is the grammar
of all of them, and

> **each of these texts is read as its token** (`next?_lexeme`), whatever comes after it, unless a
> number runs on in what follows.
-/

namespace SensorLink.Json

/-! ## Numbers -/

/-- Digits as they are written. -/
def digitsText (ds : List Nat) : List Char := ds.map Hex.digit

/-- There are digits, and they are decimal. -/
def AreDigits (ds : List Nat) : Prop := ds ≠ [] ∧ ∀ d ∈ ds, d < 10

namespace Number.Literal

/-- The part behind the point, if there is one. -/
inductive FractionText : Option (List Nat) → List Char → Prop
  | none : FractionText none []
  | some {ds : List Nat} (hds : AreDigits ds) : FractionText (some ds) ('.' :: digitsText ds)

inductive ExponentText : Option Int → List Char → Prop
  | none : ExponentText none []
  | positive {mark : Char} {sign : List Char} {ds : List Nat} (hmark : mark = 'e' ∨ mark = 'E')
      (hsign : sign = [] ∨ sign = ['+']) (hds : AreDigits ds) :
    ExponentText (some (Token.valueOf ds)) (mark :: (sign ++ digitsText ds))
  | negative {mark : Char} {ds : List Nat} (hmark : mark = 'e' ∨ mark = 'E') (hds : AreDigits ds) :
    ExponentText (some (-(Token.valueOf ds : Int))) (mark :: '-' :: digitsText ds)

/-- A number without its sign. It has no zero in front but the one before a point. -/
inductive UnsignedText : Literal → List Char → Prop
  | intro {negative : Bool} {whole : List Nat} {fraction : Option (List Nat)} {exponent : Option Int}
      {cs cs' : List Char} (hwhole : AreDigits whole) (hzero : whole.head? = some 0 → whole = [0])
      (hfraction : FractionText fraction cs) (hexponent : ExponentText exponent cs') :
    UnsignedText ⟨negative, whole, fraction, exponent⟩ (digitsText whole ++ (cs ++ cs'))

end Number.Literal

/-! ## Strings -/

/-- The letters of short escapes, and what they stand for. -/
def shortEscapes : List (Char × Char) :=
  [('"', '"'), ('\\', '\\'), ('/', '/'), ('b', '\x08'), ('f', '\x0c'), ('n', '\n'), ('r', '\r'),
    ('t', '\t')]

/-- A character inside a string. -/
inductive CharText : Char → List Char → Prop
  | plain {c : Char} (hquote : c ≠ '"') (hescape : c ≠ '\\') (hcontrol : ' ' ≤ c) : CharText c [c]
  | short {letter c : Char} (h : (letter, c) ∈ shortEscapes) : CharText c ['\\', letter]
  /-- By its number, four digits long. -/
  | unit {a b c d : Char} {n : Nat} (h : Hex.value? [a, b, c, d] = some n)
      (hsurrogate : n < 0xD800 ∨ 0xDFFF < n) : CharText (Char.ofNat n) ['\\', 'u', a, b, c, d]
  /-- By the two halves of a number that needs more digits. -/
  | pair {a b c d a' b' c' d' : Char} {high low : Nat} (hhigh : Hex.value? [a, b, c, d] = some high)
      (hlow : Hex.value? [a', b', c', d'] = some low) (hfirst : 0xD800 ≤ high ∧ high ≤ 0xDBFF)
      (hsecond : 0xDC00 ≤ low ∧ low ≤ 0xDFFF) :
    CharText (Char.ofNat (0x10000 + (high - 0xD800) * 0x400 + (low - 0xDC00)))
      ['\\', 'u', a, b, c, d, '\\', 'u', a', b', c', d']

/-- The inside of a string. -/
inductive StringText : List Char → List Char → Prop
  | nil : StringText [] []
  | cons {c : Char} {s cs rest : List Char} (hc : CharText c cs) (hrest : StringText s rest) :
    StringText (c :: s) (cs ++ rest)

/-! ## Tokens -/

/-- The texts of a token. -/
inductive Lexeme : Token → List Char → Prop
  | beginArray : Lexeme .beginArray ['[']
  | endArray : Lexeme .endArray [']']
  | beginObject : Lexeme .beginObject ['\x7b']
  | endObject : Lexeme .endObject ['\x7d']
  | colon : Lexeme .colon [':']
  | comma : Lexeme .comma [',']
  | null : Lexeme .null ['n', 'u', 'l', 'l']
  | true : Lexeme (.bool true) ['t', 'r', 'u', 'e']
  | false : Lexeme (.bool false) ['f', 'a', 'l', 's', 'e']
  | unsigned {l : Number.Literal} {n : Number} {cs : List Char} (hcs : l.UnsignedText cs)
      (hsign : l.negative = Bool.false) (hn : l.toNumber? = some n) : Lexeme (.number n) cs
  | signed {l : Number.Literal} {n : Number} {cs : List Char} (hcs : l.UnsignedText cs)
      (hsign : l.negative = Bool.true) (hn : l.toNumber? = some n) : Lexeme (.number n) ('-' :: cs)
  | string {s cs : List Char} (hcs : StringText s cs) :
    Lexeme (.string (String.ofList s)) ('"' :: (cs ++ ['"']))

/-- No number runs on in a text. -/
def Follows (cs : List Char) : Prop :=
  ∀ c ∈ cs.head?, Token.digit? c = none ∧ c ≠ '.' ∧ c ≠ 'e' ∧ c ≠ 'E'

namespace Token

/-! ## Reading numbers -/

theorem digit?_digit : ∀ d < 10, digit? (Hex.digit d) = some d := by decide

/-- Digits are read up to the first character that is none, so what stands behind has to begin with
such a character. -/
theorem digits_digitsText {ds : List Nat} (hds : ∀ d ∈ ds, d < 10) {rest : List Char}
    (hrest : ∀ c ∈ rest.head?, digit? c = none) : digits (digitsText ds ++ rest) = (ds, rest) := by
  induction ds with
  | nil =>
    cases rest with
    | nil => rfl
    | cons c rest => simp only [digitsText, List.map_nil, List.nil_append, digits, hrest c rfl]
  | cons d ds ih =>
    have hd := digit?_digit d (hds d (.head _))
    have hrest := ih fun other hother => hds other (.tail _ hother)
    simp only [digitsText, List.map_cons, List.cons_append, digits, hd] at hrest ⊢
    rw [hrest]

theorem fraction?_fractionText {fraction : Option (List Nat)} {cs rest : List Char}
    (h : Number.Literal.FractionText fraction cs) (hrest : ∀ c ∈ rest.head?, digit? c = none)
    (hpoint : rest.head? ≠ some '.') : fraction? (cs ++ rest) = some (fraction, rest) := by
  cases h with
  | none =>
    rw [List.nil_append]
    unfold fraction?
    split
    · exact absurd rfl hpoint
    · rfl
  | @some ds hds =>
    rw [List.cons_append, fraction?, digits_digitsText hds.2 hrest]
    obtain ⟨d, ds, rfl⟩ := List.exists_cons_of_ne_nil hds.1
    rfl

theorem exponentDigits?_digitsText (isNegative : Bool) {ds : List Nat} (hds : AreDigits ds)
    {rest : List Char} (hrest : ∀ c ∈ rest.head?, digit? c = none) :
    exponentDigits? isNegative (digitsText ds ++ rest) =
      some (some (if isNegative then -(valueOf ds : Int) else valueOf ds), rest) := by
  rw [exponentDigits?, digits_digitsText hds.2 hrest]
  obtain ⟨d, ds, rfl⟩ := List.exists_cons_of_ne_nil hds.1
  rfl

theorem exponent?_digitsText {mark : Char} (hmark : mark = 'e' ∨ mark = 'E') {ds : List Nat}
    (hds : AreDigits ds) (rest : List Char) :
    exponent? (mark :: (digitsText ds ++ rest)) = exponentDigits? false (digitsText ds ++ rest) := by
  obtain ⟨d, ds, rfl⟩ := List.exists_cons_of_ne_nil hds.1
  have hd : d < 10 := hds.2 d (.head _)
  have hall : ∀ d < 10, Hex.digit d ≠ '+' ∧ Hex.digit d ≠ '-' := by decide
  obtain ⟨hplus, hminus⟩ := hall d hd
  simp only [digitsText, List.map_cons, List.cons_append]
  rcases hmark with rfl | rfl <;> unfold exponent? <;> split <;> simp_all

/-- A number without an exponent must not be followed by the letter that begins one. -/
theorem exponent?_exponentText {exponent : Option Int} {cs rest : List Char}
    (h : Number.Literal.ExponentText exponent cs) (hrest : Follows rest) :
    exponent? (cs ++ rest) = some (exponent, rest) := by
  have hdigit : ∀ c ∈ rest.head?, digit? c = none := fun c hc => (hrest c hc).1
  cases h with
  | none =>
    rw [List.nil_append]
    unfold exponent?
    split
    case h_7 => rfl
    all_goals
      have hfollows := hrest _ rfl
      simp at hfollows
  | positive hmark hsign hds =>
    rcases hsign with rfl | rfl
    · rw [List.nil_append, List.cons_append, exponent?_digitsText hmark hds,
        exponentDigits?_digitsText false hds hdigit]
      rfl
    · have hread := exponentDigits?_digitsText false hds hdigit
      rcases hmark with rfl | rfl <;> exact hread
  | negative hmark hds =>
    have hread := exponentDigits?_digitsText true hds hdigit
    rcases hmark with rfl | rfl <;> exact hread

/-- What comes after the point or the exponent mark is looked at later. -/
theorem head?_fractionText {fraction : Option (List Nat)} {cs rest : List Char}
    (h : Number.Literal.FractionText fraction cs) (hrest : ∀ c ∈ rest.head?, digit? c = none) :
    ∀ c ∈ (cs ++ rest).head?, digit? c = none := by
  cases h with
  | none => exact hrest
  | some =>
    rintro c ⟨⟩
    rfl

theorem head?_exponentText {exponent : Option Int} {cs rest : List Char}
    (h : Number.Literal.ExponentText exponent cs) (hrest : Follows rest) :
    (∀ c ∈ (cs ++ rest).head?, digit? c = none) ∧ (cs ++ rest).head? ≠ some '.' := by
  have hmarked {mark : Char} {cs : List Char} (hmark : mark = 'e' ∨ mark = 'E') :
      (∀ c ∈ (mark :: cs).head?, digit? c = none) ∧ (mark :: cs).head? ≠ some '.' := by
    rcases hmark with rfl | rfl <;> refine ⟨?_, by simp⟩ <;> rintro c ⟨⟩ <;> rfl
  cases h with
  | none => exact ⟨fun c hc => (hrest c hc).1, fun hpoint => (hrest '.' hpoint).2.1 rfl⟩
  | positive hmark => exact hmarked hmark
  | negative hmark => exact hmarked hmark

/-- The parts of a number are read one after the other, and each has to stop where the next one
begins. -/
theorem unsigned?_unsignedText {l : Number.Literal} {n : Number} {cs rest : List Char}
    (h : l.UnsignedText cs) (hn : l.toNumber? = some n) (hrest : Follows rest) :
    unsigned? l.negative (cs ++ rest) = some (n, rest) := by
  cases h with
  | @intro negative whole fraction exponent fractionText exponentText hwhole hzero hfraction
      hexponent =>
    obtain ⟨hafter, hpoint⟩ := head?_exponentText hexponent hrest
    have hdigits := digits_digitsText hwhole.2 (head?_fractionText hfraction hafter)
    have hnumber : digits (digitsText whole ++ (fractionText ++ exponentText) ++ rest) =
        (whole, fractionText ++ (exponentText ++ rest)) := by
      simpa only [List.append_assoc] using hdigits
    have hleading : ∀ d ds, whole ≠ 0 :: d :: ds := by
      rintro d ds rfl
      cases hzero rfl
    simp only [unsigned?, hnumber, Option.bind_eq_bind]
    split
    · rename_i heq
      cases heq
      exact absurd rfl hwhole.1
    · rename_i heq
      cases heq
      exact absurd rfl (hleading _ _)
    · simp only [Option.bind_some, fraction?_fractionText hfraction hafter hpoint,
        exponent?_exponentText hexponent hrest, hn]
      rfl

theorem exists_digit_of_unsignedText {l : Number.Literal} {cs : List Char} (h : l.UnsignedText cs) :
    ∃ d rest, d < 10 ∧ cs = Hex.digit d :: rest := by
  cases h with
  | intro hwhole =>
    obtain ⟨d, ds, rfl⟩ := List.exists_cons_of_ne_nil hwhole.1
    exact ⟨d, _, hwhole.2 d (.head _), rfl⟩

/-! ## Reading strings -/

theorem hex4?_eq_value? (a b c d : Char) : hex4? a b c d = Hex.value? [a, b, c, d] := by
  unfold hex4? Hex.value?
  simp only [List.foldl_cons, List.foldl_nil]
  cases Hex.digitValue? a <;> cases Hex.digitValue? b <;> cases Hex.digitValue? c <;>
    cases Hex.digitValue? d <;> simp [Nat.mul_comm]

theorem escaped?_of_mem {letter c : Char} (h : (letter, c) ∈ shortEscapes) :
    letter ≠ 'u' ∧ escaped? letter = some c := by
  have hall : ∀ p ∈ shortEscapes, p.1 ≠ 'u' ∧ escaped? p.1 = some p.2 := by decide
  exact hall _ h

/-- Each way to write a character is read as that character, whatever the characters before it. -/
theorem string?_charText {c : Char} {cs : List Char} (h : CharText c cs) (seen rest : List Char) :
    string? seen none (cs ++ rest) = string? (c :: seen) none rest := by
  cases h with
  | plain hquote hescape hcontrol =>
    have hlow : ¬ c < ' ' := by
      rw [Char.not_lt]
      exact hcontrol
    simp [string?, hquote, hescape, hlow]
  | @short letter _ h =>
    obtain ⟨hu, hescaped⟩ := escaped?_of_mem h
    simp [string?, hu, hescaped]
  | @unit _ _ _ _ n h hsurrogate =>
    have hhigh : isHigh n = false := by
      simp only [isHigh, Bool.and_eq_false_iff, decide_eq_false_iff_not]
      omega
    have hlow : isLow n = false := by
      simp only [isLow, Bool.and_eq_false_iff, decide_eq_false_iff_not]
      omega
    simp [string?, hex4?_eq_value?, h, hhigh, hlow]
  | @pair _ _ _ _ _ _ _ _ high low h h' hfirst hsecond =>
    have hhigh : isHigh high = true := by simp [isHigh, hfirst]
    have hlow : isLow low = true := by simp [isLow, hsecond]
    simp [string?, hex4?_eq_value?, h, h', hhigh, hlow, pair]

/-- A quotation mark ends a text, and inside it stands behind a backslash. -/
theorem string?_stringText {s cs : List Char} (h : StringText s cs) (seen rest : List Char) :
    string? seen none (cs ++ '"' :: rest) = some (String.ofList (seen.reverse ++ s), rest) := by
  induction h generalizing seen with
  | nil => simp [string?]
  | cons hc _ ih =>
    rw [List.append_assoc, string?_charText hc, ih, List.reverse_cons, List.append_assoc]
    rfl

/-! ## Reading tokens -/

theorem next?_digit (d : Nat) (hd : d < 10) (rest : List Char) :
    next? (Hex.digit d :: rest) =
      (unsigned? false (Hex.digit d :: rest)).map fun (n, after) => (.number n, after) := by
  match d with
  | 0 | 1 | 2 | 3 | 4 | 5 | 6 | 7 | 8 | 9 => rfl
  | _ + 10 => omega

/-- **Each text of a token is read as the token.** -/
theorem next?_lexeme {token : Token} {cs rest : List Char} (h : Lexeme token cs)
    (hrest : ∀ n, token = .number n → Follows rest) : next? (cs ++ rest) = some (token, rest) := by
  cases h with
  | @unsigned l n cs hcs hsign hn =>
    have hread := unsigned?_unsignedText hcs hn (hrest n rfl)
    obtain ⟨d, after, hd, rfl⟩ := exists_digit_of_unsignedText hcs
    rw [hsign] at hread
    rw [List.cons_append, next?_digit d hd, ← List.cons_append, hread]
    rfl
  | @signed l n cs hcs hsign hn =>
    have hread := unsigned?_unsignedText hcs hn (hrest n rfl)
    rw [hsign] at hread
    rw [List.cons_append, next?, hread]
    rfl
  | @string s cs hcs =>
    have hread := string?_stringText hcs [] rest
    rw [List.cons_append, next?, List.append_assoc, List.singleton_append, hread]
    rfl
  | _ => rfl

/-- No token begins with white space. -/
theorem exists_cons_of_lexeme {token : Token} {cs : List Char} (h : Lexeme token cs) :
    ∃ c rest, cs = c :: rest ∧ isBlank c = false := by
  cases h with
  | unsigned hcs =>
    obtain ⟨d, after, hd, rfl⟩ := exists_digit_of_unsignedText hcs
    have hall : ∀ d < 10, isBlank (Hex.digit d) = false := by decide
    exact ⟨_, _, rfl, hall d hd⟩
  | _ => exact ⟨_, _, rfl, rfl⟩

end Token
end SensorLink.Json

import SensorLink.Json.Document
import SensorLink.Proofs.Json.Lexeme

/-!
# How a value is written

A value is written as its tokens one after the other, with white space wherever the writer likes to
have it: `Written` is that grammar. The reader knows nothing of it. It takes a text apart from the
left, with a count of steps so that it ends and a count of levels so that it does not go too deep,
and still

> **a text is read as the value that it was written for** (`ofText_written`).

A value that goes too deep is not read, and then what has been read is visibly not all of it
(`ofText_deep`).
-/

namespace SensorLink
namespace Json

/-! ## The grammar -/

mutual
/-- The tokens of a value. -/
def tokens : Json → List Token
  | .null => [.null]
  | .bool b => [.bool b]
  | .number n => [.number n]
  | .string s => [.string s]
  | .array [] => [.beginArray, .endArray]
  | .array (item :: rest) => .beginArray :: (tokens item ++ itemTokens rest)
  | .object [] => [.beginObject, .endObject]
  | .object ((key, value) :: rest) =>
    .beginObject :: .string key :: .colon :: (tokens value ++ memberTokens rest)

/-- The tokens of the items behind the first, up to the end of their array. -/
def itemTokens : List Json → List Token
  | [] => [.endArray]
  | item :: rest => .comma :: (tokens item ++ itemTokens rest)

/-- The tokens of the members behind the first, up to the end of their object. -/
def memberTokens : List (String × Json) → List Token
  | [] => [.endObject]
  | (key, value) :: rest => .comma :: .string key :: .colon :: (tokens value ++ memberTokens rest)
end

/-- A text is tokens with white space around them. -/
inductive Laid : List Token → List Char → Prop
  | nil : Laid [] []
  | blank {c : Char} {tokens : List Token} {cs : List Char} (hc : Token.isBlank c = true)
      (h : Laid tokens cs) : Laid tokens (c :: cs)
  | token {token : Token} {lexeme : List Char} {tokens : List Token} {cs : List Char}
      (hlexeme : Lexeme token lexeme) (hfollows : ∀ n, token = .number n → Follows cs)
      (h : Laid tokens cs) : Laid (token :: tokens) (lexeme ++ cs)

/-- The text is a way to write the value. -/
def Written (value : Json) (text : String) : Prop := Laid value.tokens text.toList

mutual
/-- How deep arrays and objects stand in one another. -/
def depth : Json → Nat
  | .array items => itemsDepth items + 1
  | .object members => membersDepth members + 1
  | _ => 0

/-- The depth of the deepest item. -/
def itemsDepth : List Json → Nat
  | [] => 0
  | item :: rest => max (depth item) (itemsDepth rest)

/-- The depth of the deepest value. -/
def membersDepth : List (String × Json) → Nat
  | [] => 0
  | (_, value) :: rest => max (depth value) (membersDepth rest)
end

mutual
/-- A value as it is read from a whole text. -/
def document : Json → Document
  | .null => .null
  | .bool b => .bool b
  | .number n => .number n
  | .string s => .string s
  | .array items => .array (itemDocuments items) true
  | .object members => .object (memberDocuments members) true

/-- `document` of every item. -/
def itemDocuments : List Json → List Document
  | [] => []
  | item :: rest => document item :: itemDocuments rest

/-- `document` of every member's value. -/
def memberDocuments : List (String × Json) → List (String × Document)
  | [] => []
  | (key, value) :: rest => (key, document value) :: memberDocuments rest
end

theorem itemDocuments_eq_map (items : List Json) : itemDocuments items = items.map document := by
  induction items with
  | nil => rfl
  | cons item rest ih => rw [itemDocuments, ih, List.map_cons]

theorem memberDocuments_eq_map (members : List (String × Json)) :
    memberDocuments members = members.map fun m => (m.1, document m.2) := by
  induction members with
  | nil => rfl
  | cons m rest ih => rw [memberDocuments, ih, List.map_cons]

theorem itemsDepth_append (items more : List Json) :
    itemsDepth (items ++ more) = max (itemsDepth items) (itemsDepth more) := by
  induction items with
  | nil => simp [itemsDepth]
  | cons item rest ih => simp [itemsDepth, ih, Nat.max_assoc]

theorem membersDepth_append (members more : List (String × Json)) :
    membersDepth (members ++ more) = max (membersDepth members) (membersDepth more) := by
  induction members with
  | nil => simp [membersDepth]
  | cons m rest ih => simp [membersDepth, ih, Nat.max_assoc]

/-! ## Tokens of a text -/

/-- There is fuel enough for every character, and no token takes less than one. -/
theorem scanUpTo_of_laid {tokens : List Token} {cs : List Char} (h : Laid tokens cs) {fuel : Nat}
    (hfuel : cs.length ≤ fuel) : Token.scanUpTo fuel cs = tokens := by
  -- A blank and a token both take a character at least, so the count of steps suffices.
  induction h generalizing fuel with
  | nil => cases fuel <;> rfl
  | blank hc _ ih =>
    cases fuel with
    | zero => cases hfuel
    | succ fuel =>
      rw [Token.scanUpTo, if_pos hc]
      exact ih (Nat.le_of_succ_le_succ hfuel)
  | @token token lexeme tokens cs hlexeme hfollows _ ih =>
    obtain ⟨c, rest, rfl, hc⟩ := Token.exists_cons_of_lexeme hlexeme
    have hnext := Token.next?_lexeme hlexeme hfollows
    rw [List.cons_append] at hfuel hnext ⊢
    cases fuel with
    | zero => cases hfuel
    | succ fuel =>
      have hlength : cs.length ≤ fuel := by
        rw [List.length_cons, List.length_append] at hfuel
        omega
      have hvisible : ¬ Token.isBlank c = true := by
        rw [hc]
        exact Bool.false_ne_true
      simp only [Token.scanUpTo, if_neg hvisible, hnext, ih hlength]

/-- White space leaves no trace, and neither does the way in which a token is written. -/
theorem scan_of_laid {tokens : List Token} {cs : List Char} (h : Laid tokens cs) :
    Token.scan cs = tokens := scanUpTo_of_laid h (Nat.le_refl _)

/-! ## Values of tokens -/

/-- A value does not begin with the end of a container. -/
theorem exists_first_token (v : Json) :
    ∃ token rest, v.tokens = token :: rest ∧ token ≠ .endArray ∧ token ≠ .endObject := by
  match v with
  | .null | .bool _ | .number _ | .string _ | .array [] | .array (_ :: _) | .object []
  | .object (_ :: _) => exact ⟨_, _, by rw [tokens], Token.noConfusion, Token.noConfusion⟩

theorem length_tokens_pos (v : Json) : 0 < v.tokens.length := by
  obtain ⟨token, rest, htokens, -⟩ := exists_first_token v
  rw [htokens]
  exact Nat.succ_pos _

namespace Document

/-- What is behind the bracket is read by a function of its own, with one level less to go. -/
theorem ofTokens_array (fuel room : Nat) (item : Json) (after : List Token) :
    ofTokens (fuel + 1) (room + 1) (.beginArray :: (item.tokens ++ after)) =
      (.array (itemsOfTokens fuel room (item.tokens ++ after)).1
        (itemsOfTokens fuel room (item.tokens ++ after)).2.1,
        (itemsOfTokens fuel room (item.tokens ++ after)).2.2) := by
  obtain ⟨token, rest, htokens, harray, -⟩ := exists_first_token item
  rw [htokens, List.cons_append, ofTokens]
  rintro later ⟨⟩
  exact harray rfl

/-! What is read in so many steps. Every step of the reader takes a token or goes one level down, so
the count of steps goes down with the value. -/

def ReadsValues (fuel : Nat) : Prop :=
  ∀ (v : Json) (room : Nat) (rest : List Token), v.depth ≤ room → 2 * v.tokens.length ≤ fuel →
    ofTokens fuel room (v.tokens ++ rest) = (v.document, rest)

def ReadsItems (fuel : Nat) : Prop :=
  ∀ (item : Json) (items : List Json) (room : Nat) (rest : List Token),
    itemsDepth (item :: items) ≤ room →
    2 * (item.tokens.length + (itemTokens items).length) + 1 ≤ fuel →
    itemsOfTokens fuel room (item.tokens ++ (itemTokens items ++ rest)) =
      (itemDocuments (item :: items), true, rest)

def ReadsMembers (fuel : Nat) : Prop :=
  ∀ (key : String) (v : Json) (members : List (String × Json)) (room : Nat) (rest : List Token),
    membersDepth ((key, v) :: members) ≤ room →
    2 * (v.tokens.length + (memberTokens members).length) + 1 ≤ fuel →
    membersOfTokens fuel room
        (.string key :: .colon :: (v.tokens ++ (memberTokens members ++ rest))) =
      (memberDocuments ((key, v) :: members), true, rest)

variable {fuel : Nat}

/-- With one more unit of fuel a value can hold what could be read with one less. The three of these
lemmas go up together. -/
theorem readsValues_succ (hitems : ReadsItems fuel) (hmembers : ReadsMembers fuel) :
    ReadsValues (fuel + 1) := by
  intro v room rest hroom hfuel
  match v, room with
  | .null, _ | .bool _, _ | .number _, _ | .string _, _ => simp [tokens, ofTokens, document]
  | .array items, 0 | .object members, 0 => simp [depth] at hroom
  | .array [], room + 1 => simp [tokens, ofTokens, document, itemDocuments]
  | .object [], room + 1 => simp [tokens, ofTokens, document, memberDocuments]
  | .array (item :: items), room + 1 =>
    simp only [tokens, List.length_cons, List.length_append] at hfuel
    have hread := hitems item items room rest (Nat.le_of_succ_le_succ hroom) (by omega)
    rw [tokens, List.cons_append, List.append_assoc, ofTokens_array, hread, document]
  | .object ((key, v) :: members), room + 1 =>
    simp only [tokens, List.length_cons, List.length_append] at hfuel
    have hread := hmembers key v members room rest (Nat.le_of_succ_le_succ hroom) (by omega)
    simp only [tokens, List.cons_append, List.append_assoc, ofTokens, hread, document]

theorem readsItems_succ (hvalues : ReadsValues fuel) (hitems : ReadsItems fuel) :
    ReadsItems (fuel + 1) := by
  intro item items room rest hroom hfuel
  obtain ⟨hfirst, hlater⟩ := Nat.max_le.mp hroom
  have hread := hvalues item room (itemTokens items ++ rest) hfirst (by omega)
  rw [itemsOfTokens, hread]
  cases items with
  | nil => simp [itemTokens, itemDocuments]
  | cons next items =>
    simp only [itemTokens, List.length_cons, List.length_append] at hfuel
    have hrest := hitems next items room rest hlater (by omega)
    simp only [itemTokens, List.cons_append, List.append_assoc, hrest, itemDocuments]

theorem readsMembers_succ (hvalues : ReadsValues fuel) (hmembers : ReadsMembers fuel) :
    ReadsMembers (fuel + 1) := by
  intro key v members room rest hroom hfuel
  obtain ⟨hfirst, hlater⟩ := Nat.max_le.mp hroom
  have hread := hvalues v room (memberTokens members ++ rest) hfirst (by omega)
  rw [membersOfTokens, hread]
  cases members with
  | nil => simp [memberTokens, memberDocuments]
  | cons next members =>
    obtain ⟨nextKey, nextValue⟩ := next
    simp only [memberTokens, List.length_cons, List.length_append] at hfuel
    have hrest := hmembers nextKey nextValue members room rest hlater (by omega)
    simp only [memberTokens, List.cons_append, List.append_assoc, hrest, memberDocuments]

/-- **A value that is not too deep is read from its tokens**, whatever follows. -/
theorem ofTokens_all (fuel : Nat) : ReadsValues fuel ∧ ReadsItems fuel ∧ ReadsMembers fuel := by
  induction fuel with
  | zero =>
    refine ⟨?_, ?_, ?_⟩
    · intro v room rest _ hfuel
      have hlength := length_tokens_pos v
      omega
    · intro item items room rest _ hfuel
      omega
    · intro key v members room rest _ hfuel
      omega
  | succ fuel ih =>
    obtain ⟨hvalues, hitems, hmembers⟩ := ih
    exact ⟨readsValues_succ hitems hmembers, readsItems_succ hvalues hitems,
      readsMembers_succ hvalues hmembers⟩

/-! ## Values that go too deep -/

/-- The next token opens a container, which ends none of those that are open. -/
def Opens (tokens : List Token) : Prop :=
  tokens.head? = some .beginArray ∨ tokens.head? = some .beginObject

/-- A list that cannot go on ends where it is, and is not closed. -/
theorem itemsOfTokens_opens {room : Nat} {tokens rest : List Token} {item : Document}
    (h : ofTokens fuel room tokens = (item, rest)) (hrest : Opens rest) :
    itemsOfTokens (fuel + 1) room tokens = ([item], false, rest) := by
  rw [itemsOfTokens, h]
  match rest with
  | .beginArray :: _ | .beginObject :: _ => rfl
  | [] => rcases hrest with hrest | hrest <;> cases hrest
  | .endArray :: _ | .comma :: _ => rcases hrest with hrest | hrest <;> cases hrest
  | .endObject :: _ | .colon :: _ | .null :: _ | .bool _ :: _ | .number _ :: _ | .string _ :: _
  | .broken :: _ => rfl

theorem membersOfTokens_opens {room : Nat} {key : String} {tokens rest : List Token}
    {value : Document} (h : ofTokens fuel room tokens = (value, rest)) (hrest : Opens rest) :
    membersOfTokens (fuel + 1) room (.string key :: .colon :: tokens) =
      ([(key, value)], false, rest) := by
  rw [membersOfTokens, h]
  match rest with
  | .beginArray :: _ | .beginObject :: _ => rfl
  | [] => rcases hrest with hrest | hrest <;> cases hrest
  | .endObject :: _ | .comma :: _ => rcases hrest with hrest | hrest <;> cases hrest
  | .endArray :: _ | .colon :: _ | .null :: _ | .bool _ :: _ | .number _ :: _ | .string _ :: _
  | .broken :: _ => rfl

/-! What is not read in so many steps: the reader stops at the container that is one too many, and
neither is any container around it closed. -/

def StopsInValues (fuel : Nat) : Prop :=
  ∀ (v : Json) (room : Nat) (rest : List Token), room < v.depth → 2 * v.tokens.length ≤ fuel →
    ∃ d more, ofTokens fuel room (v.tokens ++ rest) = (d, more) ∧ Opens more

def StopsInItems (fuel : Nat) : Prop :=
  ∀ (item : Json) (items : List Json) (room : Nat) (rest : List Token),
    room < itemsDepth (item :: items) →
    2 * (item.tokens.length + (itemTokens items).length) + 1 ≤ fuel → ∃ ds more,
      itemsOfTokens fuel room (item.tokens ++ (itemTokens items ++ rest)) = (ds, false, more) ∧
        Opens more

def StopsInMembers (fuel : Nat) : Prop :=
  ∀ (key : String) (v : Json) (members : List (String × Json)) (room : Nat) (rest : List Token),
    room < membersDepth ((key, v) :: members) →
    2 * (v.tokens.length + (memberTokens members).length) + 1 ≤ fuel → ∃ ds more,
      membersOfTokens fuel room
          (.string key :: .colon :: (v.tokens ++ (memberTokens members ++ rest))) =
        (ds, false, more) ∧ Opens more

/-- Too deep a value is given up at the level at which it is too deep, and the levels above it learn
of it one by one. -/
theorem stopsInValues_succ (hitems : StopsInItems fuel) (hmembers : StopsInMembers fuel) :
    StopsInValues (fuel + 1) := by
  intro v room rest hroom hfuel
  match v, room with
  | .null, _ | .bool _, _ | .number _, _ | .string _, _ => simp [depth] at hroom
  -- There is no room for a container, so this is where the reader stops.
  | .array [], 0 | .array (_ :: _), 0 =>
    simp only [tokens, List.cons_append]
    exact ⟨.broken, _, rfl, .inl rfl⟩
  | .object [], 0 | .object (_ :: _), 0 =>
    simp only [tokens, List.cons_append]
    exact ⟨.broken, _, rfl, .inr rfl⟩
  | .array [], room + 1 | .object [], room + 1 =>
    simp [depth, itemsDepth, membersDepth] at hroom
  -- There is room for this one, so that what is too deep is inside.
  | .array (item :: items), room + 1 =>
    simp only [tokens, List.length_cons, List.length_append] at hfuel
    obtain ⟨ds, more, hread, hmore⟩ :=
      hitems item items room rest (Nat.lt_of_succ_lt_succ hroom) (by omega)
    rw [tokens, List.cons_append, List.append_assoc, ofTokens_array, hread]
    exact ⟨_, more, rfl, hmore⟩
  | .object ((key, v) :: members), room + 1 =>
    simp only [tokens, List.length_cons, List.length_append] at hfuel
    obtain ⟨ds, more, hread, hmore⟩ :=
      hmembers key v members room rest (Nat.lt_of_succ_lt_succ hroom) (by omega)
    simp only [tokens, List.cons_append, List.append_assoc, ofTokens, hread]
    exact ⟨_, more, rfl, hmore⟩

theorem stopsInItems_succ (hvalues : StopsInValues fuel) (hitems : StopsInItems fuel) :
    StopsInItems (fuel + 1) := by
  intro item items room rest hroom hfuel
  -- Either the reader stops in this item, or the item is read and one behind it is too deep.
  by_cases hitem : item.depth ≤ room
  · have hread := (ofTokens_all fuel).1 item room (itemTokens items ++ rest) hitem (by omega)
    rw [itemsOfTokens, hread]
    cases items with
    | nil => exact absurd (Nat.max_le.mpr ⟨hitem, Nat.zero_le _⟩) (Nat.not_le.mpr hroom)
    | cons next items =>
      simp only [itemTokens, List.length_cons, List.length_append] at hfuel
      have hlater : room < itemsDepth (next :: items) := by
        rw [itemsDepth] at hroom
        omega
      obtain ⟨ds, more, hread, hmore⟩ := hitems next items room rest hlater (by omega)
      simp only [itemTokens, List.cons_append, List.append_assoc, hread]
      exact ⟨_, more, rfl, hmore⟩
  · obtain ⟨d, more, hread, hmore⟩ :=
      hvalues item room (itemTokens items ++ rest) (Nat.lt_of_not_le hitem) (by omega)
    exact ⟨_, more, itemsOfTokens_opens hread hmore, hmore⟩

theorem stopsInMembers_succ (hvalues : StopsInValues fuel) (hmembers : StopsInMembers fuel) :
    StopsInMembers (fuel + 1) := by
  intro key v members room rest hroom hfuel
  by_cases hvalue : v.depth ≤ room
  · have hread := (ofTokens_all fuel).1 v room (memberTokens members ++ rest) hvalue (by omega)
    rw [membersOfTokens, hread]
    cases members with
    | nil => exact absurd (Nat.max_le.mpr ⟨hvalue, Nat.zero_le _⟩) (Nat.not_le.mpr hroom)
    | cons next members =>
      obtain ⟨nextKey, nextValue⟩ := next
      simp only [memberTokens, List.length_cons, List.length_append] at hfuel
      have hlater : room < membersDepth ((nextKey, nextValue) :: members) := by
        rw [membersDepth] at hroom
        omega
      obtain ⟨ds, more, hread, hmore⟩ :=
        hmembers nextKey nextValue members room rest hlater (by omega)
      simp only [memberTokens, List.cons_append, List.append_assoc, hread]
      exact ⟨_, more, rfl, hmore⟩
  · obtain ⟨d, more, hread, hmore⟩ :=
      hvalues v room (memberTokens members ++ rest) (Nat.lt_of_not_le hvalue) (by omega)
    exact ⟨_, more, membersOfTokens_opens hread hmore, hmore⟩

/-- **A value that is too deep is read no further** than to the container that is one too many. -/
theorem ofTokens_all_deep (fuel : Nat) :
    StopsInValues fuel ∧ StopsInItems fuel ∧ StopsInMembers fuel := by
  induction fuel with
  | zero =>
    refine ⟨?_, ?_, ?_⟩
    · intro v room rest _ hfuel
      have hlength := length_tokens_pos v
      omega
    · intro item items room rest _ hfuel
      omega
    · intro key v members room rest _ hfuel
      omega
  | succ fuel ih =>
    obtain ⟨hvalues, hitems, hmembers⟩ := ih
    exact ⟨stopsInValues_succ hitems hmembers, stopsInItems_succ hvalues hitems,
      stopsInMembers_succ hvalues hmembers⟩

/-! ## Whole texts -/

/-- **A text is read as the value that it was written for**, if that does not go too deep. -/
theorem ofText_written {v : Json} {text : String} (h : Written v text)
    (hdepth : v.depth ≤ maxDepth) : ofText text = (v.document, true) := by
  have hread := (ofTokens_all (2 * v.tokens.length + 1)).1 v maxDepth [] hdepth (by omega)
  rw [List.append_nil] at hread
  rw [ofText, scan_of_laid h, read, hread]
  rfl

/-- What goes too deep is not read whole. -/
theorem ofText_deep {v : Json} {text : String} (h : Written v text) (hdepth : maxDepth < v.depth) :
    ∃ d, ofText text = (d, false) := by
  obtain ⟨d, more, hread, hmore⟩ :=
    (ofTokens_all_deep (2 * v.tokens.length + 1)).1 v maxDepth [] hdepth (by omega)
  rw [List.append_nil] at hread
  refine ⟨d, ?_⟩
  rw [ofText, scan_of_laid h, read, hread]
  cases more with
  | nil => rcases hmore with hmore | hmore <;> cases hmore
  | cons => rfl

end Document
end Json
end SensorLink

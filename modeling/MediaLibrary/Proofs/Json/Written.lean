import MediaLibrary.Proofs.Json.Token

/-!
# Json — a written value is read again

A value can be written in many ways, which differ in the blanks between its tokens;
`compact` and `pretty` are two of them. Whichever it is, reading the text gives the
value and stops behind it. Only binary numbers are left out here: their text is not
always the shortest of one number.

* `Json.node`, `Json.isExact` — what a value without binary numbers is read as;
* `ValueText` — the texts of a value;
* `readValue_text`, `readText_compact`, `readText_pretty` — they are read as it.
-/

namespace MediaLibrary.Json

-- ---------------------------------------------------------------------------
-- Values and nodes
-- ---------------------------------------------------------------------------

mutual

/-- There is no binary number in the value. -/
def isExact : Json → Bool
  | real _ => false
  | array items => areExact items
  | object members => membersExact members
  | null | bool _ | int _ | text _ => true

/-- There is no binary number in the items. -/
def areExact : List Json → Bool
  | [] => true
  | item :: items => item.isExact && areExact items

/-- There is no binary number in the members. -/
def membersExact : List (String × Json) → Bool
  | [] => true
  | (_, value) :: members => value.isExact && membersExact members

end

mutual

/-- What a value is read as; a binary number is left out. -/
def node : Json → Node
  | null => .null
  | bool b => .bool b
  | int n => .number (.ofInt n)
  | real _ => .absent
  | text s => .string (.ok s)
  | array items => .array (nodes items) .closed
  | object members => .object (memberNodes members) .closed

/-- What items are read as. -/
def nodes : List Json → List Node
  | [] => []
  | item :: items => item.node :: nodes items

/-- What members are read as. -/
def memberNodes : List (String × Json) → List (Except Fault String × Node)
  | [] => []
  | (key, value) :: members => (.ok key, value.node) :: memberNodes members

end

/-- Items are exact each for itself. -/
theorem areExact_iff {items : List Json} :
    areExact items = true ↔ ∀ item ∈ items, item.isExact = true := by
  induction items with
  | nil => simp [areExact]
  | cons item items ih => simp [areExact, ih]

theorem membersExact_iff {members : List (String × Json)} :
    membersExact members = true ↔ ∀ m ∈ members, m.2.isExact = true := by
  induction members with
  | nil => simp [membersExact]
  | cons m members ih => simp [membersExact, ih]

theorem memberNodes_eq_map (members : List (String × Json)) :
    memberNodes members = members.map fun m => (.ok m.1, m.2.node) := by
  induction members with
  | nil => rfl
  | cons m members ih => rw [memberNodes, ih, List.map_cons]

-- ---------------------------------------------------------------------------
-- Texts of a value
-- ---------------------------------------------------------------------------

mutual

/-- A text of a value, with any blanks between its tokens. -/
inductive ValueText : Node → List Char → Prop
  | null : ValueText .null "null".toList
  | bool (b : Bool) : ValueText (.bool b) (toString b).toList
  | int (n : Int) : ValueText (.number (.ofInt n)) (toString n).toList
  | text (s : String) : ValueText (.string (.ok s)) (stringText s)
  | noItems {gap : List Char} (hGap : IsGapText gap) :
      ValueText (.array [] .closed) ('[' :: (gap ++ [']']))
  | items {gap cs : List Char} {items : List Node} (hGap : IsGapText gap)
      (hItems : ItemsText items cs) : ValueText (.array items .closed) ('[' :: (gap ++ cs))
  | noMembers {gap : List Char} (hGap : IsGapText gap) :
      ValueText (.object [] .closed) ('\x7b' :: (gap ++ ['\x7d']))
  | members {gap cs : List Char} {members : List (Except Fault String × Node)}
      (hGap : IsGapText gap) (hMembers : MembersText members cs) :
      ValueText (.object members .closed) ('\x7b' :: (gap ++ cs))

/-- A text of one or more items up to and with the bracket that closes them. -/
inductive ItemsText : List Node → List Char → Prop
  | last {gap cs : List Char} {item : Node} (hItem : ValueText item cs) (hGap : IsGapText gap) :
      ItemsText [item] (cs ++ (gap ++ [']']))
  | more {gap gap' cs cs' : List Char} {item : Node} {items : List Node}
      (hItem : ValueText item cs) (hGap : IsGapText gap) (hGap' : IsGapText gap')
      (hItems : ItemsText items cs') :
      ItemsText (item :: items) (cs ++ (gap ++ ',' :: (gap' ++ cs')))

/-- A text of one or more members up to and with the brace that closes them. -/
inductive MembersText : List (Except Fault String × Node) → List Char → Prop
  | last (key : String) {colon gap cs : List Char} {value : Node} (hColon : IsGapText colon)
      (hValue : ValueText value cs) (hGap : IsGapText gap) :
      MembersText [(.ok key, value)] (stringText key ++ ':' :: (colon ++ (cs ++ (gap ++ ['\x7d']))))
  | more (key : String) {colon gap gap' cs cs' : List Char} {value : Node}
      {members : List (Except Fault String × Node)} (hColon : IsGapText colon)
      (hValue : ValueText value cs) (hGap : IsGapText gap) (hGap' : IsGapText gap')
      (hMembers : MembersText members cs') :
      MembersText ((.ok key, value) :: members)
        (stringText key ++ ':' :: (colon ++ (cs ++ (gap ++ ',' :: (gap' ++ cs')))))

end

/-- A value begins with its first token, which closes nothing. -/
theorem ValueText.head {node : Node} {cs : List Char} (h : ValueText node cs) :
    ∃ c tail, cs = c :: tail ∧ isGap c = false ∧ c ≠ ']' := by
  cases h with
  | null => exact ⟨'n', _, rfl, by decide, by decide⟩
  | bool b =>
    cases b
    · exact ⟨'f', _, rfl, by decide, by decide⟩
    · exact ⟨'t', _, rfl, by decide, by decide⟩
  | int n =>
    obtain ⟨c, tail, hText, hc⟩ := head_toString_int n
    exact ⟨c, tail, hText, isGap_of_beginsNumber hc, ne_of_beginsNumber hc (by decide)⟩
  | text s => exact ⟨'"', _, rfl, by decide, by decide⟩
  | noItems | items => exact ⟨'[', _, rfl, by decide, by decide⟩
  | noMembers | members => exact ⟨'\x7b', _, rfl, by decide, by decide⟩

/-- The same for the first of several items. -/
theorem ItemsText.head {items : List Node} {cs : List Char} (h : ItemsText items cs) :
    ∃ c tail, cs = c :: tail ∧ isGap c = false ∧ c ≠ ']' := by
  cases h with
  | last hItem | more hItem =>
    obtain ⟨c, tail, rfl, hGap, hBracket⟩ := hItem.head
    exact ⟨c, _, rfl, hGap, hBracket⟩

-- ---------------------------------------------------------------------------
-- Reading a text of a value
-- ---------------------------------------------------------------------------

/-- What opens neither an array nor an object is read as a scalar. -/
theorem readValue_scalar (fuel : Nat) {c : Char} (hGap : isGap c = false) (hArray : c ≠ '[')
    (hObject : c ≠ '\x7b') (cs : List Char) :
    readValue (fuel + 1) (c :: cs) = readScalar (c :: cs) := by
  rw [readValue, skipGaps_cons hGap]
  split
  · rename_i h
    cases h
    exact absurd rfl hArray
  · rename_i h
    cases h
    exact absurd rfl hObject
  · rfl

theorem readValue_int (fuel : Nat) {rest : List Char} (hRest : Ends rest) (n : Int) :
    readValue (fuel + 1) ((toString n).toList ++ rest) = (.number (.ofInt n), some rest) := by
  rw [← readNumber_int hRest]
  obtain ⟨c, tail, hText, hc⟩ := head_toString_int n
  have hNotQuote : c ≠ '"' := ne_of_beginsNumber hc (by decide)
  have hNumber : (c == '-' || c.isDigit) = true := hc
  rw [hText, List.cons_append, readValue_scalar fuel (isGap_of_beginsNumber hc)
    (ne_of_beginsNumber hc (by decide)) (ne_of_beginsNumber hc (by decide)), readScalar]
  simp [hNotQuote, hNumber]

/-- Blanks in front of a value are passed over. -/
theorem readValue_gap {gap : List Char} (hGap : IsGapText gap) (fuel : Nat) (cs : List Char) :
    readValue fuel (gap ++ cs) = readValue fuel cs := by
  cases fuel with
  | zero => rfl
  | succ fuel => rw [readValue, readValue, skipGaps_append hGap]

mutual

/-- Reading a text of a value gives the value, and the text behind it is left. -/
theorem readValue_text {node : Node} {cs : List Char} (h : ValueText node cs) {rest : List Char}
    (hRest : Ends rest) (fuel : Nat) (hFuel : cs.length ≤ fuel) :
    readValue fuel (cs ++ rest) = (node, some rest) := by
  obtain _ | fuel := fuel
  · obtain ⟨c, tail, rfl, -⟩ := h.head
    simp at hFuel
  cases h with
  | null => rfl
  | bool b => cases b <;> rfl
  | int n => exact readValue_int fuel hRest n
  | text s =>
    rw [stringText, List.cons_append, List.cons_append,
      readValue_scalar fuel (by decide) (by decide) (by decide), readScalar]
    simpa using readString_text s rest
  | noItems hGap =>
    have hBracket := skipGaps_gap hGap (c := ']') (by decide) rest
    rw [List.cons_append, List.append_assoc, readValue, skipGaps_cons (by decide)]
    simp [hBracket]
  | items hGap hItems =>
    have hRead := readItems_text hItems rest fuel (by simp at hFuel; omega)
    obtain ⟨c, tail, rfl, hToken, hNotBracket⟩ := hItems.head
    have hFirst := skipGaps_gap hGap hToken (tail ++ rest)
    rw [List.cons_append] at hRead
    rw [List.cons_append, List.append_assoc, readValue, skipGaps_cons (by decide)]
    simp [hFirst, hNotBracket, hRead]
  | noMembers hGap =>
    have hBrace := skipGaps_gap hGap (c := '\x7d') (by decide) rest
    rw [List.cons_append, List.append_assoc, readValue, skipGaps_cons (by decide)]
    simp [hBrace]
  | members hGap hMembers =>
    obtain ⟨tail, rfl, hRead⟩ := readMembers_text hMembers rest fuel
      (by simp at hFuel; omega)
    have hQuote := skipGaps_gap hGap (c := '"') (by decide) (tail ++ rest)
    rw [List.cons_append, List.append_assoc, readValue, skipGaps_cons (by decide)]
    simp [hQuote, hRead]

/-- The items of an array are read back, however they are spaced. -/
theorem readItems_text {items : List Node} {cs : List Char} (h : ItemsText items cs)
    (rest : List Char) (fuel : Nat) (hFuel : cs.length ≤ fuel) :
    readItems fuel (cs ++ rest) = (items, .closed, some rest) := by
  obtain _ | fuel := fuel
  · obtain ⟨c, tail, rfl, -⟩ := h.head
    simp at hFuel
  cases h with
  | @last gap cs item hItem hGap =>
    have hRead := readValue_text hItem (ends_gap hGap (.inr (.inl rfl)) rest) fuel
      (by simp at hFuel; omega)
    have hBracket := skipGaps_gap hGap (c := ']') (by decide) rest
    rw [readItems, List.append_assoc, List.append_assoc, List.cons_append, List.nil_append, hRead]
    simp [hBracket]
  | @more gap gap' cs cs' item items hItem hGap hGap' hItems =>
    have hRead := readValue_text hItem (ends_gap hGap (.inl rfl) (gap' ++ cs' ++ rest)) fuel
      (by simp at hFuel; omega)
    have hItemsRead := readItems_text hItems rest fuel (by simp at hFuel; omega)
    have hComma := skipGaps_gap hGap (c := ',') (by decide) (gap' ++ cs' ++ rest)
    obtain ⟨c, tail, rfl, hToken, hNotBracket⟩ := hItems.head
    have hNext := skipGaps_gap hGap' hToken (tail ++ rest)
    rw [List.cons_append] at hItemsRead
    rw [readItems, List.append_assoc, List.append_assoc, List.cons_append, hRead]
    simp only [hComma]
    rw [List.append_assoc, List.cons_append, hNext]
    simp [hNotBracket, hItemsRead]

theorem readMembers_text {members : List (Except Fault String × Node)} {cs : List Char}
    (h : MembersText members cs) (rest : List Char) (fuel : Nat) (hFuel : cs.length ≤ fuel) :
    ∃ tail, cs = '"' :: tail ∧ readMembers fuel (tail ++ rest) = (members, .closed, some rest) := by
  obtain _ | fuel := fuel
  · cases h <;> simp at hFuel
  cases h with
  | @last key colon gap cs value hColon hValue hGap =>
    have hRead := readValue_text hValue (ends_gap hGap (.inr (.inr rfl)) rest) fuel
      (by simp at hFuel; omega)
    have hBrace := skipGaps_gap hGap (c := '\x7d') (by decide) rest
    refine ⟨_, rfl, ?_⟩
    simp only [List.append_eq, List.append_assoc, List.cons_append, List.nil_append]
    rw [readMembers]
    simp only [scanString_text, literalText_pieceOf, skipGaps_cons (c := ':') (by decide),
      readValue_gap hColon, hRead, hBrace]
  | @more key colon gap gap' cs cs' value members hColon hValue hGap hGap' hMembers =>
    obtain ⟨tail, rfl, hMembersRead⟩ := readMembers_text hMembers rest fuel
      (by simp at hFuel; omega)
    have hRead := readValue_text hValue
      (ends_gap hGap (.inl rfl) (gap' ++ '"' :: (tail ++ rest))) fuel (by simp at hFuel; omega)
    have hComma := skipGaps_gap hGap (c := ',') (by decide) (gap' ++ '"' :: (tail ++ rest))
    have hQuote := skipGaps_gap hGap' (c := '"') (by decide) (tail ++ rest)
    refine ⟨_, rfl, ?_⟩
    simp only [List.append_eq, List.append_assoc, List.cons_append, List.nil_append]
    rw [readMembers]
    simp only [scanString_text, literalText_pieceOf, skipGaps_cons (c := ':') (by decide),
      readValue_gap hColon, hRead, hComma, hQuote, hMembersRead]

end

/-- A whole text of a value is read as the value, to its end. -/
theorem readText_of_valueText {node : Node} {cs : List Char} (h : ValueText node cs) :
    readText (String.ofList cs) = ⟨node, true⟩ := by
  have hRead := readValue_text h ends_nil (enoughFuel cs.length) (by simp only [enoughFuel]; omega)
  rw [List.append_nil] at hRead
  simp only [readText, String.toList_ofList, hRead]
  rfl

-- ---------------------------------------------------------------------------
-- The two written forms
-- ---------------------------------------------------------------------------

mutual

/-- The text without blanks is a text of the value. -/
theorem valueText_compact (j : Json) (h : j.isExact = true) : ValueText j.node j.compactChars := by
  match j with
  | .null => exact .null
  | .bool true => exact .bool true
  | .bool false => exact .bool false
  | .int n => exact .int n
  | .text s => exact .text s
  | .array [] => exact .noItems isGapText_nil
  | .array (item :: items) =>
    exact .items isGapText_nil (itemsText_compact (item :: items) (List.cons_ne_nil _ _) h)
  | .object [] => exact .noMembers isGapText_nil
  | .object (m :: members) =>
    exact .members isGapText_nil (membersText_compact (m :: members) (List.cons_ne_nil _ _) h)

/-- Items without blanks are spaced as items may be. -/
theorem itemsText_compact (items : List Json) (hItems : items ≠ []) (h : areExact items = true) :
    ItemsText (nodes items) (compactItems items) := by
  match items with
  | [item] =>
    rw [areExact, Bool.and_eq_true] at h
    exact .last (valueText_compact item h.1) isGapText_nil
  | item :: next :: items =>
    rw [areExact, Bool.and_eq_true] at h
    exact .more (valueText_compact item h.1) isGapText_nil isGapText_nil
      (itemsText_compact (next :: items) (List.cons_ne_nil _ _) h.2)

theorem membersText_compact (members : List (String × Json)) (hMembers : members ≠ [])
    (h : membersExact members = true) :
    MembersText (memberNodes members) (compactMembers members) := by
  match members with
  | [(key, value)] =>
    rw [membersExact, Bool.and_eq_true] at h
    simpa [compactMembers, memberNodes] using
      MembersText.last key isGapText_nil (valueText_compact value h.1) isGapText_nil
  | (key, value) :: next :: members =>
    rw [membersExact, Bool.and_eq_true] at h
    simpa [compactMembers, memberNodes] using
      MembersText.more key isGapText_nil (valueText_compact value h.1) isGapText_nil
        isGapText_nil (membersText_compact (next :: members) (List.cons_ne_nil _ _) h.2)

end

theorem isGapText_newLine (level : Nat) : IsGapText (newLine level) := by
  intro c hc
  rcases List.mem_cons.mp hc with rfl | hc
  · decide
  · rw [List.eq_of_mem_replicate hc]
    decide

theorem isGapText_space : IsGapText [' '] := by
  intro c hc
  rw [List.mem_singleton.mp hc]
  decide

mutual

/-- The text on lines of its own is a text of the value. -/
theorem valueText_pretty (level : Nat) (j : Json) (h : j.isExact = true) :
    ValueText j.node (j.prettyChars level) := by
  match j with
  | .null => exact .null
  | .bool true => exact .bool true
  | .bool false => exact .bool false
  | .int n => exact .int n
  | .text s => exact .text s
  | .array [] => exact .noItems isGapText_nil
  | .array (item :: items) =>
    rw [isExact, areExact, Bool.and_eq_true] at h
    simpa [prettyChars, node, nodes] using ValueText.items (isGapText_newLine (level + 1))
      (itemsText_pretty level items h.2 (valueText_pretty (level + 1) item h.1))
  | .object [] => exact .noMembers isGapText_nil
  | .object ((key, value) :: members) =>
    rw [isExact, membersExact, Bool.and_eq_true] at h
    simpa [prettyChars, node, memberNodes] using ValueText.members (isGapText_newLine (level + 1))
      (membersText_pretty level members h.2 key (valueText_pretty (level + 1) value h.1))

/-- Items on lines of their own are spaced as items may be. -/
theorem itemsText_pretty (level : Nat) (items : List Json) (h : areExact items = true)
    {item : Node} {cs : List Char} (hItem : ValueText item cs) :
    ItemsText (item :: nodes items) (cs ++ prettyItems level items) := by
  match items with
  | [] => exact .last hItem (isGapText_newLine level)
  | next :: items =>
    rw [areExact, Bool.and_eq_true] at h
    have hNext := itemsText_pretty level items h.2 (valueText_pretty (level + 1) next h.1)
    simpa [prettyItems, nodes] using
      ItemsText.more hItem isGapText_nil (isGapText_newLine (level + 1)) hNext

theorem membersText_pretty (level : Nat) (members : List (String × Json))
    (h : membersExact members = true) (key : String) {value : Node} {cs : List Char}
    (hValue : ValueText value cs) :
    MembersText ((.ok key, value) :: memberNodes members)
      (stringText key ++ ':' :: ' ' :: (cs ++ prettyMembers level members)) := by
  match members with
  | [] => exact .last key isGapText_space hValue (isGapText_newLine level)
  | (nextKey, next) :: members =>
    rw [membersExact, Bool.and_eq_true] at h
    have hNext := membersText_pretty level members h.2 nextKey
      (valueText_pretty (level + 1) next h.1)
    simpa [prettyMembers, memberNodes] using
      MembersText.more key isGapText_space hValue isGapText_nil
        (isGapText_newLine (level + 1)) hNext

end

/-- A compact text is read as the node it was written for, with nothing after it. -/
theorem readText_compact {j : Json} (h : j.isExact = true) : readText j.compact = ⟨j.node, true⟩ :=
  readText_of_valueText (valueText_compact j h)

theorem readText_pretty {j : Json} (h : j.isExact = true) : readText j.pretty = ⟨j.node, true⟩ :=
  readText_of_valueText (valueText_pretty 0 j h)

end MediaLibrary.Json

import ChatWarden.Lookup.Card
import ChatWarden.Proofs.Chat.Shown

/-!
# Cards are shown whole

A card whose values are texts is shown on one line: its name, and each part that it has behind a
separator. A line that a chat message has room for is the reply, and since flattening never makes a
text longer, the message has room for what is left of it too. So no part of a card is cut off; a
line that is too long gives way to the address of the card's page.

Results:
* `fullLine_of_texts`: the line of a card, part by part.
* `line_of_texts`: the line or the address of the page.
* `fit_of_room`: what fits into a message is shown whole.
* `card_shown_whole`: what is shown of a card in the chat.
-/

namespace ChatWarden

namespace Chat

open Text (strip runs visible)

/-- A message shows all of a text: it is the text with one blank for every maximal run of blanks
    that holds a line break, and without the blanks at its ends. -/
structure ShowsWhole (text message : String) : Prop where
  flat : message.toList = strip ((runs text.toList).flatMap flattenRun)
  visible : visible message.toList = visible text.toList

theorem length_strip_flatten_le (cs : List Char) : (strip (flatten cs)).length ≤ cs.length := by
  have hend := (Text.stripEnd_prefix_self (Text.stripStart (flatten cs))).length_le
  have hstart : (Text.stripStart (flatten cs)).length ≤ (flatten cs).length :=
    Text.length_dropWhile_le _ _
  have hflat := length_flatten_le cs
  unfold strip
  omega

/-- What fits into a message is shown whole. -/
theorem fit_of_room {text : String} (h : text.length ≤ maxMessage) :
    ShowsWhole text (fit text) := by
  have hroom : ¬(maxMessage : Int) < (strip (flatten text.toList)).length := by
    have hle := length_strip_flatten_le text.toList
    rw [String.length_toList] at hle
    omega
  have hfit : (fit text).toList = strip (flatten text.toList) := by
    rw [fit, toList_fitTo_of_room (by decide), fitChars, if_neg hroom]
  constructor
  · rw [hfit, flatten_eq]
  · rw [hfit, Text.visible_strip, visible_flatten]

end Chat

namespace Lookup.Card

variable {fields : List (String × Json)} {shown page : String}

/-- All values of a card are texts. -/
def IsOfTexts (fields : List (String × Json)) : Prop :=
  ∀ field ∈ fields, ∃ said, field.2 = .str said

/-- What a card says in a field; a field that it does not have says nothing. -/
def said (fields : List (String × Json)) (name : String) : String :=
  match fields.lookup name with
  | some (.str text) => text
  | _ => ""

/-- A part of the line behind its separator. There is no part that says nothing. -/
def part (separator text : String) : String := if text.isEmpty then "" else separator ++ text

/-- The two strengths with a slash between them and a dash for a missing one, if there is one. -/
def strengths (fields : List (String × Json)) : String :=
  match strength (.obj fields) "power", strength (.obj fields) "toughness" with
  | none, none => ""
  | power, toughness => " | " ++ power.getD "-" ++ "/" ++ toughness.getD "-"

/-- All that is to be shown of a card of texts. -/
def wholeLine (fields : List (String × Json)) : String :=
  said fields "name" ++ part " " (said fields "mana_cost") ++
    part " | " (said fields "type_line") ++ part " | " (oneLine (said fields "oracle_text")) ++
    strengths fields ++ part " | " (said fields "loyalty")

/-! ## The parts of the line -/

theorem field?_obj (fields : List (String × Json)) (name : String) :
    (Json.obj fields).field? name = fields.lookup name := rfl

theorem IsOfTexts.exists_text (h : IsOfTexts fields) {name : String} {value : Json}
    (hfield : fields.lookup name = some value) : ∃ text, value = .str text := by
  obtain ⟨before, behind, rfl, -⟩ := List.lookup_eq_some_iff.mp hfield
  exact h (name, value) (by simp)

theorem part_empty (separator : String) : part separator "" = "" := rfl

theorem part_of_ne_empty {text : String} (h : text ≠ "") (separator : String) :
    part separator text = separator ++ text := by
  unfold part
  rw [if_neg]
  intro hempty
  exact h (String.isEmpty_iff.mp hempty)

/-- A field adds its part to the line. -/
theorem extendWith_of_texts (h : IsOfTexts fields) (shown name separator : String) :
    extendWith (.obj fields) (.str shown) name separator =
      .ok (.str (shown ++ part separator (said fields name))) := by
  unfold extendWith said
  rw [field?_obj]
  cases hfield : fields.lookup name with
  | none => rw [part_empty, String.append_empty]
  | some value =>
    obtain ⟨text, rfl⟩ := h.exists_text hfield
    by_cases hempty : text = ""
    · rw [hempty, part_empty, String.append_empty]
      rfl
    · have htruthy : (Json.str text).isTruthy = true := by simpa [Json.isTruthy] using hempty
      rw [part_of_ne_empty hempty]
      exact if_pos htruthy

/-- A text on one line is empty only if it was. -/
theorem oneLine_ne_empty {text : String} (h : text ≠ "") : oneLine text ≠ "" := by
  intro hempty
  have hnil : text.toList.flatMap (fun c => if c == '\n' then ['.', ' '] else [c]) = [] := by
    rw [← String.toList_ofList (l := text.toList.flatMap _)]
    exact congrArg String.toList hempty
  rw [List.flatMap_eq_nil_iff] at hnil
  apply h
  rw [← String.toList_eq_nil_iff, List.eq_nil_iff_forall_not_mem]
  intro c hc
  have hpart := hnil c hc
  split at hpart
  · cases hpart
  · cases hpart

/-- The rules add their part on one line. -/
theorem extendWithRules_of_texts (h : IsOfTexts fields) (shown : String) :
    extendWithRules (.obj fields) (.str shown) =
      .ok (.str (shown ++ part " | " (oneLine (said fields "oracle_text")))) := by
  have hnothing : part " | " (oneLine "") = "" := rfl
  unfold extendWithRules said
  rw [field?_obj]
  cases hfield : fields.lookup "oracle_text" with
  | none =>
    dsimp only
    rw [hnothing, String.append_empty]
  | some value =>
    obtain ⟨text, rfl⟩ := h.exists_text hfield
    dsimp only
    by_cases hempty : text = ""
    · rw [hempty, hnothing, String.append_empty]
      rfl
    · have htruthy : ¬(!(Json.str text).isTruthy) = true := by simpa [Json.isTruthy] using hempty
      rw [part_of_ne_empty (oneLine_ne_empty hempty), if_neg htruthy]
      rfl

theorem extendWithStrengths_of_texts (fields : List (String × Json)) (shown : String) :
    extendWithStrengths (.obj fields) (.str shown) = .ok (.str (shown ++ strengths fields)) := by
  unfold extendWithStrengths strengths
  cases strength (.obj fields) "power" with
  | none =>
    cases strength (.obj fields) "toughness" with
    | none =>
      dsimp only
      rw [String.append_empty]
    | some toughness => rfl
  | some power => rfl

/-- The line of a card, part by part. -/
theorem fullLine_of_texts (h : IsOfTexts fields) :
    fullLine (.obj fields) = .ok (.str (wholeLine fields)) := by
  have hname : ((Json.obj fields).field? "name").getD (.str "") = .str (said fields "name") := by
    unfold said
    rw [field?_obj]
    cases hfield : fields.lookup "name" with
    | none => rfl
    | some value =>
      obtain ⟨text, rfl⟩ := h.exists_text hfield
      rfl
  unfold fullLine
  simp only [hname, extendWith_of_texts h, extendWithRules_of_texts h,
    extendWithStrengths_of_texts, bind, Except.bind]
  rfl

/-- A card of texts is shown on its line, or by the address of its page if the line is too long. -/
theorem line_of_texts (h : IsOfTexts fields)
    (hpage : fields.lookup "scryfall_uri" = some (.str page)) (hfull : page ≠ "")
    {address : String} (hread : withoutTracking? page = some address) :
    line (.obj fields) = .ok (.str
      (if (wholeLine fields).length ≤ maxLength then wholeLine fields else address)) := by
  have hfield : (Json.obj fields).field? "scryfall_uri" = some (.str page) := by
    rw [field?_obj, hpage]
  have htruthy : (Json.str page).isTruthy = true := by simpa [Json.isTruthy] using hfull
  have hlength : length (.str (wholeLine fields)) = .ok (wholeLine fields).length := rfl
  have haddress : pageAddress (.str page) = .ok (.str address) := by rw [pageAddress, hread]
  unfold line
  simp only [fullLine_of_texts h, hlength, hfield, htruthy, haddress, bind, Except.bind, if_true]
  by_cases hlong : maxLength < (wholeLine fields).length
  · rw [if_pos hlong, if_neg (Nat.not_le.mpr hlong)]
  · rw [if_neg hlong, if_pos (Nat.not_lt.mp hlong)]
    rfl

/-- The longest line that is shown of a card just fits into a message. -/
theorem maxLength_eq_maxMessage : maxLength = Chat.maxMessage := rfl

end Lookup.Card

open Lookup.Card in
/-- **Cards.** A card of texts with a page whose address can be read is shown, and what the chat
    sees of it is whole: its line, if that is at most as long as a chat message may be, with nothing
    lost but the blanks around line breaks and at the ends; and the message of the address of its
    page without tracking, if the line is longer. -/
theorem card_shown_whole (fields : List (String × Json)) (page : String)
    (htexts : IsOfTexts fields) (hpage : fields.lookup "scryfall_uri" = some (.str page))
    (hfull : page ≠ "") (hread : (Url.Address.ofText? page.toList).isSome = true) :
    ∃ shown address, line (.obj fields) = .ok (.str shown) ∧
      withoutTracking? page = some address ∧
      (((wholeLine fields).length ≤ Chat.maxMessage ∧
          Chat.ShowsWhole (wholeLine fields) (Chat.fit shown)) ∨
        (Chat.maxMessage < (wholeLine fields).length ∧ Chat.fit shown = Chat.fit address)) := by
  obtain ⟨address, haddress⟩ : ∃ address, withoutTracking? page = some address := by
    obtain ⟨parts, hparts⟩ := Option.isSome_iff_exists.mp hread
    unfold withoutTracking?
    rw [hparts]
    exact ⟨_, rfl⟩
  refine ⟨_, address, line_of_texts htexts hpage hfull haddress, haddress, ?_⟩
  rw [maxLength_eq_maxMessage]
  by_cases hshort : (wholeLine fields).length ≤ Chat.maxMessage
  · rw [if_pos hshort]
    exact .inl ⟨hshort, Chat.fit_of_room hshort⟩
  · rw [if_neg hshort]
    exact .inr ⟨Nat.not_le.mp hshort, rfl⟩

open Lookup.Card in
/-- A dryad with a strength of its own and a rule of two lines is shown whole. -/
theorem dryad_shown_whole :
    ∃ shown address,
      line (.obj [("name", .str "Dryad"), ("mana_cost", .str "\x7bG\x7d"), ("power", .str "*"),
        ("oracle_text", .str "Tap:\nadd G."),
        ("scryfall_uri", .str "https://s/f?utm_source=api")]) = .ok (.str shown) ∧
      withoutTracking? "https://s/f?utm_source=api" = some address ∧
      Chat.ShowsWhole "Dryad \x7bG\x7d | Tap:. add G. | */-" (Chat.fit shown) := by
  obtain ⟨shown, address, hline, haddress, ⟨-, hwhole⟩ | ⟨hlong, -⟩⟩ :=
    card_shown_whole [("name", .str "Dryad"), ("mana_cost", .str "\x7bG\x7d"), ("power", .str "*"),
      ("oracle_text", .str "Tap:\nadd G."), ("scryfall_uri", .str "https://s/f?utm_source=api")]
      "https://s/f?utm_source=api" (by simp [IsOfTexts]) rfl (by decide) (by decide)
  · exact ⟨shown, address, hline, haddress, hwhole⟩
  · exact absurd hlong (by decide)

end ChatWarden

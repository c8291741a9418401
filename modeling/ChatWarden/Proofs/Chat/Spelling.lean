import ChatWarden.Proofs.Bot.Guard
import ChatWarden.Proofs.Bot.World
import ChatWarden.Proofs.Text.Lowering

/-!
# Corrected spellings

A line that is no call is answered if the first word in it that names the language spells it in
another way. A search through the lowercase form of the whole line comes before the search through
its words, but it finds the name in every line that has it as a word.

Results:
* `mem_words_infix`, `trimSet_infix`: the words of a text, trimmed or not, are parts of it.
* `Subject.firstMention?_eq_some_iff`: which word is the first mention of the language.
* `Subject.mentioned?_of_isFirstMention`: the search through the whole line finds it too.
* `misspelt_mention_answered`: which lines are answered, and how.
-/

namespace ChatWarden.Text

variable {word cs : List Char}

/-! ## Words as parts of a text -/

theorem stripStart_suffix (cs : List Char) : stripStart cs <:+ cs := List.dropWhile_suffix _

theorem mem_words_infix (h : word ∈ words cs) : word <:+: cs := by
  induction cs using words.induct with
  | case1 cs hblank =>
    rw [words_of_nil hblank] at h
    cases h
  | case2 cs c rest hstart ih =>
    have hwhole : c :: rest <:+: cs := hstart ▸ (stripStart_suffix cs).isInfix
    rw [words_of_cons hstart] at h
    rcases List.mem_cons.mp h with rfl | hlater
    · exact (List.takeWhile_prefix _).isInfix.trans hwhole
    · exact ((ih hlater).trans (List.dropWhile_suffix _).isInfix).trans hwhole

theorem trimSet_infix (inSet : Char → Bool) (cs : List Char) : trimSet inSet cs <:+: cs := by
  have hfront : cs.dropWhile inSet <:+ cs := List.dropWhile_suffix _
  have hback : trimSet inSet cs <+: cs.dropWhile inSet := by
    rw [trimSet, ← List.reverse_suffix, List.reverse_reverse]
    exact List.dropWhile_suffix _
  exact hback.isInfix.trans hfront.isInfix

end ChatWarden.Text

namespace ChatWarden

namespace Chat.Subject

variable {line sender : String} {word : List Char}

/-! ## Mentions -/

/-- The punctuation among the ASCII characters. -/
def punctuation : List Char := "!\"#$%&'()*+,-./:;<=>?@[\\]^_`\x7b|\x7d~".toList

/-- The words between the blanks of a line, without the punctuation at their ends. -/
def trimmedWords (line : String) : List (List Char) :=
  (Text.words line.toList).map (Text.trimSet punctuation.contains)

/-- A word that is the name of the language up to the case of ASCII letters. -/
def NamesLanguage (word : List Char) : Prop := word.map Char.toLower = "ocaml".toList

instance : DecidablePred NamesLanguage := fun word =>
  inferInstanceAs (Decidable (word.map Char.toLower = "ocaml".toList))

/-- The first of the words of a line that is the name of the language. -/
def IsFirstMention (line : String) (word : List Char) : Prop :=
  ∃ earlier later, trimmedWords line = earlier ++ word :: later ∧ NamesLanguage word ∧
    ∀ other ∈ earlier, ¬NamesLanguage other

theorem isPunctuation_eq : isPunctuation = punctuation.contains := by
  funext c
  have hall : ∀ n < 0x80,
      isPunctuation (Char.ofNat n) = punctuation.contains (Char.ofNat n) := by decide +kernel
  by_cases hc : c.toNat < 0x80
  · have hsame := hall c.toNat hc
    rwa [Char.ofNat_toNat] at hsame
  · have hascii : punctuation.all (·.toNat < 0x80) = true := by decide
    have hnot : c ∉ punctuation := fun hmem =>
      hc (of_decide_eq_true (List.all_eq_true.mp hascii c hmem))
    have hleft : isPunctuation c = false := by
      rw [isPunctuation, decide_eq_false (show ¬c.toNat < 0x7F by omega), Bool.and_false,
        Bool.false_and]
    have hright : punctuation.contains c = false := by simpa using hnot
    rw [hleft, hright]

theorem bareWords_eq (line : String) : bareWords line = trimmedWords line := by
  rw [bareWords, trimmedWords, isPunctuation_eq]

theorem isPlain_name : ∀ d ∈ Subject.ocaml.name.toList, Text.IsPlain d := by
  intro d hd
  have hall : Subject.ocaml.name.toList.all (fun d => d.isLower && d != 'i' && d != 'k') = true := by
    decide
  have hletter := List.all_eq_true.mp hall d hd
  rw [Bool.and_eq_true, Bool.and_eq_true, bne_iff_ne, bne_iff_ne] at hletter
  exact ⟨hletter.1.1, hletter.1.2, hletter.2⟩

/-- Full lowercasing takes no other word for the name. -/
theorem lower_eq_name_iff : Text.lower word = Subject.ocaml.name.toList ↔ NamesLanguage word :=
  Text.lower_eq_iff_of_plain isPlain_name

theorem firstMention?_eq_some_iff :
    firstMention? .ocaml line = some word ↔ IsFirstMention line word := by
  rw [firstMention?, List.find?_eq_some_iff_append, bareWords_eq]
  simp only [beq_iff_eq, lower_eq_name_iff, Bool.not_eq_true', beq_eq_false_iff_ne, ne_eq]
  constructor
  · rintro ⟨hword, earlier, later, hwords, hearlier⟩
    exact ⟨earlier, later, hwords, hword, hearlier⟩
  · rintro ⟨earlier, later, hwords, hword, hearlier⟩
    exact ⟨hword, earlier, later, hwords, hearlier⟩

/-- No line has two first mentions. -/
theorem IsFirstMention.unique {other : List Char} (h : IsFirstMention line word)
    (hother : IsFirstMention line other) : word = other :=
  Option.some.inj ((firstMention?_eq_some_iff.mpr h).symm.trans
    (firstMention?_eq_some_iff.mpr hother))

theorem IsFirstMention.infix (h : IsFirstMention line word) : word <:+: line.toList := by
  obtain ⟨earlier, later, hwords, -⟩ := h
  have hmem : word ∈ trimmedWords line := by
    rw [hwords]
    exact List.mem_append_right _ List.mem_cons_self
  obtain ⟨whole, hwhole, rfl⟩ := List.mem_map.mp hmem
  exact (Text.trimSet_infix _ whole).trans (Text.mem_words_infix hwhole)

/-- A name in ASCII letters is found in the lowercase form of the line, whatever is around it. -/
theorem mentioned?_of_isFirstMention (h : IsFirstMention line word) :
    mentioned? line = some .ocaml := by
  obtain ⟨front, back, hline⟩ := h.infix
  obtain ⟨-, -, -, hword, -⟩ := h
  have hascii : ∀ c ∈ word, c.toNat < 0x80 := Text.ascii_of_lower_plain
    (lower_eq_name_iff.mpr hword ▸ isPlain_name)
  have hpart : "ocaml".toList <:+: Text.lower line.toList := by
    rw [← hword, ← hline, ← Text.lowerBetween_of_ascii hascii front.reverse back]
    exact Text.lowerBetween_infix_lower front word back
  have hfound : Text.occursIn Subject.ocaml.name.toList (Text.lower line.toList) = true :=
    Text.occursIn_iff_infix.mpr hpart
  rw [mentioned?, all, List.find?_cons_of_pos]
  exact hfound

/-! ## Answers -/

/-- The correction of a word that a viewer wrote. -/
def correction (sender : String) (word : List Char) : String :=
  "@" ++ sender ++ " Não é " ++ .ofList word ++ ", é OCaml."

theorem correction_ne_empty (sender : String) (word : List Char) : correction sender word ≠ "" := by
  intro hempty
  have hchars := congrArg String.toList hempty
  simp [correction] at hchars

theorem answer_of_isFirstMention (h : IsFirstMention line word) :
    answer .ocaml line sender =
      if word = "OCaml".toList then "" else correction sender word := by
  rw [answer, firstMention?_eq_some_iff.mpr h]
  by_cases hright : word = "OCaml".toList
  · rw [if_pos hright, hright]
    rfl
  · have hwrong : (String.ofList word == Subject.ocaml.spelling) = false := by
      refine beq_eq_false_iff_ne.mpr fun hsame => hright ?_
      rw [← String.toList_ofList (l := word), hsame]
      rfl
    have hend : ", é " ++ (Subject.ocaml.spelling ++ ".") = ", é OCaml." := by decide
    rw [if_neg hright, correction, ← hend]
    simp only [hwrong, Bool.false_eq_true, if_false, String.append_assoc]

theorem answer_of_unmentioned (h : ∀ word, ¬IsFirstMention line word) :
    answer .ocaml line sender = "" := by
  rw [answer]
  cases hmention : firstMention? .ocaml line with
  | none => rfl
  | some word => exact absurd (firstMention?_eq_some_iff.mp hmention) (h word)

end Chat.Subject

/-! ## Lines that are no calls -/

open Chat.Subject (IsFirstMention correction answer_of_isFirstMention answer_of_unmentioned
  mentioned?_of_isFirstMention)

theorem Dispatcher.resolveSubject_ends {line sender : String} {path : List Exchange}
    {outcome : Except Failure Reply}
    (h : (Dispatcher.resolveSubject line sender).Ends path outcome) :
    outcome = .ok (.text
      ((Chat.Subject.mentioned? line).elim "" fun subject => subject.answer line sender)) := by
  unfold Dispatcher.resolveSubject at h
  cases hmentioned : Chat.Subject.mentioned? line with
  | none =>
    rw [hmentioned] at h
    exact (Job.ends_pure.mp h).2
  | some subject =>
    rw [hmentioned] at h
    obtain ⟨rest, -, hrest⟩ := Job.ends_note_bind.mp h
    exact (Job.ends_pure.mp hrest).2

/-- **Corrections.** A line that is no call gets a reply just if its first mention of the language
    exists and is spelt in another way than the language is; the reply quotes the mention as it was
    typed. The search through the lowercase form of the whole line finds every mention. -/
theorem misspelt_mention_answered {κ : Type} [IsCommand κ] (dispatcher : Dispatcher κ)
    (line sender : String) (surroundings : Surroundings) (world : World)
    (hline : Chat.Call.ofLine? dispatcher.mark line = none) :
    ∃ reply : String,
      ((dispatcher.resolve line sender).attempt.record
        (World.answer surroundings) world).2.1 = .ok (.text reply) ∧
      (reply ≠ "" ↔ ∃ word, IsFirstMention line word ∧ word ≠ "OCaml".toList) ∧
      ∀ word, IsFirstMention line word → Chat.Subject.mentioned? line = some .ocaml ∧
        reply = if word = "OCaml".toList then "" else correction sender word := by
  have hends := World.ends_record surroundings (dispatcher.resolve line sender) world
  rw [Dispatcher.resolve, hline] at hends
  have houtcome := Dispatcher.resolveSubject_ends hends
  rw [Dispatcher.resolve, hline]
  refine ⟨_, houtcome, ?_⟩
  by_cases hsome : ∃ word, IsFirstMention line word
  · obtain ⟨word, hword⟩ := hsome
    rw [mentioned?_of_isFirstMention hword, Option.elim_some, answer_of_isFirstMention hword]
    constructor
    · constructor
      · intro hreply
        refine ⟨word, hword, fun hright => ?_⟩
        rw [if_pos hright] at hreply
        exact hreply rfl
      · rintro ⟨other, hother, hwrong⟩
        obtain rfl := hword.unique hother
        rw [if_neg hwrong]
        exact Chat.Subject.correction_ne_empty sender word
    · intro other hother
      obtain rfl := hword.unique hother
      exact ⟨rfl, rfl⟩
  · have hnone : ∀ word, ¬IsFirstMention line word := not_exists.mp hsome
    have hempty : ((Chat.Subject.mentioned? line).elim ""
        fun subject => subject.answer line sender) = "" := by
      cases Chat.Subject.mentioned? line with
      | none => rfl
      | some subject => exact answer_of_unmentioned hnone
    refine ⟨iff_of_false (not_not_intro hempty) ?_, fun word hword => absurd hword (hnone word)⟩
    rintro ⟨word, hword, -⟩
    exact hnone word hword

/-- The first mention counts, although the second is right. -/
theorem misspelt_mention_answered_quoted :
    (((Setup.ofRun {} {}).dispatcher.resolve "ΑΣ (oCaml), not OCaml" "viewer").attempt.record
        (World.answer .calm) { db := .fresh "bot.db" }).2.1 =
      .ok (.text "@viewer Não é oCaml, é OCaml.") := by
  have hmention : IsFirstMention "ΑΣ (oCaml), not OCaml" "oCaml".toList :=
    ⟨["ΑΣ".toList], ["not".toList, "OCaml".toList], by decide +kernel, by decide, by decide⟩
  obtain ⟨reply, hreply, -, htold⟩ := misspelt_mention_answered (Setup.ofRun {} {}).dispatcher
    "ΑΣ (oCaml), not OCaml" "viewer" .calm { db := .fresh "bot.db" } (by decide +kernel)
  rw [(htold _ hmention).2] at hreply
  exact hreply

end ChatWarden

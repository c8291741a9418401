import ChatWarden.Command.DataLine
import ChatWarden.Proofs.Bot.World
import ChatWarden.Proofs.Text.Lowering

/-!
# Which lines a filter keeps

The text behind the command and the lines of the file are lowercased each by itself. A line that
holds the text is kept, unless the text has a capital sigma that ends a word in one of the two and
not in the other: then the lowercase form of the line does not show the text.

Results:
* `mem_matching_iff`: which lines are kept.
* `Holds.mem_matching`: a line is kept if it holds the text, in letters of any case, at a place that
  leaves its capital sigmas as they are.
* `execute_ends`: the lines that are kept are offered, and the reply is one of them.
* `filter_offers_lines`: what a filter does with the lines of a file.
-/

namespace ChatWarden

/-- The surroundings with a data file of these bytes. -/
def Surroundings.withFile (surroundings : Surroundings) (bytes : List UInt8) : Surroundings where
  condition := surroundings.condition
  answer
    | _, .readData => .ok bytes
    | asked, request => surroundings.answer asked request

theorem Work.file_record {α : Type} (work : Work α) (bytes : List UInt8)
    (surroundings : Surroundings) (world : World) :
    ∀ answer, ⟨.readData, answer⟩ ∈
      (work.record (World.answer (surroundings.withFile bytes)) world).1 → answer = .ok bytes := by
  intro answer hmem
  obtain ⟨earlier, hanswer⟩ := World.mem_record hmem
  exact hanswer

/-- The lines that a request offers to be drawn from. -/
def Request.pool? : Request → Option (List String)
  | .draw lines => some lines
  | _ => none

/-- The lines that were offered, draw by draw. -/
def Exchange.offered (course : List Exchange) : List (List String) :=
  course.filterMap (·.request.pool?)

namespace DataLine

open Text (lower KeepsSigmas)

variable {path args line : String} {lines : List String} {wanted : List Char} {bytes : List UInt8}
  {course : List Exchange} {outcome : Except Failure Reply}

/-! ## Filtering -/

/-- An empty text is in every line, so it needs no case of its own. -/
theorem matching_eq_filter (args : String) (lines : List String) :
    matching args lines = lines.filter fun line =>
      Text.occursIn (lower (Text.strip args.toList)) (lower line.toList) := by
  unfold matching
  dsimp only
  split
  · next hempty =>
    rw [List.isEmpty_iff.mp hempty]
    refine (List.filter_eq_self.mpr fun line _ => ?_).symm
    exact Text.occursIn_iff_infix.mpr List.nil_infix
  · rfl

theorem matching_sublist (args : String) (lines : List String) :
    (matching args lines).Sublist lines := by
  rw [matching_eq_filter]
  exact List.filter_sublist

theorem mem_matching_iff : line ∈ matching args lines ↔
    line ∈ lines ∧ lower (Text.strip args.toList) <:+: lower line.toList := by
  rw [matching_eq_filter, List.mem_filter, Text.occursIn_iff_infix]

/-- A line holds a text, in letters of any case, at a place whose neighbours leave its capital
    sigmas as they are. -/
def Holds (line : String) (wanted : List Char) : Prop :=
  ∃ front part back, line.toList = front ++ part ++ back ∧ lower part = lower wanted ∧
    KeepsSigmas front part back

theorem Holds.mem_matching (h : Holds line (Text.strip args.toList)) (hline : line ∈ lines) :
    line ∈ matching args lines := by
  obtain ⟨front, part, back, hparts, hsame, hkeeps⟩ := h
  refine mem_matching_iff.mpr ⟨hline, ?_⟩
  rw [hparts, ← hsame]
  exact hkeeps.lower_infix

/-- Without capital sigmas, a text is held wherever it stands as typed. -/
theorem holds_of_infix (h : wanted <:+: line.toList) (hsigma : 'Σ' ∉ wanted) :
    Holds line wanted := by
  obtain ⟨front, back, hline⟩ := h
  exact ⟨front, wanted, back, hline.symm, rfl, Text.keepsSigmas_of_notMem hsigma front back⟩

/-- A line of the file is not empty. -/
theorem ne_empty_of_mem_linesOf (h : line ∈ linesOf bytes) : line ≠ "" := by
  rintro rfl
  obtain ⟨cs, hcs, hempty⟩ := List.mem_map.mp h
  have hfull := (List.mem_filter.mp hcs).2
  have hnil : cs = [] := by rw [← String.toList_ofList (l := cs), hempty, String.toList_empty]
  rw [hnil] at hfull
  cases hfull

/-! ## Replies -/

/-- What the command comes to, once the file was read. -/
theorem execute_ends (h : (execute path args).Ends course outcome)
    (hfile : ∀ answer, ⟨.readData, answer⟩ ∈ course → answer = .ok bytes) :
    (matching args (linesOf bytes) = [] ∧ Exchange.offered course = [] ∧
      outcome = .ok (.text "")) ∨
    (Exchange.offered course = [matching args (linesOf bytes)] ∧
      ∃ line ∈ matching args (linesOf bytes), outcome = .ok (.text line)) := by
  obtain ⟨answer, rest, rfl, hrest⟩ := Job.ends_request_bind.mp h
  obtain rfl := hfile answer List.mem_cons_self
  dsimp only at hrest
  split at hrest
  · next hnone =>
    obtain ⟨rfl, rfl⟩ := Job.ends_pure.mp hrest
    exact .inl ⟨hnone, rfl, rfl⟩
  · next hsome =>
    obtain ⟨n, last, rfl, hlast⟩ := Job.ends_request_bind.mp hrest
    obtain ⟨rfl, rfl⟩ := Job.ends_pure.mp hlast
    exact .inr ⟨rfl, _, List.get_mem _ _, rfl⟩

end DataLine

/-- **Filters.** Whatever the file holds and whatever stands behind the command, the lines that are
    kept are lines of the file in their order: those in whose lowercase form that of the text
    occurs. Among them is every line that holds the text, in letters of any case, where its capital
    sigmas stay as they are; so if the text has no capital sigma, every line is among them that
    holds it as typed. All kept lines are offered, and one of them is the reply; the reply is empty
    only if no line is kept. -/
theorem filter_offers_lines (path args : String) (bytes : List UInt8) (surroundings : Surroundings)
    (world : World) :
    let wanted := Text.strip args.toList
    let run := (DataLine.execute path args).attempt.record
      (World.answer (surroundings.withFile bytes)) world
    ∃ kept : List String, kept.Sublist (DataLine.linesOf bytes) ∧
      (∀ line, line ∈ kept ↔
        line ∈ DataLine.linesOf bytes ∧ Text.lower wanted <:+: Text.lower line.toList) ∧
      (∀ line ∈ DataLine.linesOf bytes, DataLine.Holds line wanted → line ∈ kept) ∧
      ('Σ' ∉ wanted → ∀ line ∈ DataLine.linesOf bytes, wanted <:+: line.toList → line ∈ kept) ∧
      (kept = [] → Exchange.offered run.1 = [] ∧ run.2.1 = .ok (.text "")) ∧
      (kept ≠ [] → Exchange.offered run.1 = [kept] ∧
        ∃ line ∈ kept, line ≠ "" ∧ run.2.1 = .ok (.text line)) := by
  intro wanted run
  have hends := DataLine.execute_ends (World.ends_record _ (DataLine.execute path args) world)
    (Work.file_record _ bytes surroundings world)
  have hsub := DataLine.matching_sublist args (DataLine.linesOf bytes)
  refine ⟨DataLine.matching args (DataLine.linesOf bytes), hsub,
    fun line => DataLine.mem_matching_iff,
    fun line hline hholds => hholds.mem_matching hline,
    fun hsigma line hline hpart => (DataLine.holds_of_infix hpart hsigma).mem_matching hline,
    fun hnone => ?_, fun hsome => ?_⟩
  · rcases hends with ⟨-, hoffered, hreply⟩ | ⟨-, line, hline, -⟩
    · exact ⟨hoffered, hreply⟩
    · rw [hnone] at hline
      cases hline
  · rcases hends with ⟨hnone, -, -⟩ | ⟨hoffered, line, hline, hreply⟩
    · exact absurd hnone hsome
    · exact ⟨hoffered, line, hline, DataLine.ne_empty_of_mem_linesOf (hsub.subset hline), hreply⟩

/-- The sigma ends the filter, but no word of the line, which holds the filter as typed and is not
    offered. -/
theorem final_sigma_missed :
    let bytes := Text.utf8Bytes "ΑΣΑ\n"
    let run := (DataLine.execute "data/gta.txt" "ΑΣ").attempt.record
      (World.answer (Surroundings.calm.withFile bytes)) { db := .fresh "bot.db" }
    DataLine.linesOf bytes = ["ΑΣΑ"] ∧ "ΑΣ".toList <:+: "ΑΣΑ".toList ∧
      Exchange.offered run.1 = [] ∧ run.2.1 = .ok (.text "") := by
  intro bytes run
  have hnone : DataLine.matching "ΑΣ" (DataLine.linesOf bytes) = [] := by decide +kernel
  refine ⟨by decide +kernel, ⟨[], ['Α'], by decide⟩, ?_⟩
  rcases DataLine.execute_ends
    (World.ends_record _ (DataLine.execute "data/gta.txt" "ΑΣ") { db := .fresh "bot.db" })
    (Work.file_record _ bytes .calm _) with ⟨-, hoffered, hreply⟩ | ⟨-, line, hline, -⟩
  · exact ⟨hoffered, hreply⟩
  · rw [hnone] at hline
    cases hline

end ChatWarden

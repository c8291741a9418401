import ChatWarden.Proofs.Sandbox.Reach
import ChatWarden.Proofs.Work.Ends
import Mathlib.Logic.Function.Basic

/-!
# Script files

The scratch directory, as the requests that name a script file see it. A new file never takes the
place of another one, and what is done to one file leaves all the others as they are; whether an
operation succeeds, and what becomes of a file whose operation fails, is left open.

Results:
* `Files.AnswersAll.same`: requests of other steps leave the directory as it is.
* `Files.AnswersAll.sameBut`: requests about one file leave the others as they are.
-/

namespace ChatWarden.Sandbox

open Rehearsal (ScriptFile)

/-- What stands in the scratch directory in the place of each script. -/
abbrev Files := Script → Option ScriptFile

namespace Files

/-- The same but for the place of one script. -/
def SameBut (script : Script) (files other : Files) : Prop :=
  ∀ place, place ≠ script → files place = other place

/-- The directory answers the exchange, and then holds these files. A container may do to its own
    script what it likes, all of it while it is started: nobody looks at the file before it is
    removed. -/
def Answers (files : Files) (exchange : Exchange) (after : Files) : Prop :=
  match exchange with
  | ⟨.makeScript, .ok script⟩ =>
    files script = none ∧ after = Function.update files script (some (.file ""))
  | ⟨.writeScript script text, .ok ()⟩ =>
    after = Function.update files script (some (.file text))
  | ⟨.writeScript script _, .error _⟩ => after.SameBut script files
  | ⟨.shareScript script, .error _⟩ => after.SameBut script files
  | ⟨.removeScript script, .ok ()⟩ => after = Function.update files script none
  | ⟨.removeScript script, .error fault⟩ =>
    after.SameBut script files ∧ (fault.family = .missingFile → after script = none)
  | ⟨.startContainer _ script, _⟩ => after.SameBut script files
  | _ => after = files

/-- The directory answers the exchanges one after the other. -/
inductive AnswersAll : Files → List Exchange → Files → Prop
  | nil (files : Files) : AnswersAll files [] files
  | cons {files next last : Files} {exchange : Exchange} {rest : List Exchange} :
      files.Answers exchange next → AnswersAll next rest last →
      AnswersAll files (exchange :: rest) last

variable {files other after last : Files} {script : Script}

namespace SameBut

theorem refl (script : Script) (files : Files) : files.SameBut script files := fun _ _ => rfl

theorem trans (h : files.SameBut script other) (h' : other.SameBut script last) :
    files.SameBut script last :=
  fun place hp => (h place hp).trans (h' place hp)

theorem update (script : Script) (files : Files) (file : Option ScriptFile) :
    SameBut script (Function.update files script file) files :=
  fun _ hp => Function.update_of_ne hp ..

/-- Files that are the same but for one place are the same if that place is. -/
theorem eq (h : files.SameBut script other) (hscript : files script = other script) :
    files = other := by
  funext place
  by_cases hp : place = script
  · rw [hp, hscript]
  · exact h place hp

end SameBut

/-- The script file that a request is about, if it may change it. -/
def script? : Request → Option Script
  | .writeScript script _ | .shareScript script | .removeScript script
  | .startContainer _ script => some script
  | _ => none

/-- Steps that concern neither script files nor the start of containers are no operations on a
    script file. -/
theorem untouched {steps : List Step} (hs : Step.script ∉ steps) (hc : Step.start ∉ steps)
    {request : Request} (h : Of steps request) :
    script? request = none ∧ request ≠ .makeScript := by
  cases request with
  | makeScript => exact absurd (of_decide_eq_true h) hs
  | writeScript _ _ => exact absurd (of_decide_eq_true h) hs
  | shareScript _ => exact absurd (of_decide_eq_true h) hs
  | removeScript _ => exact absurd (of_decide_eq_true h) hs
  | startContainer _ _ => exact absurd (of_decide_eq_true h) hc
  | _ => exact ⟨rfl, nofun⟩

/-- What is no operation on a script file leaves the directory as it is. -/
theorem Answers.same {exchange : Exchange} (h : files.Answers exchange after)
    (hs : script? exchange.request = none) (hm : exchange.request ≠ .makeScript) :
    after = files := by
  obtain ⟨request, answer⟩ := exchange
  cases request with
  | makeScript => exact absurd rfl hm
  | writeScript script text => cases hs
  | shareScript script => cases hs
  | removeScript script => cases hs
  | startContainer image script => cases hs
  | _ => exact h

/-- An operation on one script file leaves the others as they are. -/
theorem Answers.sameBut {exchange : Exchange} (h : files.Answers exchange after)
    (hs : script? exchange.request = some script) : after.SameBut script files := by
  obtain ⟨request, answer⟩ := exchange
  cases request with
  | writeScript other text =>
    obtain rfl := Option.some.inj hs
    rcases answer with fault | _
    · exact h
    · rw [show after = _ from h]
      exact .update _ _ _
  | shareScript other =>
    obtain rfl := Option.some.inj hs
    rcases answer with fault | _
    · exact h
    · rw [show after = _ from h]
      exact .refl _ _
  | removeScript other =>
    obtain rfl := Option.some.inj hs
    rcases answer with fault | _
    · exact h.1
    · rw [show after = _ from h]
      exact .update _ _ _
  | startContainer image other =>
    obtain rfl := Option.some.inj hs
    exact h
  | _ => cases hs

namespace AnswersAll

variable {path front back : List Exchange}

theorem of_cons {exchange : Exchange} (h : files.AnswersAll (exchange :: path) last) :
    ∃ next, files.Answers exchange next ∧ AnswersAll next path last := by
  cases h with
  | cons hfirst hrest => exact ⟨_, hfirst, hrest⟩

theorem split (h : files.AnswersAll (front ++ back) last) :
    ∃ middle, files.AnswersAll front middle ∧ AnswersAll middle back last := by
  induction front generalizing files with
  | nil => exact ⟨files, .nil files, h⟩
  | cons first rest ih =>
    obtain ⟨next, hfirst, hrest⟩ := h.of_cons
    obtain ⟨middle, hfront, hback⟩ := ih hrest
    exact ⟨middle, .cons hfirst hfront, hback⟩

/-- Requests that are no operations on script files leave the directory as it is. -/
theorem same (h : files.AnswersAll path last)
    (hp : ∀ exchange ∈ path, script? exchange.request = none ∧ exchange.request ≠ .makeScript) :
    last = files := by
  induction h with
  | nil files => rfl
  | cons hfirst _ ih =>
    obtain ⟨⟨hs, hm⟩, hrest⟩ := List.forall_mem_cons.mp hp
    exact (ih hrest).trans (hfirst.same hs hm)

/-- Requests that are operations on one script file, or on none, leave the others as they are. -/
theorem sameBut (h : files.AnswersAll path last)
    (hp : ∀ exchange ∈ path, (script? exchange.request = none ∨
      script? exchange.request = some script) ∧ exchange.request ≠ .makeScript) :
    last.SameBut script files := by
  induction h with
  | nil files => exact .refl _ _
  | cons hfirst _ ih =>
    obtain ⟨⟨hs, hm⟩, hrest⟩ := List.forall_mem_cons.mp hp
    refine (ih hrest).trans ?_
    rcases hs with hs | hs
    · rw [hfirst.same hs hm]
      exact .refl _ _
    · exact hfirst.sameBut hs

end AnswersAll

end Files

end ChatWarden.Sandbox

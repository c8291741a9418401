import ChatWarden.Launch
import ChatWarden.Proofs.Text.LineEnds
import ChatWarden.Proofs.Text.WellFormed

/-!
# What gets in the way of a launch

A launch gets past the configuration file just if the file could not be read, or holds the UTF-8
of a text. Bytes that are no text are neither taken as an unreadable file nor read as anything:
they stop the launch before the credentials are looked at, and nothing is written down.

Results:
* `Identity.load_of_trouble`, `Identity.load_of_text`, `Identity.load_of_other`: the endings of
  loading.
* `identity_loads_iff`: which files are loaded, and what becomes of the launch.
-/

namespace ChatWarden

open Config (Identity)
open Log (Journal)

namespace Config

variable {path : String} {content : Except Fault (List UInt8)} {fault : Fault}

/-- What reading a configuration file may give without stopping the launch: trouble with the file,
    or the bytes of a text. -/
inductive Loadable : Except Fault (List UInt8) → Prop where
  | trouble {fault : Fault} (h : fault.isFileTrouble = true) : Loadable (.error fault)
  | text (text : String) : Loadable (.ok (Text.utf8Bytes text))

/-- A file that is missing, is a directory, or cannot be read is trouble with the file. -/
example : ∀ fault ∈ [Fault.missingFile, .isDirectory, .notADirectory, .forbidden, .brokenFile],
    fault.isFileTrouble = true := by decide

/-- The record about a file that could not be read. -/
def unreadRecord (path : String) (fault : Fault) : Log.Record :=
  { level := .warning, origin := .config
    message := "Could not read config file " ++ path ++ " (" ++ fault.shown ++ "), using defaults" }

namespace Identity

/-- The identity that the text of a file describes, with what is to be said about it. -/
def described (text : String) : Journal Identity := ofEntries (entries text.toList)

theorem load_of_trouble (h : fault.isFileTrouble = true) (path : String) :
    load path (.error fault) = ⟨[unreadRecord path fault], .ok {}⟩ := by
  unfold load
  dsimp only
  rw [if_pos h]
  rfl

theorem load_of_text (path text : String) :
    load path (.ok (Text.utf8Bytes text)) =
      ⟨(described text).records, .ok (described text).value⟩ := by
  have hentries : entries (Text.plainLineEnds text.toList) = entries text.toList := by
    unfold entries
    rw [Text.lines_plainLineEnds]
  unfold load
  dsimp only
  rw [Text.utf8Strict?_utf8Bytes, ← List.append_nil (described text).records]
  dsimp only
  rw [hentries]
  rfl

/-- Nothing is written down about a file that stops the launch. -/
theorem load_of_other (h : ¬Loadable content) (path : String) :
    ∃ fault, load path content = ⟨[], .error fault⟩ := by
  cases content with
  | error fault =>
    refine ⟨fault, ?_⟩
    have hother : ¬fault.isFileTrouble = true := fun htrouble => h (.trouble htrouble)
    unfold load
    dsimp only
    rw [if_neg hother]
    rfl
  | ok bytes =>
    refine ⟨.notText, ?_⟩
    have hnone : Text.utf8Strict? bytes = none := by
      rw [Text.utf8Strict?_eq_none_iff]
      rintro text rfl
      exact h (.text text)
    unfold load
    dsimp only
    rw [hnone]
    rfl

theorem exists_of_loadable (h : Loadable content) (path : String) :
    ∃ identity, (load path content).value = .ok identity := by
  cases h with
  | trouble htrouble =>
    rw [load_of_trouble htrouble]
    exact ⟨_, rfl⟩
  | text text =>
    rw [load_of_text]
    exact ⟨_, rfl⟩

end Identity

end Config

namespace Launch

variable {path : String} {content : Except Fault (List UInt8)}

/-- The record about missing credentials. -/
def withoutCredentials (path : String) : Log.Record :=
  Bot.record .error ("twitch.user and twitch.token must be set in " ++ path)

/-- A launch stops at an identity that cannot log in. -/
theorem prepare_of_no_credentials {identity : Identity} {records : List Log.Record}
    (h : Identity.load path content = ⟨records, .ok identity⟩)
    (hno : identity.hasCredentials = false) (place : Except Fault Store.Database) :
    prepare path content place = ⟨records ++ [withoutCredentials path], .error .refused⟩ := by
  unfold prepare
  rw [h]
  simp only [bind, hno, Bool.not_false, if_true]
  rfl

theorem prepare_of_load_error {fault : Fault}
    (h : Identity.load path content = ⟨[], .error fault⟩) (place : Except Fault Store.Database) :
    prepare path content place = ⟨[], .error (.crashed fault)⟩ := by
  unfold prepare
  rw [h]
  rfl

end Launch

open Config in
/-- **Loading.** The identity of the bot is loaded just if the file cannot be read or holds the
    UTF-8 of a text. In the first case it is the default one, with a warning, and in the second the
    one that the text describes. A launch with an identity that cannot log in is refused, with a
    record that says so. From anything else no identity is loaded, and the launch crashes without a
    record. -/
theorem identity_loads_iff (path : String) (content : Except Fault (List UInt8))
    (place : Except Fault Store.Database) :
    (Loadable content ↔ ∃ identity, (Identity.load path content).value = .ok identity) ∧
    (∀ fault, content = .error fault → fault.isFileTrouble = true →
      Identity.load path content = ⟨[unreadRecord path fault], .ok {}⟩) ∧
    (∀ text, content = .ok (Text.utf8Bytes text) → Identity.load path content =
      ⟨(Identity.described text).records, .ok (Identity.described text).value⟩) ∧
    (∀ identity, (Identity.load path content).value = .ok identity →
      identity.hasCredentials = false →
      Launch.prepare path content place =
        ⟨(Identity.load path content).records ++ [Launch.withoutCredentials path],
          .error .refused⟩) ∧
    (¬Loadable content → ∃ fault, Identity.load path content = ⟨[], .error fault⟩ ∧
      Launch.prepare path content place = ⟨[], .error (.crashed fault)⟩) := by
  refine ⟨⟨fun h => Identity.exists_of_loadable h path, ?_⟩, ?_, ?_, ?_, ?_⟩
  · rintro ⟨identity, hidentity⟩
    by_contra hother
    obtain ⟨fault, hfault⟩ := Identity.load_of_other hother path
    rw [hfault] at hidentity
    cases hidentity
  · rintro fault rfl htrouble
    exact Identity.load_of_trouble htrouble path
  · rintro text rfl
    exact Identity.load_of_text path text
  · intro identity hidentity hno
    apply Launch.prepare_of_no_credentials _ hno
    rw [← hidentity]
  · intro hother
    obtain ⟨fault, hfault⟩ := Identity.load_of_other hother path
    exact ⟨fault, hfault, Launch.prepare_of_load_error hfault place⟩

/-- A byte that begins no character stops the launch, and nothing is written down. -/
theorem stray_byte_crashes :
    Identity.load "bot.conf" (.ok [0xFF]) = ⟨[], .error .notText⟩ ∧
      Launch.prepare "bot.conf" (.ok [0xFF]) (.ok { path := "bot.db" }) =
        ⟨[], .error (.crashed .notText)⟩ := ⟨rfl, rfl⟩

end ChatWarden

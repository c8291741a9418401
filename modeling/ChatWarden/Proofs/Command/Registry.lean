import ChatWarden.Command.Dispatcher
import Mathlib.Data.List.Nodup
import Mathlib.Data.String.Basic

/-!
# Runs of a registry

However commands are registered and the registry is frozen, in any order and under any names: a name
stands for the command that was first registered under it, as long as that was before the first
freeze. Every other registration is refused and changes nothing, and all ways of asking the registry
agree on what it has.

Results:
* `Registry.get?_played`: what a run of calls makes of the command of a name.
* `Registry.all_strict`: the commands are listed in the increasing order of their names.
* `registry_keeps_first`: all of this for the run of any calls on a new registry.
-/

namespace ChatWarden

namespace Registry

open Log (Journal)

/-- A call that may change a registry. -/
inductive Call (κ : Type) where
  | register (command : κ)
  | freeze
  deriving DecidableEq, Repr

variable {κ : Type} [IsCommand κ] {registry : Registry κ} {command other : κ} {name : String}
  {call : Call κ} {calls rest : List (Call κ)}

/-- What a call yields, and the registry behind it. -/
def perform (registry : Registry κ) : Call κ → Except Refusal Unit × Registry κ
  | .register command =>
    match (registry.register command).value with
    | .ok registry => (.ok (), registry)
    | .error refusal => (.error refusal, registry)
  | .freeze => (.ok (), registry.freeze.value)

/-- The registry after calls one after the other. -/
def played (registry : Registry κ) (calls : List (Call κ)) : Registry κ :=
  calls.foldl (fun registry call => (registry.perform call).2) registry

/-- The registry with one more command. -/
def extended (registry : Registry κ) (command : κ) : Registry κ :=
  { registry with commands := registry.commands ++ [command] }

omit [IsCommand κ] in
@[simp] theorem isFrozen_extended (registry : Registry κ) (command : κ) :
    (registry.extended command).isFrozen = registry.isFrozen := rfl

/-! ## One call -/

theorem register_value (registry : Registry κ) (command : κ) :
    (registry.register command).value = registry.register? command := by
  unfold register
  cases registry.register? command with
  | ok next => rfl
  | error refusal => cases refusal <;> rfl

/-- A frozen registry refuses every command, also one whose name is taken. -/
theorem perform_frozen (h : registry.isFrozen = true) (command : κ) :
    registry.perform (.register command) =
      (.error (.frozen (IsCommand.name command)), registry) := by
  simp [perform, register_value, register?, h]

theorem perform_duplicate (hfrozen : registry.isFrozen = false)
    (h : registry.contains (IsCommand.name command) = true) :
    registry.perform (.register command) =
      (.error (.duplicate (IsCommand.name command)), registry) := by
  simp [perform, register_value, register?, hfrozen, h]

theorem perform_accepted (hfrozen : registry.isFrozen = false)
    (h : registry.contains (IsCommand.name command) = false) :
    registry.perform (.register command) = (.ok (), registry.extended command) := by
  simp [perform, register_value, register?, extended, hfrozen, h]

theorem perform_freeze (registry : Registry κ) :
    registry.perform .freeze = (.ok (), { registry with isFrozen := true }) := rfl

/-- Every way in which a call can end. -/
theorem perform_cases (registry : Registry κ) (call : Call κ) :
    (registry.perform call).2 = registry ∨
    (call = .freeze ∧ (registry.perform call).2 = { registry with isFrozen := true }) ∨
    ∃ command, call = .register command ∧ registry.isFrozen = false ∧
      registry.contains (IsCommand.name command) = false ∧
      (registry.perform call).2 = registry.extended command := by
  cases call with
  | freeze => exact .inr (.inl ⟨rfl, rfl⟩)
  | register command =>
    cases hfrozen : registry.isFrozen with
    | true => exact .inl (by rw [perform_frozen hfrozen])
    | false =>
      cases hname : registry.contains (IsCommand.name command) with
      | true => exact .inl (by rw [perform_duplicate hfrozen hname])
      | false =>
        exact .inr (.inr ⟨command, rfl, rfl, hname, by rw [perform_accepted hfrozen hname]⟩)

/-! ## Asking a registry -/

theorem contains_eq (registry : Registry κ) (name : String) :
    registry.contains name = (registry.get? name).isSome := by
  rw [Bool.eq_iff_iff, contains, get?, List.any_eq_true, List.find?_isSome]

theorem contains_iff : registry.contains name = true ↔
    ∃ command ∈ registry.commands, IsCommand.name command = name := by
  simp [contains]

theorem mem_all : command ∈ registry.all ↔ command ∈ registry.commands := List.mem_mergeSort

theorem mem_names : name ∈ registry.names ↔ registry.contains name = true := by
  rw [contains_iff, names, List.mem_map]
  simp only [mem_all]

theorem size_eq (registry : Registry κ) : registry.size = registry.names.length := by
  rw [names, all, List.length_map, List.length_mergeSort, size]

/-- No name is taken twice. -/
def Distinct (registry : Registry κ) : Prop := (registry.commands.map IsCommand.name).Nodup

/-- The commands of a registry in which no name is taken twice are in the increasing order of their
    names. -/
theorem all_strict (h : registry.Distinct) :
    registry.all.Pairwise fun a b => IsCommand.name a < IsCommand.name b := by
  have hle : registry.all.Pairwise fun a b =>
      decide (IsCommand.name a ≤ IsCommand.name b) = true :=
    List.pairwise_mergeSort (fun a b c => by simpa using le_trans)
      (fun a b => by simpa using le_total _ _) _
  have hne : (registry.all.map IsCommand.name).Nodup :=
    ((List.mergeSort_perm ..).map IsCommand.name).nodup_iff.mpr h
  rw [List.Nodup, List.pairwise_map] at hne
  refine (hle.and hne).imp fun ⟨hab, hneq⟩ => ?_
  exact lt_of_le_of_ne (of_decide_eq_true hab) hneq

theorem names_strict (h : registry.Distinct) : registry.names.Pairwise (· < ·) :=
  List.pairwise_map.mpr (all_strict h)

theorem get?_of_mem (h : registry.Distinct) (hmem : command ∈ registry.commands) :
    registry.get? (IsCommand.name command) = some command := by
  obtain ⟨front, back, hsplit⟩ := List.append_of_mem hmem
  rw [Distinct, hsplit, List.map_append, List.map_cons, List.nodup_append] at h
  refine List.find?_eq_some_iff_append.mpr ⟨by simp, front, back, hsplit, fun other hother => ?_⟩
  simpa using h.2.2 _ (List.mem_map_of_mem hother) _ List.mem_cons_self

/-- The list of commands is that of the names, each with its command. -/
theorem map_get?_names (h : registry.Distinct) :
    registry.names.map registry.get? = registry.all.map some := by
  rw [names, List.map_map]
  exact List.map_congr_left fun command hmem => get?_of_mem h (mem_all.mp hmem)

/-! ## Runs -/

theorem isFrozen_played : (registry.played calls).isFrozen = true ↔
    registry.isFrozen = true ∨ .freeze ∈ calls := by
  induction calls generalizing registry with
  | nil => simp [played]
  | cons call rest ih =>
    rw [played, List.foldl_cons, ← played, ih, List.mem_cons]
    rcases registry.perform_cases call with hsame | ⟨rfl, hnext⟩ | ⟨command, rfl, hopen, -, hnext⟩
    · cases call with
      | register command => simp [hsame]
      | freeze => simp [perform_freeze]
    · simp [hnext]
    · simp [hnext]

theorem Distinct.perform (h : registry.Distinct) (call : Call κ) :
    (registry.perform call).2.Distinct := by
  rcases registry.perform_cases call with hsame | ⟨-, hnext⟩ | ⟨command, -, -, hnew, hnext⟩
  · rwa [hsame]
  · rwa [hnext]
  · rw [hnext, Distinct, extended, List.map_append, List.map_singleton]
    refine List.Nodup.append h (List.nodup_singleton _) fun name hold hone => ?_
    rw [List.mem_singleton.mp hone] at hold
    exact Bool.false_ne_true (hnew.symm.trans (contains_iff.mpr (List.mem_map.mp hold)))

theorem Distinct.played (h : registry.Distinct) (calls : List (Call κ)) :
    (registry.played calls).Distinct := by
  induction calls generalizing registry with
  | nil => exact h
  | cons call rest ih => exact ih (h.perform call)

/-! ## First registrations -/

/-- A command is the first that was registered under a name, and that before any freeze. -/
def IsFirst (calls : List (Call κ)) (name : String) (command : κ) : Prop :=
  ∃ before after, calls = before ++ .register command :: after ∧ .freeze ∉ before ∧
    IsCommand.name command = name ∧ ∀ other, .register other ∈ before → IsCommand.name other ≠ name

theorem not_isFirst_nil : ¬IsFirst [] name command := by
  rintro ⟨before, after, hcalls, -⟩
  simp at hcalls

theorem not_isFirst_freeze : ¬IsFirst (.freeze :: rest) name command := by
  rintro ⟨before, after, hcalls, hopen, -⟩
  cases before with
  | nil => simp at hcalls
  | cons first before =>
    obtain rfl : .freeze = first := (List.cons.inj hcalls).1
    exact hopen List.mem_cons_self

theorem isFirst_register : IsFirst (.register other :: rest) name command ↔
    IsCommand.name other = name ∧ command = other ∨
      IsCommand.name other ≠ name ∧ IsFirst rest name command := by
  constructor
  · rintro ⟨before, after, hcalls, hopen, hname, hfirst⟩
    cases before with
    | nil =>
      obtain rfl : other = command := Call.register.inj (List.cons.inj hcalls).1
      exact .inl ⟨hname, rfl⟩
    | cons first before =>
      obtain ⟨rfl, rfl⟩ := List.cons.inj hcalls
      exact .inr ⟨hfirst other List.mem_cons_self, before, after, rfl,
        fun h => hopen (List.mem_cons_of_mem _ h), hname,
        fun _ h => hfirst _ (List.mem_cons_of_mem _ h)⟩
  · rintro (⟨hname, rfl⟩ | ⟨hother, before, after, rfl, hopen, hname, hfirst⟩)
    · exact ⟨[], rest, rfl, List.not_mem_nil, hname, fun _ h => absurd h List.not_mem_nil⟩
    · refine ⟨.register other :: before, after, rfl, by simpa using hopen, hname, ?_⟩
      intro earlier hmem
      rcases List.mem_cons.mp hmem with heq | hrest
      · rwa [Call.register.inj heq]
      · exact hfirst earlier hrest

theorem get?_extended (registry : Registry κ) (command : κ) (name : String) :
    (registry.extended command).get? name =
      (registry.get? name).or (if IsCommand.name command == name then some command else none) := by
  rw [extended, get?, get?, List.find?_append, List.find?_singleton]

/-- The command of a name after calls: the one that the name had before, or else the first one that
    was registered under it. -/
theorem get?_played : (registry.played calls).get? name = some command ↔
    registry.get? name = some command ∨
      registry.isFrozen = false ∧ registry.get? name = none ∧ IsFirst calls name command := by
  induction calls generalizing registry with
  | nil => simp [played, not_isFirst_nil]
  | cons call rest ih =>
    rw [played, List.foldl_cons, ← played, ih]
    cases call with
    | freeze =>
      simp only [perform_freeze, not_isFirst_freeze, Bool.true_eq_false, false_and, and_false,
        or_false]
      rfl
    | register other =>
      rw [isFirst_register]
      cases hfrozen : registry.isFrozen with
      | true => simp [perform_frozen hfrozen, hfrozen]
      | false =>
        cases hname : registry.contains (IsCommand.name other) with
        | true =>
          -- A name that is taken is none that the registry does not know.
          have hknown : registry.get? name = none → IsCommand.name other ≠ name := by
            rintro hnone rfl
            simp [contains_eq, hnone] at hname
          simp only [perform_duplicate hfrozen hname, hfrozen, true_and]
          grind
        | false =>
          have hfree : registry.get? (IsCommand.name other) = none := by
            simpa [contains_eq] using hname
          simp only [perform_accepted hfrozen hname, isFrozen_extended, hfrozen, get?_extended,
            true_and]
          by_cases hsame : IsCommand.name other = name
          · subst hsame
            simpa [hfree] using eq_comm
          · simp [hsame]

/-- A new registry after calls: what the ways of asking it tell, and what it makes of one more
    registration. -/
structure IsAfter (registry : Registry κ) (calls : List (Call κ)) : Prop where
  get_eq (name : String) (command : κ) :
    registry.get? name = some command ↔ IsFirst calls name command
  isFrozen_iff : registry.isFrozen = true ↔ .freeze ∈ calls
  /-- The names are in the increasing order of their code points. -/
  names_strict : registry.names.Pairwise (· < ·)
  mem_names (name : String) : name ∈ registry.names ↔ ∃ command, IsFirst calls name command
  map_get?_names : registry.names.map registry.get? = registry.all.map some
  contains_eq (name : String) : registry.contains name = (registry.get? name).isSome
  size_eq : registry.size = registry.names.length
  frozen (command : κ) : .freeze ∈ calls → registry.perform (.register command) =
    (.error (.frozen (IsCommand.name command)), registry)
  duplicate (command : κ) : .freeze ∉ calls → IsCommand.name command ∈ registry.names →
    registry.perform (.register command) =
      (.error (.duplicate (IsCommand.name command)), registry)
  accepted (command : κ) : .freeze ∉ calls → IsCommand.name command ∉ registry.names →
    registry.perform (.register command) = (.ok (), registry.extended command)
  made_iff (execute : κ → (args sender : String) → Job Reply) (mark : String) :
    Dispatcher.make registry execute mark = .ok ⟨registry, execute, mark⟩ ↔ .freeze ∈ calls
  notMade_iff (execute : κ → (args sender : String) → Job Reply) (mark : String) :
    Dispatcher.make registry execute mark = .error Dispatcher.notFrozen ↔ .freeze ∉ calls

theorem isAfter_played (calls : List (Call κ)) : IsAfter (played {} calls) calls := by
  have hdistinct : (played {} calls).Distinct :=
    Distinct.played (show Distinct ({} : Registry κ) from .nil) calls
  have hget (name : String) (command : κ) :
      (played {} calls).get? name = some command ↔ IsFirst calls name command := by
    rw [get?_played]
    simp [get?]
  have hfrozen : (played {} calls).isFrozen = true ↔ .freeze ∈ calls := by
    simp [isFrozen_played]
  have hopen : (played {} calls).isFrozen = false ↔ .freeze ∉ calls := by
    rw [← hfrozen, Bool.not_eq_true]
  exact {
    get_eq := hget
    isFrozen_iff := hfrozen
    names_strict := names_strict hdistinct
    mem_names := fun name => by
      rw [mem_names, contains_eq, Option.isSome_iff_exists]
      simp only [hget]
    map_get?_names := map_get?_names hdistinct
    contains_eq := contains_eq _
    size_eq := size_eq _
    frozen := fun command h => perform_frozen (hfrozen.mpr h) command
    duplicate := fun command h hname => perform_duplicate (hopen.mpr h) (mem_names.mp hname)
    accepted := fun command h hname =>
      perform_accepted (hopen.mpr h) (by rwa [mem_names, Bool.not_eq_true] at hname)
    made_iff := fun execute mark => by
      rw [← hfrozen, Dispatcher.make]
      split <;> simp_all
    notMade_iff := fun execute mark => by
      rw [← hopen, Dispatcher.make]
      split <;> simp_all }

end Registry

/-- **A registry keeps the first command of every name.** After any calls on a new registry, a name
    stands for the command of its first registration, if that came before the first freeze. All
    other registrations are refused, by a frozen registry for that reason even when the name is
    taken as well, and change nothing; a registry that is frozen stays so; the names are listed in
    increasing order, the commands in the same one, and all ways of asking agree; and a dispatcher
    can be made of the registry just from the first freeze on. -/
theorem registry_keeps_first {κ : Type} [IsCommand κ] (calls : List (Registry.Call κ)) :
    (Registry.played {} calls).IsAfter calls ∧
      ∀ more, (Registry.played {} calls).isFrozen = true →
        (Registry.played {} (calls ++ more)).isFrozen = true := by
  refine ⟨Registry.isAfter_played calls, fun more hfrozen => ?_⟩
  rw [(Registry.isAfter_played calls).isFrozen_iff] at hfrozen
  exact (Registry.isAfter_played _).isFrozen_iff.mpr (List.mem_append_left more hfrozen)

end ChatWarden

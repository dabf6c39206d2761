import Mathlib
import WorkspacePool.Docker.Session

/-!
Which container a project has. A container's name keeps of a project's id neither the case of its
letters nor which character stands where a dash is written, so that projects whose ids differ in
no more than that have one container. Whatever is done with containers for a project is done with
the one that is named for it, and thereby for every project that shares it.
-/

namespace WorkspacePool.Docker

/-! ### Names -/

/-- What a container's name holds for a character of a project's id. -/
def nameCharacter (character : Char) : Char :=
  if isNameCharacter character then character.toLower else '-'

/-- A name holds a dash for a dash, and for all that may not stand in a name. -/
def IsDash (character : Char) : Prop :=
  character = '-' ∨ isNameCharacter character = false

/-- Two ids have equal letters, but for their case, and dashes at the same places. -/
def Alike (left right : String) : Prop :=
  List.Forall₂ (fun first second => first.toLower = second.toLower ∨ IsDash first ∧ IsDash second)
    left.toList right.toList

/-- An id without capitals, of characters that may stand in a name. -/
def IsPlain (projectId : String) : Prop :=
  ∀ character ∈ projectId.toList,
    isNameCharacter character = true ∧ character.isUpper = false

theorem isNameCharacter_toLower (character : Char) :
    isNameCharacter character.toLower = isNameCharacter character := by
  by_cases upper : character.isUpper = true
  · have letter : character.isAlpha = true := by simp [Char.isAlpha, upper]
    simp [isNameCharacter, Char.isAlphanum, letter]
  · rw [Char.toLower_eq_of_not_isUpper upper]

theorem isNameCharacter_nameCharacter (character : Char) :
    isNameCharacter (nameCharacter character) = true := by
  unfold nameCharacter
  split
  next stands => rw [isNameCharacter_toLower, stands]
  · rfl

theorem nameCharacter_eq_dash_iff {character : Char} :
    nameCharacter character = '-' ↔ IsDash character := by
  unfold nameCharacter IsDash
  split
  next stands =>
    refine ⟨fun dash => .inl ?_, ?_⟩
    · -- A capital is no dash in small letters, and all else is what it was.
      by_cases upper : character.isUpper = true
      · have letter : character.toLower.isAlpha = true := by simp [Char.isAlpha, upper]
        rw [dash] at letter
        contradiction
      · rwa [Char.toLower_eq_of_not_isUpper upper] at dash
    · rintro (rfl | barred)
      · rfl
      · rw [stands] at barred
        contradiction
  next barred => simp [barred]

theorem nameCharacter_eq_iff {first second : Char} :
    nameCharacter first = nameCharacter second ↔
      first.toLower = second.toLower ∨ IsDash first ∧ IsDash second := by
  constructor
  · intro same
    by_cases dash : IsDash first
    · have dashToo := nameCharacter_eq_dash_iff.mpr dash
      exact .inr ⟨dash, nameCharacter_eq_dash_iff.mp (same ▸ dashToo)⟩
    · have other : ¬ IsDash second := fun dashToo =>
        dash (nameCharacter_eq_dash_iff.mp (same.trans (nameCharacter_eq_dash_iff.mpr dashToo)))
      simp only [IsDash, not_or, Bool.not_eq_false] at dash other
      simp only [nameCharacter, dash.2, other.2, if_true] at same
      exact .inl same
  · rintro (same | ⟨dash, dashToo⟩)
    · have stands : isNameCharacter first = isNameCharacter second := by
        rw [← isNameCharacter_toLower first, same, isNameCharacter_toLower]
      simp only [nameCharacter, stands, same]
    · rw [nameCharacter_eq_dash_iff.mpr dash, nameCharacter_eq_dash_iff.mpr dashToo]

theorem toList_containerName (settings : Settings) (projectId : String) :
    (containerName settings projectId).toList =
      settings.namePrefix.toList ++ '-' :: projectId.toList.map nameCharacter := by
  simp [containerName, nameCharacter]

theorem containerName_eq_iff {settings : Settings} {left right : String} :
    containerName settings left = containerName settings right ↔ Alike left right := by
  rw [← String.toList_inj, toList_containerName, toList_containerName,
    List.append_cancel_left_eq, List.cons.injEq]
  rw [← List.forall₂_eq_eq_eq, List.forall₂_map_left_iff, List.forall₂_map_right_iff]
  simp only [true_and, nameCharacter_eq_iff, Alike]

theorem nameCharacter_eq_self_iff {character : Char} :
    nameCharacter character = character ↔
      isNameCharacter character = true ∧ character.isUpper = false := by
  constructor
  · intro same
    have stands := isNameCharacter_nameCharacter character
    rw [same] at stands
    rw [nameCharacter, if_pos stands] at same
    refine ⟨stands, ?_⟩
    rw [← same]
    exact Char.isUpper_toLower_eq_false character
  · rintro ⟨stands, small⟩
    rw [nameCharacter, if_pos stands, Char.toLower_eq_of_not_isUpper (by simp [small])]

/-- Plain ids are those that stand in the name as they are. -/
theorem containerName_eq_iff_isPlain {settings : Settings} {projectId : String} :
    containerName settings projectId = settings.namePrefix ++ "-" ++ projectId ↔
      IsPlain projectId := by
  have kept := List.map_inj_left (f := nameCharacter) (g := id) (l := projectId.toList)
  rw [List.map_id] at kept
  rw [← String.toList_inj, toList_containerName]
  simp [kept, nameCharacter_eq_self_iff, IsPlain]

theorem IsPlain.eq_of_containerName {settings : Settings} {left right : String}
    (plain : IsPlain left) (plainToo : IsPlain right)
    (same : containerName settings left = containerName settings right) : left = right := by
  rw [containerName_eq_iff_isPlain.mpr plain, containerName_eq_iff_isPlain.mpr plainToo] at same
  exact (String.append_right_inj _).mp same

/-- Of what a command line cannot hold, a name holds nothing but what its prefix does. -/
theorem nul_mem_containerName {settings : Settings} {projectId : String} :
    '\x00' ∈ (containerName settings projectId).toList ↔ '\x00' ∈ settings.namePrefix.toList := by
  rw [toList_containerName, List.mem_append, List.mem_cons, List.mem_map]
  refine or_iff_left ?_
  rintro (dash | ⟨character, -, nul⟩)
  · contradiction
  · have stands := isNameCharacter_nameCharacter character
    rw [nul] at stands
    contradiction

/-! ### What is done with containers -/

/-- The container that a command line removes, starts or works in. -/
def container? : List String → Option String
  | ["rm", "-f", name] => some name
  | "run" :: "-d" :: "--name" :: name :: _ => some name
  | "exec" :: name :: _ => some name
  | _ => none

theorem mem_of_container? {arguments : List String} {name : String}
    (found : container? arguments = some name) : name ∈ arguments := by
  unfold container? at found
  split at found <;> simp_all

/-- A session can ask for a command if it does so when the commands before end in some way. -/
inductive Session.CanAsk {α : Type} (arguments : List String) : Session α → Prop where
  | now {next : Outcome → Session α} : CanAsk arguments (.ask arguments next)
  | later {first : List String} {next : Outcome → Session α} {outcome : Outcome}
      (asks : CanAsk arguments (next outcome)) : CanAsk arguments (.ask first next)

/-- Whether a session can do something with a container. -/
def Session.ActsOn {α : Type} (session : Session α) (name : String) : Prop :=
  ∃ arguments, session.CanAsk arguments ∧ container? arguments = some name

section Running

variable {α : Type} {arguments asked : List String} {next : Option String → Session α}

theorem run_bind (arguments : List String) (next : Option String → Session α) :
    run arguments >>= next =
      if isPassable arguments = true then
        .ask arguments fun outcome => next (failure? arguments outcome)
      else next (failure? arguments (.notStarted "nul byte found in provided data")) := by
  unfold run
  split <;> rfl

theorem canAsk_run (passable : isPassable arguments = true) :
    (run arguments >>= next).CanAsk arguments := by
  rw [run_bind, if_pos passable]
  exact .now

theorem canAsk_after_run (asks : ∀ failure, (next failure).CanAsk asked) :
    (run arguments >>= next).CanAsk asked := by
  rw [run_bind]
  split
  · exact Session.CanAsk.later (asks (failure? arguments (.exited 0 "")))
  · exact asks _

theorem asked_run (asks : (run arguments >>= next).CanAsk asked) :
    asked = arguments ∧ isPassable asked = true ∨ ∃ failure, (next failure).CanAsk asked := by
  rw [run_bind] at asks
  split at asks
  next passable =>
    cases asks with
    | now => exact .inl ⟨rfl, passable⟩
    | later asks => exact .inr ⟨_, asks⟩
  · exact .inr ⟨_, asks⟩

theorem canAsk_after_success (passable : isPassable arguments = true)
    (asks : (next none).CanAsk asked) : (run arguments >>= next).CanAsk asked := by
  rw [run_bind, if_pos passable]
  have succeeds : failure? arguments (.exited 0 "") = none := rfl
  exact .later (succeeds ▸ asks)

/-- A command succeeds only if it is passed on. -/
theorem asked_after_run (other : asked ≠ arguments)
    (asks : (run arguments >>= next).CanAsk asked) :
    (∃ reason, (next (some reason)).CanAsk asked) ∨
      isPassable arguments = true ∧ (next none).CanAsk asked := by
  rw [run_bind] at asks
  split at asks
  next passable =>
    cases asks with
    | now => exact absurd rfl other
    | @later _ _ outcome asks =>
        cases failed : failure? arguments outcome with
        | some reason => exact .inl ⟨reason, failed ▸ asks⟩
        | none => exact .inr ⟨passable, failed ▸ asks⟩
  · exact .inl ⟨_, asks⟩

theorem not_canAsk_pure {result : α} : ¬ (pure result : Session α).CanAsk asked := nofun

end Running

section Operations

variable {settings : Settings} {projectId gitRepoUrl name : String} {asked : List String}

theorem asked_provision (asks : (provision settings projectId gitRepoUrl).CanAsk asked) :
    isPassable asked = true ∧
      (asked = pullArguments settings ∨ asked = removeArguments settings projectId ∨
        asked = runArguments settings projectId gitRepoUrl ∨
        asked = cloneArguments settings projectId gitRepoUrl) := by
  rcases asked_run asks with ⟨rfl, passable⟩ | ⟨-, asks⟩
  · exact ⟨passable, .inl rfl⟩
  rcases asked_run asks with ⟨rfl, passable⟩ | ⟨-, asks⟩
  · exact ⟨passable, .inr (.inl rfl)⟩
  rcases asked_run asks with ⟨rfl, passable⟩ | ⟨failed, asks⟩
  · exact ⟨passable, .inr (.inr (.inl rfl))⟩
  cases failed with
  | some reason => exact absurd asks not_canAsk_pure
  | none =>
      dsimp only at asks
      split at asks
      · rcases asked_run asks with ⟨rfl, passable⟩ | ⟨-, asks⟩
        · exact ⟨passable, .inr (.inr (.inr rfl))⟩
        · exact absurd asks not_canAsk_pure
      · exact absurd asks not_canAsk_pure

theorem asked_deprovision (asks : (deprovision settings projectId).CanAsk asked) :
    isPassable asked = true ∧ asked = removeArguments settings projectId := by
  rcases asked_run asks with ⟨rfl, passable⟩ | ⟨failed, asks⟩
  · exact ⟨passable, rfl⟩
  · cases failed with
    | none => exact absurd asks not_canAsk_pure
    | some reason =>
        dsimp only at asks
        split at asks <;> exact absurd asks not_canAsk_pure

/-- A command line that names a container can be passed on only if the prefix can. -/
theorem nul_notMem_namePrefix (passable : isPassable asked = true)
    (named : containerName settings projectId ∈ asked) : '\x00' ∉ settings.namePrefix.toList := by
  intro nul
  have clean := List.all_eq_true.mp passable _ named
  simp [nul_mem_containerName.mpr nul] at clean

theorem isPassable_removeArguments (clean : '\x00' ∉ settings.namePrefix.toList) :
    isPassable (removeArguments settings projectId) = true := by
  have whole : '\x00' ∉ (containerName settings projectId).toList :=
    fun nul => clean (nul_mem_containerName.mp nul)
  simp [isPassable, removeArguments, whole]

/-- Making a workspace does something with the project's own container and with no other. -/
theorem provision_actsOn_iff :
    (provision settings projectId gitRepoUrl).ActsOn name ↔
      '\x00' ∉ settings.namePrefix.toList ∧ name = containerName settings projectId := by
  constructor
  · rintro ⟨asked, asks, found⟩
    obtain ⟨passable, made⟩ := asked_provision asks
    have own : name = containerName settings projectId := by
      rcases made with rfl | rfl | rfl | rfl
      · simp [container?, pullArguments] at found
      all_goals exact (Option.some.inj found).symm
    subst own
    exact ⟨nul_notMem_namePrefix passable (mem_of_container? found), rfl⟩
  · rintro ⟨clean, rfl⟩
    exact ⟨removeArguments settings projectId,
      canAsk_after_run fun _ => canAsk_run (isPassable_removeArguments clean), rfl⟩

theorem deprovision_actsOn_iff :
    (deprovision settings projectId).ActsOn name ↔
      '\x00' ∉ settings.namePrefix.toList ∧ name = containerName settings projectId := by
  constructor
  · rintro ⟨asked, asks, found⟩
    obtain ⟨passable, rfl⟩ := asked_deprovision asks
    obtain rfl : containerName settings projectId = name := Option.some.inj found
    exact ⟨nul_notMem_namePrefix passable (mem_of_container? found), rfl⟩
  · rintro ⟨clean, rfl⟩
    exact ⟨removeArguments settings projectId, canAsk_run (isPassable_removeArguments clean), rfl⟩

end Operations

/-- Two projects have one container exactly if their ids are alike. What is done to make or to
remove a project's workspace is done with the project's container alone, so that it is done with
another project's container exactly if the two ids are alike. Ids are told apart for sure if they
are plain, which are the ids that stand in the name as they are. -/
theorem alike_ids_share_container (settings : Settings) (left right gitRepoUrl : String) :
    (containerName settings left = containerName settings right ↔ Alike left right) ∧
    (∀ name, (provision settings left gitRepoUrl).ActsOn name ↔
      '\x00' ∉ settings.namePrefix.toList ∧ name = containerName settings left) ∧
    (∀ name, (deprovision settings left).ActsOn name ↔
      '\x00' ∉ settings.namePrefix.toList ∧ name = containerName settings left) ∧
    (containerName settings left = settings.namePrefix ++ "-" ++ left ↔ IsPlain left) ∧
    (IsPlain left → IsPlain right →
      containerName settings left = containerName settings right → left = right) :=
  ⟨containerName_eq_iff, fun _ => provision_actsOn_iff, fun _ => deprovision_actsOn_iff,
    containerName_eq_iff_isPlain, IsPlain.eq_of_containerName⟩

/-- Projects whose ids differ in the case of a letter have one container, and the removal of the
one project's workspace removes the other's. -/
theorem different_ids_can_share_container :
    "Acme" ≠ "acme" ∧ containerName {} "Acme" = containerName {} "acme" ∧
      (deprovision {} "Acme").against (fun _ => .exited 0 "") =
        (.ok (), [removeArguments {} "acme"]) ∧
      ((provision {} "Acme" "").against fun _ => .exited 0 "").2 =
        [pullArguments {}, removeArguments {} "acme", runArguments {} "Acme" ""] ∧
      container? (runArguments {} "Acme" "") = some (containerName {} "acme") := by
  decide +kernel

end WorkspacePool.Docker

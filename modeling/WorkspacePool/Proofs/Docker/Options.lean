import WorkspacePool.Proofs.Docker.Naming
import WorkspacePool.Proofs.Settings.Acceptance

/-!
What the text of a message is taken for in the command lines that are passed on for it. A command
reads its arguments by a convention: options start with a dash and may be owed a value, a separator
ends them, and all else are operands. An argument that starts with no dash is no option by any
convention, and this is what keeps the text of messages from being one. The URL that a repository
is cloned from is the exception: one that starts with a dash is an option to the command that is to
clone it.
-/

namespace WorkspacePool.Docker

/-! ### Reading arguments -/

/-- What an argument is to the command that reads it. -/
inductive Role where
  | option
  | value
  | separator
  | operand
deriving DecidableEq, Repr

/-- How a command reads its arguments. -/
structure Convention where
  /-- Whether the argument behind an option is its value. -/
  takesValue : String → Bool
  /-- Whether options may stand behind an operand. -/
  mixes : Bool

/-- What the arguments so far make of the next one. -/
inductive Stage where
  | mayBeOption
  | owedToOption
  | isOperand

def isDashed (argument : String) : Bool := argument.toList.head? == some '-'

namespace Convention

/-- What an argument is, and what it makes of the next one. A dash alone is an operand, and a value
may be any text. -/
def read (convention : Convention) : Stage → String → Role × Stage
  | .owedToOption, _ => (.value, .mayBeOption)
  | .isOperand, _ => (.operand, .isOperand)
  | .mayBeOption, argument =>
      if argument = "--" then (.separator, .isOperand)
      else if isDashed argument = true ∧ argument ≠ "-" then
        (.option, if convention.takesValue argument then .owedToOption else .mayBeOption)
      else (.operand, if convention.mixes then .mayBeOption else .isOperand)

def roles (convention : Convention) : Stage → List String → List Role
  | _, [] => []
  | stage, argument :: rest =>
      (convention.read stage argument).1 :: convention.roles (convention.read stage argument).2 rest

end Convention

/-- A program reads the arguments of each of its commands by a convention. -/
abbrev Program := String → Convention

/-- A command line begins with the command. -/
def Program.roles (program : Program) : List String → List Role
  | [] => []
  | command :: arguments => .operand :: (program command).roles .mayBeOption arguments

/-- An argument is the value of an option, or an operand that either starts with no dash or stands
behind the separator. -/
def Program.Guards (program : Program) (commandLine : List String) (place : Nat) : Prop :=
  (program.roles commandLine)[place]? = some .value ∨
    (program.roles commandLine)[place]? = some .operand ∧
      ((∀ argument ∈ commandLine[place]?, isDashed argument = false) ∨
        .separator ∈ (program.roles commandLine).take place)

section Reading

variable {convention : Convention} {program : Program} {stage : Stage} {argument : String}
  {arguments commandLine : List String} {place : Nat}

theorem Convention.read_undashed (undashed : isDashed argument = false) :
    (convention.read stage argument).1 = .value ∨
      (convention.read stage argument).1 = .operand := by
  cases stage with
  | owedToOption => exact .inl rfl
  | isOperand => exact .inr rfl
  | mayBeOption =>
      have unseparated : argument ≠ "--" := by
        rintro rfl
        contradiction
      simp [Convention.read, unseparated, undashed]

theorem Convention.read_option (dashed : isDashed argument = true)
    (other : argument ≠ "-" ∧ argument ≠ "--") :
    convention.read .mayBeOption argument =
      (.option, if convention.takesValue argument then .owedToOption else .mayBeOption) := by
  simp [Convention.read, dashed, other]

theorem Convention.read_flag (dashed : isDashed argument = true)
    (other : argument ≠ "-" ∧ argument ≠ "--") (flag : convention.takesValue argument = false) :
    convention.read .mayBeOption argument = (.option, .mayBeOption) := by
  rw [Convention.read_option dashed other, flag]
  rfl

theorem Convention.read_owing (dashed : isDashed argument = true)
    (other : argument ≠ "-" ∧ argument ≠ "--") (owing : convention.takesValue argument = true) :
    convention.read .mayBeOption argument = (.option, .owedToOption) := by
  rw [Convention.read_option dashed other, owing]
  rfl

theorem Convention.read_eq_option_iff :
    (convention.read .mayBeOption argument).1 = .option ↔
      isDashed argument = true ∧ argument ≠ "-" ∧ argument ≠ "--" := by
  simp only [Convention.read]
  split
  · simp_all
  · split <;> tauto

theorem Convention.read_ne_value : (convention.read .mayBeOption argument).1 ≠ .value := by
  simp only [Convention.read]
  split
  · nofun
  · split <;> nofun

theorem Convention.roles_isOperand :
    convention.roles .isOperand arguments = List.replicate arguments.length .operand := by
  induction arguments with
  | nil => rfl
  | cons argument rest ih =>
      rw [List.length_cons, List.replicate_succ, ← ih]
      rfl

/-- Whatever stands before it, an argument without a dash is no option. -/
theorem Convention.roles_undashed (found : arguments[place]? = some argument)
    (undashed : isDashed argument = false) :
    (convention.roles stage arguments)[place]? = some .value ∨
      (convention.roles stage arguments)[place]? = some .operand := by
  -- The stage that the arguments before leave behind is left open, so it need not be followed.
  induction arguments generalizing stage place with
  | nil => contradiction
  | cons first rest ih =>
      cases place with
      | zero =>
          obtain rfl : first = argument := Option.some.inj found
          simpa [Convention.roles] using Convention.read_undashed undashed
      | succ place => exact ih found

theorem Program.roles_undashed (found : commandLine[place]? = some argument)
    (undashed : isDashed argument = false) :
    (program.roles commandLine)[place]? = some .value ∨
      (program.roles commandLine)[place]? = some .operand := by
  cases commandLine with
  | nil => contradiction
  | cons command arguments =>
      cases place with
      | zero => exact .inr rfl
      | succ place => exact Convention.roles_undashed found undashed

theorem Program.guards_of_undashed (found : commandLine[place]? = some argument)
    (undashed : isDashed argument = false) : program.Guards commandLine place := by
  refine (Program.roles_undashed found undashed).imp_right fun operand => ⟨operand, .inl ?_⟩
  intro other same
  obtain rfl := Option.some.inj (found.symm.trans same)
  exact undashed

/-- Where an option may stand and no separator does before, it takes an argument without a dash. -/
theorem Program.guards_iff (found : commandLine[place]? = some argument)
    (read : (program.roles commandLine)[place]? = some (convention.read .mayBeOption argument).1)
    (unseparated : .separator ∉ (program.roles commandLine).take place) :
    program.Guards commandLine place ↔ isDashed argument = false := by
  refine ⟨?_, Program.guards_of_undashed found⟩
  rintro (value | ⟨-, undashed | separated⟩)
  · exact absurd (Option.some.inj (read.symm.trans value)) Convention.read_ne_value
  · exact undashed argument found
  · exact absurd separated unseparated

end Reading

/-! ### Text in command lines -/

/-- What a message says of a workspace. -/
structure Message where
  projectId : String
  gitRepoUrl : String

/-- A command line that is written for a message. -/
abbrev Template := Message → List String

/-- What stands in a place is built from nothing that a message says: it is the same for all. -/
def Template.IsFixed (template : Template) (place : Nat) : Prop :=
  ∃ argument, ∀ message, (template message)[place]? = argument

def pulling (settings : Settings) : Template := fun _ => pullArguments settings

def removing (settings : Settings) : Template := fun message =>
  removeArguments settings message.projectId

def running (settings : Settings) : Template := fun message =>
  runArguments settings message.projectId message.gitRepoUrl

def cloning (settings : Settings) : Template := fun message =>
  cloneArguments settings message.projectId message.gitRepoUrl

def templates (settings : Settings) : List Template :=
  [pulling settings, removing settings, running settings, cloning settings]

/-- A command line is passed on when a message's workspace is made or removed. -/
def Passes (settings : Settings) (message : Message) (asked : List String) : Prop :=
  (provision settings message.projectId message.gitRepoUrl).CanAsk asked ∨
    (deprovision settings message.projectId).CanAsk asked

/-- In the command lines that are passed on for a message, no argument that is built from a message
can be taken for an option, neither by the program they are passed on to nor by the one that is run
inside a container. -/
def TextIsNoOption (docker git : Program) (settings : Settings) (message : Message) : Prop :=
  ∀ asked, Passes settings message asked →
    ∃ template ∈ templates settings, template message = asked ∧
      (∀ place, template.IsFixed place ∨ docker.Guards asked place) ∧
      ∀ container inner, asked = "exec" :: container :: "git" :: inner →
        ∀ place, template.IsFixed (place + 3) ∨ git.Guards inner place

/-- What is documented of the commands that have text of messages among their operands: options
behind a container's name belong to what is run inside it, and of the options that stand before
text the depth alone takes a value. -/
structure Documented (docker git : Program) : Prop where
  exec : (docker "exec").mixes = false
  force : (docker "rm").takesValue "-f" = false
  singleBranch : (git "clone").takesValue "--single-branch" = false
  depth : (git "clone").takesValue "--depth" = true

section Texts

variable {docker git : Program} {settings : Settings} {message : Message} {asked : List String}
  {template : Template} {place : Nat} {first second : String}

@[simp] theorem mem_templates_iff : template ∈ templates settings ↔ template = pulling settings ∨
    template = removing settings ∨ template = running settings ∨ template = cloning settings := by
  simp [templates]

theorem isDashed_append (filled : first ≠ "") : isDashed (first ++ second) = isDashed first := by
  have filledList : first.toList ≠ [] := by simpa using filled
  rw [isDashed, isDashed, String.toList_append, List.head?_append_of_ne_nil _ filledList]

theorem isDashed_containerName (settings : Settings) (projectId : String) :
    isDashed (containerName settings projectId) = true ↔
      settings.namePrefix = "" ∨ isDashed settings.namePrefix = true := by
  by_cases empty : settings.namePrefix = ""
  · simp [isDashed, toList_containerName, empty]
  · rw [containerName, String.append_assoc, isDashed_append empty]
    simp [empty]

theorem undashed_containerName {projectId : String} (filled : settings.namePrefix ≠ "")
    (undashed : isDashed settings.namePrefix = false) :
    isDashed (containerName settings projectId) = false := by
  rw [Bool.eq_false_iff, ne_eq, isDashed_containerName, undashed]
  simp [filled]

theorem isDashed_setting (name value : String) (filled : name ≠ "") :
    isDashed (name ++ "=" ++ value) = isDashed name := by
  rw [String.append_assoc, isDashed_append filled]

theorem passes_template (passes : Passes settings message asked) :
    ∃ template ∈ templates settings, template message = asked := by
  rcases passes with asks | asks
  · obtain ⟨-, rfl | rfl | rfl | rfl⟩ := asked_provision asks
    · exact ⟨pulling settings, by simp, rfl⟩
    · exact ⟨removing settings, by simp, rfl⟩
    · exact ⟨running settings, by simp, rfl⟩
    · exact ⟨cloning settings, by simp, rfl⟩
  · obtain ⟨-, rfl⟩ := asked_deprovision asks
    exact ⟨removing settings, by simp, rfl⟩

theorem pulling_isFixed : (pulling settings).IsFixed place :=
  ⟨(pullArguments settings)[place]?, fun _ => rfl⟩

theorem removing_isFixed_or (settings : Settings) (place : Nat) :
    (removing settings).IsFixed place ∨ place = 2 := by
  match place with
  | 2 => exact .inr rfl
  | 0 | 1 => exact .inl ⟨_, fun _ => rfl⟩
  | _ + 3 => exact .inl ⟨none, fun _ => rfl⟩

theorem running_isFixed_or (settings : Settings) (place : Nat) :
    (running settings).IsFixed place ∨ place = 3 ∨ place = 6 ∨ place = 8 := by
  match place with
  | 3 | 6 | 8 => simp
  | 0 | 1 | 2 | 4 | 5 | 7 | 9 | 10 | 11 => exact .inl ⟨_, fun _ => rfl⟩
  | _ + 12 => exact .inl ⟨none, fun _ => rfl⟩

theorem cloning_isFixed_or (settings : Settings) (place : Nat) :
    (cloning settings).IsFixed place ∨ place = 1 ∨ place = 7 := by
  match place with
  | 1 | 7 => simp
  | 0 | 2 | 3 | 4 | 5 | 6 | 8 => exact .inl ⟨_, fun _ => rfl⟩
  | _ + 9 => exact .inl ⟨none, fun _ => rfl⟩

/-- All that is built from a message starts with no dash, but for the URL that is cloned. -/
theorem fixed_or_undashed (named : isDashed (containerName settings message.projectId) = false)
    (member : template ∈ templates settings) (place : Nat) :
    template.IsFixed place ∨
      (∃ argument, (template message)[place]? = some argument ∧ isDashed argument = false) ∨
      template = cloning settings ∧ place = 7 := by
  rcases mem_templates_iff.mp member with rfl | rfl | rfl | rfl
  · exact .inl pulling_isFixed
  · rcases removing_isFixed_or settings place with fixed | rfl
    · exact .inl fixed
    · exact .inr (.inl ⟨_, rfl, named⟩)
  · rcases running_isFixed_or settings place with fixed | rfl | rfl | rfl
    · exact .inl fixed
    · exact .inr (.inl ⟨_, rfl, named⟩)
    · exact .inr (.inl ⟨_, rfl, isDashed_setting "PROJECT_ID" _ (by decide)⟩)
    · exact .inr (.inl ⟨_, rfl, isDashed_setting "GIT_REPO_URL" _ (by decide)⟩)
  · rcases cloning_isFixed_or settings place with fixed | rfl | rfl
    · exact .inl fixed
    · exact .inr (.inl ⟨_, rfl, named⟩)
    · exact .inr (.inr ⟨rfl, rfl⟩)

theorem removing_not_isFixed : ¬ (removing settings).IsFixed 2 := by
  rintro ⟨argument, fixed⟩
  have same := (fixed ⟨"a", ""⟩).trans (fixed ⟨"b", ""⟩).symm
  have named : containerName settings "a" = containerName settings "b" := Option.some.inj same
  rw [← String.toList_inj, toList_containerName, toList_containerName,
    List.append_cancel_left_eq] at named
  exact absurd named (by decide)

theorem cloning_not_isFixed : ¬ (cloning settings).IsFixed 7 := by
  rintro ⟨argument, fixed⟩
  have same := (fixed ⟨"", "a"⟩).trans (fixed ⟨"", "b"⟩).symm
  exact absurd (Option.some.inj same) (by decide)

/-- A repository is cloned into a container that could be started. -/
theorem canAsk_cloning_iff :
    (provision settings message.projectId message.gitRepoUrl).CanAsk (cloning settings message) ↔
      message.gitRepoUrl ≠ "" ∧ isPassable (running settings message) = true ∧
        isPassable (cloning settings message) = true := by
  have differs {command : String} (rest : List String) (other : "exec" ≠ command) :
      cloning settings message ≠ command :: rest := fun same => other (List.cons.inj same).1
  constructor
  · intro asks
    -- The first two commands may end in any way; only the start of the container has to succeed.
    rcases asked_run asks with ⟨same, -⟩ | ⟨-, asks⟩
    · exact absurd same (differs _ (by decide))
    rcases asked_run asks with ⟨same, -⟩ | ⟨-, asks⟩
    · exact absurd same (differs _ (by decide))
    rcases asked_after_run (differs _ (by decide)) asks with ⟨_, asks⟩ | ⟨startable, asks⟩
    · exact absurd asks not_canAsk_pure
    dsimp only at asks
    split at asks
    next filled =>
      rcases asked_run asks with ⟨-, passable⟩ | ⟨-, asks⟩
      · exact ⟨by simpa using filled, startable, passable⟩
      · exact absurd asks not_canAsk_pure
    · exact absurd asks not_canAsk_pure
  · rintro ⟨filled, startable, passable⟩
    refine canAsk_after_run fun _ => canAsk_after_run fun _ => canAsk_after_success startable ?_
    dsimp only
    rw [if_pos (bne_iff_ne.mpr filled)]
    exact canAsk_run passable

theorem passes_cloning_iff :
    Passes settings message (cloning settings message) ↔ message.gitRepoUrl ≠ "" ∧
      isPassable (running settings message) = true ∧
      isPassable (cloning settings message) = true := by
  rw [← canAsk_cloning_iff]
  refine or_iff_left fun asks => ?_
  obtain ⟨-, same⟩ := asked_deprovision asks
  exact absurd (List.cons.inj same).1 (by decide)

/-- A command line tells by its command which one it is. -/
theorem template_unique {other : Template} (member : template ∈ templates settings)
    (otherMember : other ∈ templates settings) (same : template message = other message) :
    template = other := by
  have commands : (templates settings).map (fun template => (template message).head?) =
      [some "pull", some "rm", some "run", some "exec"] := rfl
  have distinct : ((templates settings).map fun template => (template message).head?).Nodup := by
    rw [commands]
    decide
  exact List.inj_on_of_nodup_map distinct member otherMember (congrArg List.head? same)

theorem roles_removing (documented : Documented docker git) :
    docker.roles (removing settings message) = [.operand, .option,
      ((docker "rm").read .mayBeOption (containerName settings message.projectId)).1] := by
  have force : (docker "rm").read .mayBeOption "-f" = (.option, .mayBeOption) :=
    Convention.read_flag (by decide) (by decide) documented.force
  simp only [removing, removeArguments, Program.roles, Convention.roles, force]

/-- Behind the container's name all is left to what is run inside. -/
theorem roles_cloning (documented : Documented docker git)
    (named : isDashed (containerName settings message.projectId) = false) :
    docker.roles (cloning settings message) = List.replicate 9 .operand := by
  have operand : (docker "exec").read .mayBeOption (containerName settings message.projectId) =
      (.operand, .isOperand) := by
    have unseparated : containerName settings message.projectId ≠ "--" := by
      intro same
      rw [same] at named
      contradiction
    simp [Convention.read, unseparated, named, documented.exec]
  rw [cloning, cloneArguments, Program.roles, Convention.roles, operand, Convention.roles_isOperand]
  rfl

/-- Behind the depth the command that clones finds the URL. -/
theorem roles_clone (documented : Documented docker git) :
    git.roles ((cloning settings message).drop 3) = [.operand, .option, .option, .value] ++
      (git "clone").roles .mayBeOption [message.gitRepoUrl, settings.workspaceDir] := by
  have branch : (git "clone").read .mayBeOption "--single-branch" = (.option, .mayBeOption) :=
    Convention.read_flag (by decide) (by decide) documented.singleBranch
  have depth : (git "clone").read .mayBeOption "--depth" = (.option, .owedToOption) :=
    Convention.read_owing (by decide) (by decide) documented.depth
  simp only [cloning, cloneArguments, List.drop, Program.roles, Convention.roles, branch, depth]
  rfl

theorem role_of_url (documented : Documented docker git) :
    (git.roles ((cloning settings message).drop 3))[4]? =
      some ((git "clone").read .mayBeOption message.gitRepoUrl).1 := by
  rw [roles_clone documented]
  rfl

theorem removing_guards_iff (documented : Documented docker git) :
    docker.Guards (removing settings message) 2 ↔
      isDashed (containerName settings message.projectId) = false := by
  refine Program.guards_iff rfl (by rw [roles_removing documented]; rfl) ?_
  rw [roles_removing documented]
  simp

theorem clone_guards_iff (documented : Documented docker git) :
    git.Guards ((cloning settings message).drop 3) 4 ↔ isDashed message.gitRepoUrl = false := by
  refine Program.guards_iff rfl (role_of_url documented) ?_
  rw [roles_clone documented]
  simp

/-! ### What is read as an option -/

theorem not_textIsNoOption_of_unnamed (documented : Documented docker git)
    (unnamed : settings.namePrefix = "") : ¬ TextIsNoOption docker git settings message := by
  intro safe
  have passable : isPassable (removing settings message) = true :=
    isPassable_removeArguments (by simp [unnamed])
  have listed : removing settings ∈ templates settings := by simp
  obtain ⟨template, member, same, outside, -⟩ := safe _ (.inr (canAsk_run passable))
  obtain rfl := template_unique member listed same
  rcases outside 2 with fixed | guarded
  · exact removing_not_isFixed fixed
  · have dashed := (isDashed_containerName settings message.projectId).mpr (.inl unnamed)
    rw [(removing_guards_iff documented).mp guarded] at dashed
    contradiction

theorem not_textIsNoOption_of_dashed (documented : Documented docker git)
    (dashed : isDashed message.gitRepoUrl = true)
    (passes : Passes settings message (cloning settings message)) :
    ¬ TextIsNoOption docker git settings message := by
  intro safe
  have listed : cloning settings ∈ templates settings := by simp
  obtain ⟨template, member, same, -, inside⟩ := safe _ passes
  obtain rfl := template_unique member listed same
  rcases inside _ _ rfl 4 with fixed | guarded
  · exact cloning_not_isFixed fixed
  · rw [(clone_guards_iff documented).mp guarded] at dashed
    contradiction

theorem textIsNoOption_of_undashed
    (named : isDashed (containerName settings message.projectId) = false)
    (undashed : Passes settings message (cloning settings message) →
      isDashed message.gitRepoUrl = false) : TextIsNoOption docker git settings message := by
  intro asked passes
  obtain ⟨template, member, rfl⟩ := passes_template passes
  have plain (place : Nat) : template.IsFixed place ∨
      ∃ argument, (template message)[place]? = some argument ∧ isDashed argument = false := by
    rcases fixed_or_undashed named member place with fixed | plain | ⟨rfl, rfl⟩
    · exact .inl fixed
    · exact .inr plain
    · exact .inr ⟨_, rfl, undashed passes⟩
  refine ⟨template, member, rfl, fun place => ?_, fun container inner split place => ?_⟩
  -- An argument without a dash is harmless to either reader, whatever place it has for it.
  · exact (plain place).imp_right fun ⟨_, found, free⟩ => Program.guards_of_undashed found free
  · refine (plain (place + 3)).imp_right fun ⟨_, found, free⟩ => ?_
    rw [split] at found
    exact Program.guards_of_undashed found free

theorem textIsNoOption_iff (documented : Documented docker git)
    (undashed : isDashed settings.namePrefix = false) :
    TextIsNoOption docker git settings message ↔ settings.namePrefix ≠ "" ∧
      (Passes settings message (cloning settings message) →
        isDashed message.gitRepoUrl = false) := by
  constructor
  · intro safe
    refine ⟨fun unnamed => not_textIsNoOption_of_unnamed documented unnamed safe, fun passes => ?_⟩
    by_contra dashed
    exact not_textIsNoOption_of_dashed documented (by simpa using dashed) passes safe
  · rintro ⟨filled, plain⟩
    exact textIsNoOption_of_undashed (undashed_containerName filled undashed) plain

/-- The program that handles containers takes no text for an option, not even one with a dash. -/
theorem outside_no_option (documented : Documented docker git)
    (named : isDashed (containerName settings message.projectId) = false)
    (member : template ∈ templates settings) (place : Nat) :
    template.IsFixed place ∨ (docker.roles (template message))[place]? = some .value ∨
      (docker.roles (template message))[place]? = some .operand := by
  rcases fixed_or_undashed named member place with fixed | ⟨_, found, free⟩ | ⟨rfl, rfl⟩
  · exact .inl fixed
  · exact .inr (Program.roles_undashed found free)
  · refine .inr (.inr ?_)
    rw [roles_cloning documented named]
    rfl

end Texts

/-- A prefix that the daemon is configured with is not empty. -/
theorem namePrefix_ne_empty {environment : Settings.Environment} {config : Settings.Config}
    (accepted : Settings.Config.ofEnvironment environment = .ok config) :
    config.docker.namePrefix ≠ "" := by
  rcases (Settings.ofEnvironment_takes environment config accepted).containerPrefix with
    ⟨value, ⟨-, -, -, filled⟩, rfl⟩ | ⟨-, default⟩
  · exact filled
  · rw [default]
    decide

/-- Let the prefix of names start with no dash. Then no text of a message can be taken for an option
exactly if the prefix is not empty, which none is that the daemon is configured with, and the URL
that is cloned, if one is, starts with no dash. A URL is cloned if it is not empty and both the
container's start and the cloning can be passed on. Where it starts with a dash, the program that
handles containers takes it for an operand all the same. The command that is to clone it takes it
for an option, unless it is a dash alone or the separator. -/
theorem dashed_url_alone_is_option {docker git : Program} (documented : Documented docker git)
    {settings : Settings} (undashed : isDashed settings.namePrefix = false) (message : Message) :
    (TextIsNoOption docker git settings message ↔ settings.namePrefix ≠ "" ∧
      (Passes settings message (cloning settings message) →
        isDashed message.gitRepoUrl = false)) ∧
    (Passes settings message (cloning settings message) ↔ message.gitRepoUrl ≠ "" ∧
      isPassable (running settings message) = true ∧
      isPassable (cloning settings message) = true) ∧
    (settings.namePrefix ≠ "" → ∀ template ∈ templates settings, ∀ place,
      template.IsFixed place ∨ (docker.roles (template message))[place]? = some .value ∨
        (docker.roles (template message))[place]? = some .operand) ∧
    ((git.roles ((cloning settings message).drop 3))[4]? = some .option ↔
      isDashed message.gitRepoUrl = true ∧ message.gitRepoUrl ≠ "-" ∧ message.gitRepoUrl ≠ "--") ∧
    ∀ environment config, Settings.Config.ofEnvironment environment = .ok config →
      config.docker.namePrefix ≠ "" := by
  refine ⟨textIsNoOption_iff documented undashed, passes_cloning_iff, ?_, ?_,
    fun _ _ => namePrefix_ne_empty⟩
  · intro filled template member
    exact outside_no_option documented (undashed_containerName filled undashed) member
  · rw [role_of_url documented, Option.some.injEq, Convention.read_eq_option_iff]

/-- Options that are owed a value, of the commands that handle containers. -/
def dockerCommands : Program := fun command =>
  { takesValue := fun option => match command with
      | "run" => ["-e", "-p", "-v", "-w", "-u", "-m", "--name", "--env", "--user"].contains option
      | "exec" => ["-e", "-w", "-u", "--env", "--user", "--workdir"].contains option
      | _ => false
    mixes := command != "run" && command != "exec" }

/-- Options that are owed a value, of the command that clones. -/
def gitCommands : Program := fun command =>
  { takesValue := fun option => command == "clone" &&
      ["-b", "-c", "-j", "-o", "-u", "--branch", "--config", "--depth", "--origin",
        "--upload-pack"].contains option
    mixes := true }

theorem documented_commands : Documented dockerCommands gitCommands := by
  constructor <;> decide

theorem dashed_project_is_no_option :
    Documented dockerCommands gitCommands ∧ isDashed ({} : Settings).namePrefix = false ∧
      TextIsNoOption dockerCommands gitCommands {}
        ⟨"--privileged", "https://github.com/acme/app.git"⟩ :=
  ⟨documented_commands, by decide,
    (dashed_url_alone_is_option documented_commands (by decide) _).1.mpr
      ⟨by decide, fun _ => by decide⟩⟩

/-- A URL that starts with a dash is passed on as it is. The command that is to clone it reads an
option there, and finds the workspace's directory where it looks for the URL. -/
theorem url_can_be_option :
    isDashed ({} : Settings).namePrefix = false ∧ isDashed ({} : Settings).image = false ∧
      ((provision {} "acme" "--upload-pack=reboot").against fun _ => .exited 0 "").2 =
        [["pull", "berth/workspace:latest"], ["rm", "-f", "berth-workspace-acme"],
          ["run", "-d", "--name", "berth-workspace-acme", "-P", "-e", "PROJECT_ID=acme",
            "-e", "GIT_REPO_URL=--upload-pack=reboot", "-e", "BROKER_URL=",
            "berth/workspace:latest"],
          ["exec", "berth-workspace-acme", "git", "clone", "--single-branch", "--depth", "1",
            "--upload-pack=reboot", "/workspace"]] ∧
      gitCommands.roles ["clone", "--single-branch", "--depth", "1", "--upload-pack=reboot",
        "/workspace"] = [.operand, .option, .option, .value, .option, .operand] ∧
      ¬ TextIsNoOption dockerCommands gitCommands {} ⟨"acme", "--upload-pack=reboot"⟩ := by
  refine ⟨by decide, by decide, by decide +kernel, by decide, ?_⟩
  refine not_textIsNoOption_of_dashed documented_commands (by decide) ?_
  exact passes_cloning_iff.mpr ⟨by decide, by decide +kernel, by decide +kernel⟩

end WorkspacePool.Docker

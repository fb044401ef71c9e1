import StoryGraph.Story.Library
import StoryGraph.Terminal.Arguments
import StoryGraph.Terminal.Config
import StoryGraph.Terminal.Player

/-!
From a command line to a session. The settings are read first, the command line
overrides them, and they are saved if that is asked for; then the story is read
and the session starts. A story that cannot be played is told of; what is wrong
with the settings beyond a missing or broken file is not, nor is an option that
was left without its value, and both get away.
-/

set_option autoImplicit false

namespace StoryGraph.Terminal

inductive LaunchFault where
  | story (fault : LoadFault)
  | session (fault : Fault)

def LaunchFault.message : LaunchFault → String
  | .story fault => fault.message
  | .session fault => fault.message

inductive Escape where
  | config (fault : ConfigFault)
  | save (fault : SaveFault)
  /-- The settings lie in a home directory that is unknown. -/
  | homeless
  /-- The number of steps was left without a value. -/
  | blankSteps
  | blankStart

def Escape.message : Escape → String
  | .config fault => fault.message
  | .save (.obstacle .unnameable) => "embedded null byte"
  | .save (.obstacle _) => "The settings could not be saved."
  | .save .unprintable => digitLimitMessage
  | .homeless => homelessMessage
  | .blankSteps =>
      "int() argument must be a string, a bytes-like object or a real number, not 'list'"
  | .blankStart => "unhashable type: 'list'"

inductive Launched where
  | ended (exitCode : Nat)
  | escaped (escape : Escape)
  | playing (player : Player) (play : Play)

/-- What was printed, the files afterwards, and what came of the command line. -/
structure Launch where
  printed : String
  files : Files
  launched : Launched

/-- Settings with what the command line says about them; nothing if it leaves the number
of steps blank. -/
def Config.override? (config : Config) (arguments : Arguments) : Option Config :=
  let shown (maxSteps : Int) : Config := {
    showSpeaker := config.showSpeaker && !arguments.hideSpeaker
    showTags := config.showTags || arguments.showTags
    maxSteps }
  match arguments.maxSteps with
  | .unsaid => some (shown config.maxSteps)
  | .number value => some (shown value)
  | .blank => none

namespace Arguments

/-- The file of settings: the one that is named, else the one in its standard place. -/
def configPath? (arguments : Arguments) (surroundings : Surroundings) : Option Path :=
  match arguments.config with
  | some path => some (.ofText path)
  | none => surroundings.configPath?

/-- The file of the story: the one that is named, else the standard one. -/
def storyPath (arguments : Arguments) (surroundings : Surroundings) : Path :=
  match arguments.story with
  | some path => .ofText path
  | none => surroundings.stories / .ofText Library.standardName

end Arguments

def openStage (files : Files) (path : Path) (maxSteps : Int) : Except LaunchFault Stage :=
  match Story.load files path with
  | .error fault => .error (.story fault)
  | .ok story =>
      match Settings.ofInt? maxSteps false with
      | none => .error (.session .nonPositiveBudget)
      | some settings => .ok ⟨story, settings, none⟩

namespace Launch

def refuse (printed : String) (files : Files) (fault : LaunchFault) : Launch :=
  ⟨printed ++ printLine s!"Unable to start story: {fault.message}", files, .ended 1⟩

def play (printed : String) (files : Files) (surroundings : Surroundings)
    (arguments : Arguments) (config : Config) (stage : Stage) : Launch :=
  match arguments.start with
  | none => ⟨printed, files, .escaped .blankStart⟩
  | some knot =>
      match stage.start knot with
      | .error fault => refuse printed files (.session fault)
      | .ok state =>
          let player : Player :=
            ⟨stage, config.showSpeaker, config.showTags, isDebug surroundings.debug⟩
          let (first, play) := player.start state
          let title := (arguments.storyPath surroundings).stem
          ⟨printed ++ heading s!"knotweave: {title}" ++ first, files, .playing player play⟩

/-- Read the story and start the session, with text that was printed before. -/
def afterSaving (printed : String) (files : Files) (surroundings : Surroundings)
    (arguments : Arguments) (config : Config) : Launch :=
  match openStage files (arguments.storyPath surroundings) config.maxSteps with
  | .error fault => refuse printed files fault
  | .ok stage => play printed files surroundings arguments config stage

/-- Save the settings to their file if that is asked for, then start the session. -/
def withConfig (files : Files) (surroundings : Surroundings) (arguments : Arguments)
    (path : Path) (config : Config) : Launch :=
  if arguments.saveConfig then
    match Config.save files path config.table with
    | (files, .error fault) => ⟨"", files, .escaped (.save fault)⟩
    | (files, .ok ()) =>
        let printed := printLine s!"Saved settings to {path.text}"
        afterSaving printed files surroundings arguments config
  else afterSaving "" files surroundings arguments config

/-- Read the settings from their file, then go on with what the command line makes of them. -/
def withPath (files : Files) (surroundings : Surroundings) (arguments : Arguments)
    (path : Path) : Launch :=
  match Config.load files path with
  | .error fault => ⟨"", files, .escaped (.config fault)⟩
  | .ok config =>
      match config.override? arguments with
      | none => ⟨"", files, .escaped .blankSteps⟩
      | some config => withConfig files surroundings arguments path config

def ofLine (files : Files) (surroundings : Surroundings) (line : List String) : Launch :=
  match Arguments.read line with
  | .error .help => ⟨"", files, .ended 0⟩
  | .error .refused => ⟨"", files, .ended 2⟩
  | .ok arguments =>
      match arguments.configPath? surroundings with
      | none => ⟨"", files, .escaped .homeless⟩
      | some path => withPath files surroundings arguments path

end Launch

end StoryGraph.Terminal

import StoryGraph.Proofs.KeptSettings
import StoryGraph.Proofs.Writing
import StoryGraph.Terminal.Launch

/-!
Settings that are saved come back. What is written are the settings that a table holds, standard
values in the place of those that it lacks, and their text is read back as they were. A launch
that saves its settings therefore leaves a file from which a later launch reads just these, if its
command line says nothing about them; so it plays with the same settings, and if it saves them
again, it writes the same octets.

For that the number of steps has to be positive, or the standard number is saved in its place, and
short enough to be written, which a number that was read always is.
-/

set_option autoImplicit false

namespace StoryGraph.Terminal

variable {files saved now : Files} {path : Path} {config old effective : Config}
  {entries : Members} {table : Table Value}

namespace Config

theorem load_congr (same : now.read path = files.read path) : load now path = load files path := by
  rw [load, load, same]

/-- What a file holds once settings were saved in it. -/
structure Kept (files : Files) (path : Path) (config : Config) : Prop where
  text : ∃ text, config.text? = some text ∧ files.read path = .ok text.toUTF8.toList
  loaded : load files path = .ok config

theorem Kept.congr (kept : Kept files path config) (same : now.read path = files.read path) :
    Kept now path config where
  text := by
    rw [same]
    exact kept.text
  loaded := (load_congr same).trans kept.loaded

end Config

/-- A command line is read, and the settings lie at a path. -/
structure Arguments.Leads (surroundings : Surroundings) (line : List String)
    (arguments : Arguments) (path : Path) : Prop where
  read : Arguments.read line = .ok arguments
  place : arguments.configPath? surroundings = some path

variable {surroundings : Surroundings} {line : List String} {arguments : Arguments}
  {printed : String}

namespace Launch

@[simp] theorem files_play (stage : Stage) :
    (play printed files surroundings arguments config stage).files = files := by
  unfold play
  split
  · rfl
  · split <;> rfl

end Launch

end StoryGraph.Terminal

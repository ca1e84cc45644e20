import DiagramCheck.Check

/-!
# Finding the settings

Settings come from the first of these that there is: the file named on the command line, which then
has to exist; the file of the working directory; the file of the user's configuration directory; and
the standard settings. A file that was chosen is never given up for a later one, whatever is wrong
with it. How the text of a file is decoded is up to the decoder.
-/

namespace DiagramCheck

namespace Settings

/-- A decoder: the settings that the text of a file makes, or a message that says what is wrong with
it. -/
abbrev Decoder := String → Except String Settings

/-- The settings file of the working directory. -/
def localFile : String :=
  "corner/config.toml"

/-- The settings file of a user's configuration directory. -/
def systemFile (directory : String) : String :=
  directory ++ "/config.toml"

/-- Reads the settings file at a path. -/
def loadFile (decode : Decoder) (files : FileSystem) (path : String) :
    Logged (Except FileFailure Settings) :=
  if (files path).isPresent then
    match (files path).text with
    | .error error => ⟨.error (.unreadable error), []⟩
    | .ok text =>
      match decode text with
      | .error message => ⟨.error (.malformedSettings path message), []⟩
      | .ok settings => ⟨.ok settings, [.settingsLoaded]⟩
  else ⟨.error (.missingSettings path), []⟩

/-- Reads the settings of the user's configuration directory, or returns the standard ones. -/
def loadSystem (decode : Decoder) (files : FileSystem) :
    Option String → Logged (Except FileFailure Settings)
  | none => ⟨.ok standard, [.systemDirectoryUnknown, .settingsDefaulted]⟩
  | some directory =>
    if (files (systemFile directory)).isPresent then
      Logged.after [.settingsChosen .systemPath] (loadFile decode files (systemFile directory))
    else ⟨.ok standard, [.systemSettingsAbsent, .settingsDefaulted]⟩

/-- Finds and reads the settings. -/
def load (decode : Decoder) (files : FileSystem) (explicit systemDirectory : Option String) :
    Logged (Except FileFailure Settings) :=
  match explicit with
  | some path => Logged.after [.settingsChosen .explicitPath] (loadFile decode files path)
  | none =>
    if (files localFile).isPresent then
      Logged.after [.settingsChosen .localPath] (loadFile decode files localFile)
    else loadSystem decode files systemDirectory

/-- The paths of the files that the settings may come from. -/
def candidates (explicit systemDirectory : Option String) : List String :=
  match explicit with
  | some path => [path]
  | none => localFile :: (systemDirectory.map systemFile).toList

end Settings

end DiagramCheck

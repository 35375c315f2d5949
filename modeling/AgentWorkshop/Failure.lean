import AgentWorkshop.Files.Path
import AgentWorkshop.Json.Reader
import AgentWorkshop.SystemError
import AgentWorkshop.Text.Blank

/-!
# What can go wrong

Every way in which a tool ends early is a `Failure`, told by its cause, and
`Failure.message` is its wording. The four causes that a tool foresees and
reports in its own words — a project name, a missing tool, a file, a command —
are those of `Failure.isForeseen`.
-/

namespace AgentWorkshop

/-- What is wrong with a required tool. -/
inductive ToolFault where
  /-- The tool cannot be started. -/
  | missing (tool : Text)
  /-- The tool was started by this command and failed. -/
  | failing (command : Text) (code : Int) (stderr : Text)
  /-- The tool printed a version below the required one. -/
  | outdated (required : Int) (found : Text)
  /-- Said in words. -/
  | described (words : Text)

namespace ToolFault

/-- The wording of a tool's fault. -/
def message : ToolFault → Text
  | missing tool => tool ++ text " is not installed"
  | failing command code stderr =>
    let reason := match stderr.strip with
      | [] => text "exit code " ++ Text.ofInt code
      | words => words
    text "`" ++ command ++ text "` failed: " ++ reason
  | outdated required found =>
    let version := match found.strip with
      | [] => text "unknown"
      | words => words
    text "Node.js " ++ Text.ofInt required ++ text " or higher is required (found " ++ version ++
      text ")"
  | described words => words

end ToolFault

/-- An entry below a directory that could not be copied with it. -/
structure EntryFault where
  source : Path
  goal : Path
  error : SystemError

/-- The paths and the error in parentheses. -/
def EntryFault.message (f : EntryFault) : Text :=
  text "(" ++ List.intercalate (text ", ")
    ([f.source.toText, f.goal.toText, f.error.message].map Text.quoted) ++ text ")"

/-- Why a tree of files was not copied. -/
inductive CopyFault where
  | system (e : SystemError)
  /-- Some entries of it were not copied. -/
  | entries (faults : List EntryFault)
  /-- The file would be copied onto itself. -/
  | same (source target : Path)

namespace CopyFault

/-- The wording of a failed copy. -/
def message : CopyFault → Text
  | system e => e.message
  | entries faults =>
    text "[" ++ List.intercalate (text ", ") (faults.map EntryFault.message) ++ text "]"
  | same source target =>
    text "PosixPath(" ++ source.toText.quoted ++ text ") and PosixPath(" ++
      target.toText.quoted ++ text ") are the same file"

end CopyFault

/-- What is wrong with a file or directory that a tool works on. -/
inductive FileFault where
  /-- The directory of a new project is there already. -/
  | alreadyThere (directory : Path)
  /-- The directory of a new project cannot be made. -/
  | notCreated (directory : Path) (e : SystemError)
  /-- There is no template at this path. -/
  | noTemplate (directory : Path)
  /-- The template cannot be copied into a new project. -/
  | notCopied (project : Path) (fault : CopyFault)
  /-- The manifest of a new project cannot be changed. -/
  | notCustomized (manifest : Path) (e : SystemError)
  /-- The agent's answer cannot be read. -/
  | noResponse (file : Path) (e : SystemError)
  /-- Said in words. -/
  | described (words : Text)

namespace FileFault

/-- The wording of a file's fault. -/
def message : FileFault → Text
  | alreadyThere directory => text "Directory already exists: " ++ directory.toText
  | notCreated directory e =>
    text "Cannot create directory " ++ directory.toText ++ text ": " ++ e.message
  | noTemplate directory => text "Template directory not found: " ++ directory.toText
  | notCopied project fault =>
    text "Cannot copy template into " ++ project.toText ++ text ": " ++ fault.message
  | notCustomized manifest e =>
    text "Cannot customize " ++ manifest.toText ++ text ": " ++ e.message
  | noResponse file e =>
    text "Cannot read response file " ++ file.toText ++ text ": " ++ e.message
  | described words => words

end FileFault

/-- Why the value of a field is refused. -/
inductive FieldFault where
  | missing
  | notText
  | unknownRole
  | unknownTemplate
  | badValue
  | notInteger
  | unreadableInteger
  | fractional
  | notFinite
  | outOfRange
  | tooSmall
  | notBoolean
  | unreadableBoolean
  | notPath
  deriving DecidableEq, Repr

namespace FieldFault

/-- The word for a refusal. -/
def word : FieldFault → Text
  | missing => text "missing"
  | notText => text "string_type"
  | unknownRole => text "literal_error"
  | unknownTemplate => text "enum"
  | badValue => text "value_error"
  | notInteger => text "int_type"
  | unreadableInteger => text "int_parsing"
  | fractional => text "int_from_float"
  | notFinite => text "finite_number"
  | outOfRange => text "int_parsing_size"
  | tooSmall => text "greater_than_equal"
  | notBoolean => text "bool_type"
  | unreadableBoolean => text "bool_parsing"
  | notPath => text "path_type"

end FieldFault

/-- A cause for which a tool ends early. -/
inductive Failure where
  /-- Said in words. -/
  | described (words : Text)
  /-- A project name with other than letters, digits, underscores and hyphens. -/
  | badName (name : Text)
  /-- A required tool is missing or too old; with what to install. -/
  | tool (fault : ToolFault) (remedies : List Text)
  /-- A file or directory is not as it has to be. -/
  | file (fault : FileFault)
  /-- A command failed, or could not be started (code -1). -/
  | command (line : Text) (code : Int) (stderr : Text)
  /-- The operating system reports an error. -/
  | system (e : SystemError)
  /-- A path or command contains U+0000. -/
  | nullByte
  /-- A text to be written contains surrogates. -/
  | unencodable (run : Utf8.Unencodable)
  /-- A file to be read is not UTF-8. -/
  | undecodable (piece : Utf8.Undecodable)
  /-- JSON is nested too deep to be read. -/
  | tooDeep (container : Json.Container)
  /-- Directories are nested too deep to be copied. -/
  | deepTree
  /-- A path is too deep for its directories to be made. -/
  | deepPath
  /-- Message content is not a text but this kind of value. -/
  | notText (kind : Text)
  /-- Fields are missing or have refused values. -/
  | badFields (faults : List (Text × FieldFault))
  /-- A version has this many digits, more than are read. -/
  | tooManyDigits (count : Nat)
  /-- There is no template of this name. -/
  | unknownTemplate (label : Text)
  /-- An address of the network contains an ASCII control. -/
  | badAddress (point : CodePoint) (position : Nat)
  /-- An address of the network is too long. -/
  | longAddress
  /-- The user interrupted. -/
  | interrupted
  /-- There is no more input. -/
  | endOfInput
  /-- A command has no program. -/
  | emptyCommand
  /-- The name of a variable for a child process contains an equals sign. -/
  | badVariable
  /-- A child process could not be run at all, for this reason. -/
  | crashed (reason : Text)
  /-- A look-up of a key that is not there. -/
  | missingKey (key : Json)
  /-- An error of the operating system of a named kind, as somebody describes it:
  its number and reason may be any values. The files are those concerned. -/
  | reported (kind : Text) (number reason : Json) (files : List Json)
  /-- A failure of a named kind, with its details. -/
  | other (kind : Text) (details : List Json)

namespace Failure

/-- A value as one detail of a message: a text as it is, anything else shown. -/
def detail : Json → Text
  | .string t => t
  | v => v.shown

/-- The details of a failure: one by itself, several as a list in parentheses. -/
def detailsMessage : List Json → Text
  | [] => []
  | [v] => detail v
  | vs => text "(" ++ Json.shownElements vs ++ text ")"

/-- The wording for a run of surrogates. -/
def unencodableMessage (run : Utf8.Unencodable) : Text :=
  let place :=
    if run.count = 1 then
      text "character " ++ Text.quoted [run.point] ++ text " in position " ++ Text.ofNat run.start
    else
      text "characters in position " ++ Text.ofNat run.start ++ text "-" ++
        Text.ofNat (run.start + run.count - 1)
  text "'utf-8' codec can't encode " ++ place ++ text ": surrogates not allowed"

/-- The wording for a broken piece of UTF-8. -/
def undecodableMessage (piece : Utf8.Undecodable) : Text :=
  let place :=
    if piece.count = 1 then
      text "byte 0x" ++ Text.ofHex 2 piece.byte.val ++ text " in position " ++
        Text.ofNat piece.start
    else
      text "bytes in position " ++ Text.ofNat piece.start ++ text "-" ++
        Text.ofNat (piece.start + piece.count - 1)
  let reason := match piece.flaw with
    | .start => text "invalid start byte"
    | .continuation => text "invalid continuation byte"
    | .ending => text "unexpected end of data"
  text "'utf-8' codec can't decode " ++ place ++ text ": " ++ reason

/-- The wording for a project name, as it is shown. -/
def badNameMessage (shown : Text) : Text :=
  text "Invalid project name " ++ shown ++
    text ": project name may only include letters, numbers, underscores and hyphens"

/-- The wording for a command that ended with a code. -/
def commandMessage (line code stderr : Text) : Text :=
  let start := text "Command failed with exit code " ++ code ++ text ": " ++ line
  match stderr.strip with
  | [] => start
  | words => start ++ text "\n" ++ words

/-- The wording of a failure. -/
def message : Failure → Text
  | described words => words
  | badName name => badNameMessage name.quoted
  | tool fault _ => fault.message
  | file fault => fault.message
  | command line code stderr => commandMessage line (Text.ofInt code) stderr
  | system e => e.message
  | nullByte => text "embedded null byte"
  | unencodable run => unencodableMessage run
  | undecodable piece => undecodableMessage piece
  | tooDeep .array =>
    text "maximum recursion depth exceeded while decoding a JSON array from a unicode string"
  | tooDeep .object =>
    text "maximum recursion depth exceeded while decoding a JSON object from a unicode string"
  | deepPath => text "maximum recursion depth exceeded while calling a Python object"
  | deepTree => text "maximum recursion depth exceeded in comparison"
  | notText kind => text "the JSON object must be str, bytes or bytearray, not " ++ kind
  | badFields faults =>
    List.intercalate (text "; ") (faults.map fun (field, fault) => field ++ text ": " ++ fault.word)
  | tooManyDigits count =>
    text "Exceeds the limit (4300 digits) for integer string conversion: value has " ++
      Text.ofNat count ++ text " digits; use sys.set_int_max_str_digits() to increase the limit"
  | unknownTemplate label => label.quoted ++ text " is not a valid Template"
  | badAddress point position =>
    text "Invalid non-printable ASCII character in URL, " ++ Text.quoted [point] ++
      text " at position " ++ Text.ofNat position ++ text "."
  | longAddress => text "URL too long"
  | interrupted => []
  | endOfInput => []
  | emptyCommand =>
    text "create_subprocess_exec() missing 1 required positional argument: 'program'"
  | badVariable => text "illegal environment variable name"
  | crashed reason => reason
  | missingKey key => key.shown
  | reported _ number reason files =>
    let start := text "[Errno " ++ detail number ++ text "] " ++ detail reason
    if files.isEmpty then start
    else start ++ text ": " ++ List.intercalate (text " -> ") (files.map Json.shown)
  | other _ details => detailsMessage details

/-- The causes that a tool foresees and words itself. -/
def isForeseen : Failure → Bool
  | described _ | badName _ | tool _ _ | file _ | command _ _ _ => true
  | _ => false

/-- There is no entry where one is looked for. -/
def isMissingEntry : Failure → Bool
  | system e => e.code = Errno.noEntry.code
  | _ => false

/-- The user's interruption, which is no error. -/
def isInterruption : Failure → Bool
  | interrupted => true
  | _ => false

end Failure

end AgentWorkshop

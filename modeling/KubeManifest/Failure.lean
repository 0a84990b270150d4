import KubeManifest.Model.LabelSelector
import KubeManifest.Number.Integer

/-!
# Failures

* `Failure` : everything that can stop the making of manifests, by its cause;
* `Failure.message`, `Failure.path` : what is said about it, and the file it is about. Nothing is said
  about what went wrong inside a YAML text, a file system or an encoding;
* `Failure.title` : the name under which a failure of the input is shown.
-/

namespace KubeManifest

/-! ## Causes -/

/-- What a file system refuses. A name with the character NUL is no name at all. -/
inductive FileFault
  | missing
  | notDirectory
  | isDirectory
  | alreadyExists
  | nameTooLong
  | nulInName
  | tooManyLinks
  | linkLoop
deriving DecidableEq, Repr

/-- Why a file cannot be taken for a fragment or manifest. -/
inductive ParseFault
  | unreadable
  | badYaml
  | badJson (message : String)
  | notMapping (kind : String)
  | noDocuments
deriving DecidableEq, Repr

/-- What is wrong with an entry of a port list. -/
inductive PortFault
  | undefinedProperty (key : String)
  | badProtocol
  | badShape
  | badHostPort (text : String)
  | notNumber (text : String)
  | outOfRange (value : Int)
deriving DecidableEq, Repr

inductive UrlPortFault
  | notNumber (text : String)
  | tooLong (digits : Nat)
  | outOfRange
deriving DecidableEq, Repr

inductive ConfigFault
  | unreadable
  | notMapping
  | badFormat (format : String)
  | versionsNotMapping
  | imagesNotList
  | noAppName
  | sectionNotMapping (name kind : String)
  | noName (name : String)
  | emptyImageName
  | badTag (tag image : String)
  | badProbeUrl (url : String) (fault : UrlPortFault)
deriving DecidableEq, Repr

inductive OutputFault
  | notDirectory
  | cannotCreate
  | noAccess
  | notWritten
  | sameFile (first second stem : String)
deriving DecidableEq, Repr

/-- Everything that can stop the making of manifests. The last ones are not caused by the input alone: a value
that no operation expects, a file that is not there, bytes that are no text, a structure without an end. Texts are
rows of characters, so that a text with a code point that no character has is not read at all. -/
inductive Failure
  | badFilename (filename : String)
  | unknownToken (token filename : String) (tokens : List String)
  | unparsable (path : String) (fault : ParseFault)
  | noKind (filename : String)
  | badMetadata (filename kind : String)
  | badPort (spec : String) (fault : PortFault)
  | noBuild (image : String)
  | selectorsDiffer (first second : LabelSelector)
  | badConfig (path : Option String) (fault : ConfigFault)
  | badOutput (path : Option String) (fault : OutputFault)
  | misfit (misfit : Misfit)
  | file (fault : FileFault)
  | notText
  | endless
  | noDigits
  | noCharacter
  | badMarkup

instance : MonadLift (Except Misfit) (Except Failure) :=
  ⟨fun e => e.mapError .misfit⟩

namespace Failure

/-! ## Messages -/

def portMessage : PortFault → String
  | .undefinedProperty key => "property '" ++ key ++ "' is not defined"
  | .badProtocol => "protocol must be one of tcp, udp"
  | .badShape => "expected [hostIP:][hostPort:]containerPort[/protocol]"
  | .badHostPort text => "invalid host port '" ++ text ++ "'"
  | .notNumber text => "'" ++ text ++ "' is not a port number"
  | .outOfRange value => "port " ++ toString value ++ " is out of range"

def urlMessage : UrlPortFault → String
  | .notNumber text => "Port could not be cast to integer value as " ++ Text.quoted text
  | .tooLong digits =>
    "Exceeds the limit (" ++ toString Number.maxDigits ++ " digits) for integer string conversion: value has " ++
      toString digits ++ " digits; use sys.set_int_max_str_digits() to increase the limit"
  | .outOfRange => "Port out of range 0-65535"

def configMessage (path : String) : ConfigFault → Option String
  | .unreadable => none
  | .notMapping => some (path ++ " must contain a mapping at the top level")
  | .badFormat format => some ("format must be one of yaml, json, not '" ++ format ++ "'")
  | .versionsNotMapping => some "'versions' must be a mapping"
  | .imagesNotList => some "'images' must be a list"
  | .noAppName => some "No application name: set 'app_name' or 'project.artifact_id'"
  | .sectionNotMapping name kind =>
    some ("'" ++ name ++ "' must be a mapping, not a " ++ kind)
  | .noName name => some (name ++ " entries need a 'name'")
  | .emptyImageName => some "Image name must not be empty"
  | .badTag tag image => some ("Invalid tag '" ++ tag ++ "' in image name " ++ image)
  | .badProbeUrl url fault => some ("Invalid probe URL '" ++ url ++ "': " ++ urlMessage fault)

def outputMessage (path : String) : OutputFault → Option String
  | .notDirectory => some ("Output path " ++ path ++ " is not a directory")
  | .cannotCreate => none
  | .noAccess => some ("No write access to " ++ path)
  | .notWritten => none
  | .sameFile first second stem =>
    some (first ++ " and " ++ second ++ " would both be written to '" ++ stem ++ "'")

def parseMessage (path : String) : ParseFault → Option String
  | .unreadable | .badYaml => none
  | .badJson message => some ("[" ++ path ++ "] " ++ message)
  | .notMapping kind => some ("[" ++ path ++ "] top level must be a mapping, not a " ++ kind)
  | .noDocuments => some ("[" ++ path ++ "] Cannot load kubernetes YAML: no documents")

def message : Failure → Option String
  | badFilename filename =>
    some ("Resource file name '" ++ filename ++
      "' does not match pattern <name>-<type>.(yaml|yml|json)")
  | unknownToken token filename tokens =>
    some ("Unknown type '" ++ token ++ "' for file " ++ filename ++ ". Must be one of : " ++
      ", ".intercalate (tokens.mergeSort fun a b => a ≤ b))
  | unparsable path fault => parseMessage path fault
  | noKind filename =>
    some ("No type given as part of the file name (e.g. 'app-rc.yml') " ++
      "and no 'kind' defined in resource descriptor " ++ filename)
  | badMetadata filename kind =>
    some ("Metadata in " ++ filename ++ " is expected to be a mapping, not a " ++ kind)
  | badPort spec fault => some ("Invalid port mapping '" ++ spec ++ "': " ++ portMessage fault)
  | noBuild image =>
    some ("Image '" ++ image ++ "' is marked as buildable but has no build configuration")
  | selectorsDiffer first second =>
    some ("Multiple selectors found for the given entities: " ++ first.display ++ " - " ++
      second.display)
  | badConfig path fault => configMessage (path.getD "") fault
  | badOutput path fault => outputMessage (path.getD "") fault
  | misfit m => m.message
  | file _ | notText | endless | noDigits | noCharacter | badMarkup => none

def path : Failure → Option String
  | badFilename filename => some filename
  | unknownToken _ filename _ => some filename
  | unparsable path _ => some path
  | noKind filename => some filename
  | badMetadata filename _ => some filename
  | badConfig path _ => path
  | badOutput path _ => path
  | _ => none

/-- The name of a failure that the input causes. -/
def title : Failure → Option String
  | badFilename _ => some "MalformedFilename"
  | unknownToken _ _ _ => some "InvalidFragmentName"
  | unparsable _ _ => some "ParseError"
  | noKind _ => some "MissingKind"
  | badMetadata _ _ => some "InvalidMetadataType"
  | badPort _ _ => some "InvalidPortSpec"
  | noBuild _ => some "MissingBuildConfig"
  | selectorsDiffer _ _ => some "MultipleSelectorsError"
  | badConfig _ _ => some "ConfigError"
  | badOutput _ _ => some "OutputError"
  | misfit _ | file _ | notText | endless | noDigits | noCharacter | badMarkup => none

end Failure

end KubeManifest
